import Mathlib.Logic.Function.Basic

/-!
# Notification lifecycle

The states of a notification, the transitions between them, and the names of the states in the
database and in the protocol, as in `lifecycle/state_machine.rs`.
-/

namespace Estafeta

/-- Strongly-typed notification lifecycle state. -/
inductive NotificationState where
  | unseen
  | unread
  | read
  | snoozed
  | archived
  | expired
  deriving DecidableEq

/-- Strongly-typed state transition. -/
inductive Transition where
  | markSeen
  | markRead
  | markUnread
  | snooze
  | wake
  | archive
  | unarchive
  | expire
  deriving DecidableEq

/-- Error returned when attempting a disallowed state transition. -/
structure InvalidTransition where
  source : NotificationState
  target : NotificationState
  deriving DecidableEq

/-- Error returned when parsing an unrecognized state string or proto value. -/
structure UnknownState where
  name : String
  deriving DecidableEq

/-- The target state this transition leads to. -/
def Transition.target : Transition → NotificationState
  | .markSeen => .unread
  | .markRead => .read
  | .markUnread => .unread
  | .snooze => .snoozed
  | .wake => .unread
  | .archive => .archived
  | .unarchive => .read
  | .expire => .expired

namespace NotificationState

/-- Which transitions are valid from this state. -/
def validTransitions : NotificationState → List Transition
  | .unseen => [.markSeen, .snooze, .archive, .expire]
  | .unread => [.markRead, .snooze, .archive, .expire]
  | .read => [.markUnread, .archive, .expire]
  | .snoozed => [.wake, .expire]
  | .archived => [.unarchive]
  | .expired => [.archive]

/-- Apply a transition, returning the new state or an error. -/
def apply (s : NotificationState) (t : Transition) : Except InvalidTransition NotificationState :=
  if t ∈ s.validTransitions then .ok t.target else .error ⟨s, t.target⟩

/-- Check if transitioning directly to a target state is valid. -/
def canTransitionTo (s target : NotificationState) : Bool :=
  s.validTransitions.any fun t => t.target = target

/-- The database string representation. -/
def asDbStr : NotificationState → String
  | .unseen => "unseen"
  | .unread => "unread"
  | .read => "read"
  | .snoozed => "snoozed"
  | .archived => "archived"
  | .expired => "expired"

/-- Parse from database string. -/
def fromDbStr (s : String) : Except UnknownState NotificationState :=
  match s with
  | "unseen" => .ok .unseen
  | "unread" => .ok .unread
  | "read" => .ok .read
  | "snoozed" => .ok .snoozed
  | "archived" => .ok .archived
  | "expired" => .ok .expired
  | other => .error ⟨other⟩

/-- Convert to proto enum value. -/
def toProto : NotificationState → Int32
  | .unseen => 1
  | .unread => 2
  | .read => 3
  | .snoozed => 4
  | .archived => 5
  | .expired => 6

/-- Parse from proto enum value. -/
def fromProto (v : Int32) : Except UnknownState NotificationState :=
  if v = 1 then .ok .unseen
  else if v = 2 then .ok .unread
  else if v = 3 then .ok .read
  else if v = 4 then .ok .snoozed
  else if v = 5 then .ok .archived
  else if v = 6 then .ok .expired
  else .error ⟨toString v⟩

@[simp] theorem fromDbStr_asDbStr (s : NotificationState) : fromDbStr s.asDbStr = .ok s := by
  cases s <;> rfl

theorem fromDbStr_eq_ok {name : String} {s : NotificationState} :
    fromDbStr name = .ok s ↔ name = s.asDbStr := by
  constructor
  · intro h
    unfold fromDbStr at h
    split at h <;> cases h <;> rfl
  · rintro rfl
    exact fromDbStr_asDbStr s

theorem asDbStr_injective : Function.Injective asDbStr := by
  intro s s' same
  have h := fromDbStr_asDbStr s
  rw [same, fromDbStr_asDbStr] at h
  exact (Except.ok.inj h).symm

theorem fromProto_toProto (s : NotificationState) : fromProto s.toProto = .ok s := by
  cases s <;> rfl

end NotificationState

end Estafeta
