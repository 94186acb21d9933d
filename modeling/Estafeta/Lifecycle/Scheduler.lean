import Estafeta.World

/-!
# The background scheduler

One pass of each of the three loops of `lifecycle/scheduler.rs`: snooze wake-up, TTL expiry and
escalation. Every instance runs all three.
-/

open Atomic

namespace Estafeta

variable (ext : Ext)

/-- How many rows a pass handles at most. -/
def batchSize : Int64 := 100

/-- The event that a notification changed its state. -/
def stateChangeEvent (notif : NotificationRow) (oldState newState : Option String) :
    RealtimeEvent where
  eventType := .stateChange
  notificationId := notif.id
  serviceSlug := ""
  notificationType := ""
  level := none
  payload := none
  groupKey := none
  metadata := none
  oldState := oldState
  newState := newState
  unseenCount := none
  actionUrl := none
  icon := none

/-- Publish a state change event to NATS Core. -/
def publishStateChange (userId : String) (event : RealtimeEvent) : Program String Unit := do
  let _ ← perform (.publish s!"rt.user.{userId}.state" event)

def runSnoozeWake : Program String Unit := do
  let woken : List NotificationRow ← ext.run (.notifications (.wakeSnoozed batchSize))
  forM woken fun notif =>
    publishStateChange notif.recipientUserId
      (stateChangeEvent notif (some "snoozed") (some "unread"))

def runTtlExpiry : Program String Unit := do
  let expired : List NotificationRow ← ext.run (.notifications (.expireNotifications batchSize))
  forM expired fun notif =>
    -- the old state could be unseen, unread or read
    publishStateChange notif.recipientUserId (stateChangeEvent notif none (some "expired"))

/-- When a notification that has been escalated `newCount` times is due again. -/
def nextEscalation (notifType : Option NotificationTypeRow) (newCount : Int32) :
    Program String (Option Time) :=
  match notifType with
  | some nt =>
    if newCount < nt.maxEscalations then
      match nt.escalationIntervalSeconds with
      | some s => some <$> fromNow s
      | none => pure none
    -- max escalations reached
    else pure none
  | none => pure none

/-- The escalation action of a type. -/
def escalationAction (notifType : Option NotificationTypeRow) : String :=
  (notifType.map (·.escalationAction)).getD "resurface"

/-- Perform an escalation action; elevation is not implemented, and resurfaces. -/
def escalationQuery (action : String) (id : Uuid) : Db.Notifications.Query :=
  match action with
  | "resurface" => .resurfaceNotification id
  | "bump" => .bumpNotification id
  | "elevate" => .resurfaceNotification id
  | _ => .resurfaceNotification id

theorem escalationQuery_cases (action : String) (id : Uuid) :
    escalationQuery action id = .resurfaceNotification id ∨
      escalationQuery action id = .bumpNotification id := by
  unfold escalationQuery
  split <;> simp

/-- The body of the loop of `runEscalation`. -/
def escalate (notif : NotificationRow) : Program String Unit := do
  let newCount := notif.escalationCount + 1
  let notifType ← ext.run (.schemas (.getNotificationTypeById notif.notificationTypeId))
  let nextEscalationAt ← nextEscalation notifType newCount
  ext.run (.notifications (.updateEscalation notif.id newCount nextEscalationAt))
  let _ ← ext.run (.notifications (escalationQuery (escalationAction notifType) notif.id))

def runEscalation : Program String Unit := do
  let due : List NotificationRow ← ext.run (.notifications (.getEscalationDue batchSize))
  forM due (escalate ext)

end Estafeta
