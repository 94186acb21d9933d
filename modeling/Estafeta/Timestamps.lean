import Estafeta.Rows

/-!
# The times of a notification and its state

A rule relates the times of a notification to its state (`TimeRule`). Every new row follows it, and
so does every row that a statement writes, except where the rule says that the statement breaks it;
so all rows follow it, always, if and only if no statement ever changes a row that it breaks the
rule on (`TimeRule.follows_iff`). The three rules are those of `seen_at`, `read_at` and `snoozed_until`.
-/

open Relational Atomic

namespace Estafeta

open Db.Notifications (Query)

/-- What the rows are meant to follow, and on which rows a statement breaks it. -/
structure TimeRule where
  Follows : NotificationRow → Prop
  breaks : Query → NotificationRow → Bool
  new : ∀ r : NotificationRow, r.state = "unseen" ∨ r.state = "archived" → r.seenAt = none →
    r.readAt = none → r.snoozedUntil = none → Follows r
  kept : ∀ (q : Query) now r, r.state ∈ q.sources → Follows r → breaks q r = false →
    Follows ((q.set now).set r)
  broken : ∀ (q : Query) now r, r.state ∈ q.sources →
    (r.state = "snoozed" → r.snoozedUntil ≠ none) → breaks q r = true →
    ¬ Follows ((q.set now).set r)

namespace TimeRule

variable {ext : Ext} {w₀ w : World} {es : History} {g : ℕ → Option (Call × Phase)}
  {e : Event Call Op Op.Ans World Choice}

/-- The statement of an event, if it ran, changes no row on which it breaks the rule. -/
def Meets (rule : TimeRule) (ext : Ext) (e : Event Call Op Op.Ans World Choice) : Prop :=
  ∀ q, ran e.op e.ans = some q → ∀ r ∈ e.before.db.notifications.rows,
    q.changes (e.choice.env ext) e.before.db r = true → rule.breaks q r = false

/-- If the statements of a run meet a rule, its rows follow it. -/
theorem follows (rule : TimeRule) (run : Phased ext w₀ es w g)
    (empty : w₀.db.notifications = .empty) (meets : ∀ e ∈ es, rule.Meets ext e) :
    ∀ r ∈ w.db.notifications.rows, rule.Follows r := by
  have always := rows_invariant (fun es r => (∀ e ∈ es, rule.Meets ext e) → rule.Follows r)
    ?start ?later ?ins ?kept run
  · exact fun r stored => always r stored meets
  case start =>
    rw [empty]
    intro r stored
    cases stored
  case later =>
    intro es e r follows meets
    exact follows fun e' he' => meets e' (List.mem_append_left _ he')
  case ins =>
    intro es e payload n _ new _
    exact rule.new _ new.state rfl rfl rfl
  case kept =>
    intro es w g i c s o x q r _ _ _ hq stored follows _ meets
    have before := follows fun e' he' => meets e' (List.mem_append_left _ he')
    unfold Query.rewrite
    split
    next changed =>
      have unbroken := meets ((system ext).event i c o x w) (by simp) q hq r stored changed
      simp only [Query.changes, Bool.and_eq_true, decide_eq_true_eq] at changed
      exact rule.kept q x.now r changed.1.2 before unbroken
    next => exact before

/-- A statement that breaks a rule on a row leaves a row that does not follow it. -/
theorem meets (rule : TimeRule) (run : Phased ext w₀ es w g)
    (empty : w₀.db.notifications = .empty) (he : e ∈ es)
    (follows : ∀ r ∈ e.after.db.notifications.rows, rule.Follows r) : rule.Meets ext e := by
  intro q hq r stored changed
  obtain ⟨pre, post, rfl⟩ := List.append_of_mem he
  obtain ⟨g', i, c, s, o, x, w', rfl, run', _⟩ := run.at
  have after := notification_of_ran (x := x) (w := w') hq (stored_iff.1 stored)
  have changed : q.changes (x.env ext) w'.db r = true := changed
  rw [Query.rewrite, if_pos changed] at after
  simp only [Query.changes, Bool.and_eq_true, decide_eq_true_eq] at changed
  by_contra breaks
  refine rule.broken q x.now r changed.1.2 ?_ (by simpa using breaks)
    (follows _ (Table.mem_of_lookup after))
  exact (sound run' empty r stored).snoozed

/-- All rows follow a rule after every operation if and only if every operation meets it. -/
theorem follows_iff (rule : TimeRule) {p : State} (run : (system ext).Run (Pool.idle w₀) es p)
    (empty : w₀.db.notifications = .empty) :
    (∀ e ∈ es, ∀ r ∈ e.after.db.notifications.rows, rule.Follows r) ↔
      ∀ e ∈ es, rule.Meets ext e := by
  obtain ⟨g, watched, _⟩ := phased run
  constructor
  · exact fun follows e he => rule.meets watched empty he (follows e he)
  · intro meets e he
    obtain ⟨pre, post, rfl⟩ := List.append_of_mem he
    obtain ⟨g', i, c, s, o, x, w', rfl, run', at_call, permitted, _⟩ := watched.at
    refine rule.follows (run'.step x at_call permitted) empty fun e' he' => meets e' ?_
    rcases List.mem_append.1 he' with he' | he'
    · exact List.mem_append_left _ he'
    · exact List.mem_append_right _ (List.mem_singleton.1 he' ▸ .head _)

end TimeRule

/-! ## The rules -/

/-- A notification that is unread or read has been seen. -/
def NotificationRow.SeenAgrees (r : NotificationRow) : Prop :=
  r.state = "unread" ∨ r.state = "read" → r.seenAt ≠ none

/-- A notification that is read has been read, and one that is unseen or unread has not. -/
def NotificationRow.ReadAgrees (r : NotificationRow) : Prop :=
  (r.state = "read" → r.readAt ≠ none) ∧ (r.state = "unseen" ∨ r.state = "unread" → r.readAt = none)

/-- A notification that is not snoozed has no time at which it wakes. -/
def NotificationRow.SnoozeAgrees (r : NotificationRow) : Prop :=
  r.state ≠ "snoozed" → r.snoozedUntil = none

/-- Waking and unarchiving do not mark a notification as seen. -/
def seenRule : TimeRule where
  Follows := NotificationRow.SeenAgrees
  breaks q r :=
    match q with
    | .wakeSnoozed _ | .unarchive .. => r.seenAt.isNone
    | _ => false
  new r state _ _ _ := by
    rcases state with state | state <;> simp [NotificationRow.SeenAgrees, state]
  kept q now r source follows unbroken := by
    simp only [NotificationRow.SeenAgrees] at follows ⊢
    cases q with
    | wakeSnoozed | unarchive =>
      intro _ unseen
      simp [Query.set, Db.Notifications.wake, Db.Notifications.unarchive] at unseen
      simp [unseen] at unbroken
    | markSeen | markAllSeen => exact fun _ => Option.some_ne_none now
    | markRead | producerMarkRead => exact fun _ => follows (.inl (List.mem_singleton.1 source))
    | markUnread => exact fun _ => follows (.inr (List.mem_singleton.1 source))
    | snooze | archive | archiveAllInGroup | expireNotifications | resurfaceNotification =>
      simp [Query.set, Db.Notifications.snooze, Db.Notifications.archive,
        Db.Notifications.archiveAllInGroup, Db.Notifications.expire,
        Db.Notifications.resurfaceNotification]
    | _ => exact follows
  broken q now r source _ breaks follows := by
    simp only [NotificationRow.SeenAgrees] at follows
    cases q with
    | wakeSnoozed => exact follows (.inl rfl) (Option.isNone_iff_eq_none.1 breaks)
    | unarchive => exact follows (.inr rfl) (Option.isNone_iff_eq_none.1 breaks)
    | _ => cases breaks

/-- Unarchiving does not set the time at which a notification was read, waking and resurfacing do
not clear it. -/
def readRule : TimeRule where
  Follows := NotificationRow.ReadAgrees
  breaks q r :=
    match q with
    | .unarchive .. => r.readAt.isNone
    | .wakeSnoozed _ | .resurfaceNotification _ => r.readAt.isSome
    | _ => false
  new r state _ unread _ := by
    rcases state with state | state <;> simp [NotificationRow.ReadAgrees, state, unread]
  kept q now r source follows unbroken := by
    simp only [NotificationRow.ReadAgrees] at follows ⊢
    cases q with
    | unarchive =>
      refine ⟨fun _ unread => ?_, fun state => ?_⟩
      · simp [Query.set, Db.Notifications.unarchive] at unread
        simp [unread] at unbroken
      · simp [Query.set, Db.Notifications.unarchive] at state
    | wakeSnoozed | resurfaceNotification =>
      refine ⟨fun state => ?_, fun _ =>
        Option.isNone_iff_eq_none.1 (Option.isSome_eq_false_iff.1 unbroken)⟩
      simp [Query.set, Db.Notifications.wake, Db.Notifications.resurfaceNotification] at state
    | markSeen | markAllSeen =>
      refine ⟨fun state => ?_, fun _ => follows.2 (.inl (List.mem_singleton.1 source))⟩
      simp [Query.set, Db.Notifications.markSeen, Db.Notifications.markAllSeen] at state
    | markRead | producerMarkRead =>
      refine ⟨fun _ => Option.some_ne_none now, fun state => ?_⟩
      simp [Query.set, Db.Notifications.markRead, Db.Notifications.producerMarkRead] at state
    | markUnread =>
      refine ⟨fun state => ?_, fun _ => rfl⟩
      simp [Query.set, Db.Notifications.markUnread] at state
    | snooze | archive | archiveAllInGroup | expireNotifications =>
      simp [Query.set, Db.Notifications.snooze, Db.Notifications.archive,
        Db.Notifications.archiveAllInGroup, Db.Notifications.expire]
    | _ => exact follows
  broken q now r source _ breaks follows := by
    simp only [NotificationRow.ReadAgrees] at follows
    cases q with
    | unarchive => exact follows.1 rfl (Option.isNone_iff_eq_none.1 breaks)
    | wakeSnoozed => exact Option.isSome_iff_ne_none.1 breaks (follows.2 (.inr rfl))
    | resurfaceNotification => exact Option.isSome_iff_ne_none.1 breaks (follows.2 (.inl rfl))
    | _ => cases breaks

/-- Archiving and resurfacing a snoozed notification do not clear its wake-up time. -/
def snoozeRule : TimeRule where
  Follows := NotificationRow.SnoozeAgrees
  breaks q r :=
    match q with
    | .archive .. | .archiveAllInGroup .. | .resurfaceNotification _ => r.state = "snoozed"
    | _ => false
  new r state _ _ awake _ := awake
  kept q now r source follows unbroken := by
    simp only [NotificationRow.SnoozeAgrees] at follows ⊢
    cases q with
    | archive | archiveAllInGroup | resurfaceNotification =>
      exact fun _ => follows (of_decide_eq_false unbroken)
    | wakeSnoozed => exact fun _ => rfl
    | snooze => exact fun awake => absurd rfl awake
    | updateEscalation | bumpNotification => exact follows
    | _ =>
      refine fun _ => follows fun asleep => ?_
      rw [asleep] at source
      exact absurd source (by simp [Query.sources])
  broken q now r source snoozed breaks follows := by
    simp only [NotificationRow.SnoozeAgrees] at follows
    cases q with
    | archive | archiveAllInGroup =>
      exact snoozed (of_decide_eq_true breaks) (follows (show "archived" ≠ "snoozed" by decide))
    | resurfaceNotification =>
      exact snoozed (of_decide_eq_true breaks) (follows (show "unseen" ≠ "snoozed" by decide))
    | _ => cases breaks

/-! ## Runs that break them -/

namespace Sample

/-- A processor stores `message`, and the actions `as` follow. -/
def delivered (as : List (Action Call Choice)) : State × History :=
  played (world .empty [.ok message])
    (.start 0 (.processor 0 0) :: (List.replicate 16 (.step 0 choice) ++ as))

/-- A request of `ann` that runs one statement. -/
def asked (i : ℕ) (r : Rpc) : List (Action Call Choice) :=
  [.start i (.rpc 0 (some ann) r), .step i choice]

/-- `ann` snoozes an unseen notification, and it wakes. -/
def wokenUnseen : State × History :=
  delivered (asked 1 (.snooze ⟨"3", some ⟨1, 0⟩⟩) ++
    [.start 2 .snoozeWake, .step 2 { choice with now := 2000000 }])

/-- `ann` archives an unseen notification and takes it back. -/
def unarchivedUnseen : State × History :=
  delivered (asked 1 (.archive ⟨["3"]⟩) ++ asked 2 (.unarchive ⟨["3"]⟩))

/-- `ann` archives a snoozed notification. -/
def archivedSnoozed : State × History :=
  delivered (asked 1 (.snooze ⟨"3", some ⟨1, 0⟩⟩) ++ asked 2 (.archive ⟨["3"]⟩))

end Sample

/-- The request of an admin that resurfaces a notification. -/
def Call.resurfaces : Call → Bool
  | .rpc _ _ (.resurfaceNotification _) => true
  | _ => false

section

variable (ext : Ext) {w₀ : World} {es : History} {p : State}

/-- The notifications that are unread or read have been seen, after every operation of a run, if and
only if none is woken or unarchived that has not. -/
theorem seenAgrees_iff (run : (system ext).Run (Pool.idle w₀) es p)
    (empty : w₀.db.notifications = .empty) :
    (∀ e ∈ es, ∀ r ∈ e.after.db.notifications.rows, r.SeenAgrees) ↔
      ∀ e ∈ es, seenRule.Meets ext e :=
  seenRule.follows_iff run empty

theorem seenAgrees_iff_woken :
    (∀ e ∈ Sample.wokenUnseen.2, ∀ r ∈ e.after.db.notifications.rows, r.SeenAgrees) ↔
      ∀ e ∈ Sample.wokenUnseen.2, seenRule.Meets Sample.ext e :=
  seenAgrees_iff Sample.ext (Sample.run_played rfl) rfl

/-- A notification that was snoozed before it was seen wakes as unread. -/
theorem not_seenAgrees : ¬ ∀ (ext : Ext) (w₀ : World) (es : History) (p : State),
    (system ext).Run (Pool.idle w₀) es p → w₀.db.notifications = .empty → Serial es →
      (∀ e ∈ es, e.call.resurfaces = false) →
      ∀ r ∈ p.world.db.notifications.rows, r.SeenAgrees := by
  intro agrees
  have serial : Serial Sample.wokenUnseen.2 := by
    have tids : Sample.wokenUnseen.2.map (·.tid) = List.replicate 16 0 ++ [1, 2] := rfl
    apply List.pairwise_map.1
    rw [tids]
    decide
  have others : Sample.wokenUnseen.2.all (fun e => !e.call.resurfaces) = true := rfl
  obtain ⟨r, stored, state, unseen⟩ : ∃ r ∈ Sample.wokenUnseen.1.world.db.notifications.rows,
      r.state = "unread" ∧ r.seenAt = none := ⟨_, .head _, rfl, rfl⟩
  exact agrees _ _ _ _ (Sample.run_played rfl) rfl serial
    (fun e he => by simpa using List.all_eq_true.1 others e he) r stored (.inl state) unseen

/-- The time at which a notification was read agrees with its state, after every operation of a run,
if and only if none is unarchived that has not been read, and none woken or resurfaced that has. -/
theorem readAgrees_iff (run : (system ext).Run (Pool.idle w₀) es p)
    (empty : w₀.db.notifications = .empty) :
    (∀ e ∈ es, ∀ r ∈ e.after.db.notifications.rows, r.ReadAgrees) ↔
      ∀ e ∈ es, readRule.Meets ext e :=
  readRule.follows_iff run empty

theorem readAgrees_iff_unarchived :
    (∀ e ∈ Sample.unarchivedUnseen.2, ∀ r ∈ e.after.db.notifications.rows, r.ReadAgrees) ↔
      ∀ e ∈ Sample.unarchivedUnseen.2, readRule.Meets Sample.ext e :=
  readAgrees_iff Sample.ext (Sample.run_played rfl) rfl

/-- A notification that was archived before it was read is unarchived as read. -/
theorem not_readAgrees : ¬ ∀ (ext : Ext) (w₀ : World) (es : History) (p : State),
    (system ext).Run (Pool.idle w₀) es p → w₀.db.notifications = .empty →
      ∀ r ∈ p.world.db.notifications.rows, r.ReadAgrees := by
  intro agrees
  obtain ⟨r, stored, state, unread⟩ :
      ∃ r ∈ Sample.unarchivedUnseen.1.world.db.notifications.rows,
        r.state = "read" ∧ r.readAt = none := ⟨_, .head _, rfl, rfl⟩
  exact (agrees _ _ _ _ (Sample.run_played rfl) rfl r stored).1 state unread

/-- The notifications that are not snoozed have no wake-up time, after every operation of a run, if
and only if none is archived or resurfaced that is snoozed. -/
theorem snoozeAgrees_iff (run : (system ext).Run (Pool.idle w₀) es p)
    (empty : w₀.db.notifications = .empty) :
    (∀ e ∈ es, ∀ r ∈ e.after.db.notifications.rows, r.SnoozeAgrees) ↔
      ∀ e ∈ es, snoozeRule.Meets ext e :=
  snoozeRule.follows_iff run empty

theorem snoozeAgrees_iff_archived :
    (∀ e ∈ Sample.archivedSnoozed.2, ∀ r ∈ e.after.db.notifications.rows, r.SnoozeAgrees) ↔
      ∀ e ∈ Sample.archivedSnoozed.2, snoozeRule.Meets Sample.ext e :=
  snoozeAgrees_iff Sample.ext (Sample.run_played rfl) rfl

/-- A notification that was archived while it was snoozed keeps its wake-up time. -/
theorem not_snoozeAgrees : ¬ ∀ (ext : Ext) (w₀ : World) (es : History) (p : State),
    (system ext).Run (Pool.idle w₀) es p → w₀.db.notifications = .empty →
      ∀ r ∈ p.world.db.notifications.rows, r.SnoozeAgrees := by
  intro agrees
  obtain ⟨r, stored, state, until_⟩ :
      ∃ r ∈ Sample.archivedSnoozed.1.world.db.notifications.rows,
        r.state = "archived" ∧ r.snoozedUntil = some 1000000 := ⟨_, .head _, rfl, rfl⟩
  have cleared := agrees _ _ _ _ (Sample.run_played rfl) rfl r stored
  rw [NotificationRow.SnoozeAgrees, state, until_] at cleared
  exact absurd (cleared (by decide)) (Option.some_ne_none _)

end

end Estafeta
