import Estafeta.Histories

/-!
# The statements and the state machine

The lifecycle of a notification is written twice: as the transition table of the state machine,
which no write consults, and as the WHERE clauses of the statements. Here the table of
notifications is abstracted to a map from ids to states, and each statement is compared with the
transition that it stands for.

The two agree except in three places (`Transition.Diverges`): a statement snoozes a read
notification and archives a snoozed one, which the state machine forbids, and no statement archives
an expired notification, which the state machine allows.
-/

open Relational Atomic

namespace Estafeta

open NotificationState (fromDbStr)

/-! ## The abstract machine -/

/-- The state after a transition; a transition that is not valid leaves it as it is. -/
def NotificationState.step (s : NotificationState) (t : Transition) : NotificationState :=
  match s.apply t with
  | .ok s' => s'
  | .error _ => s

theorem NotificationState.step_eq (s : NotificationState) (t : Transition) :
    s.step t = if t ∈ s.validTransitions then t.target else s := by
  by_cases valid : t ∈ s.validTransitions
  · simp only [step, apply, if_pos valid]
  · simp only [step, apply, if_neg valid]

/-- The table of notifications as a map from ids to states. -/
def World.states (w : World) (id : Uuid) : Option NotificationState :=
  (w.notification id).bind fun r => (fromDbStr r.state).toOption

/-- The transition that a statement stands for. -/
def Db.Notifications.Query.transition : Db.Notifications.Query → Option Transition
  | .markSeen .. => some .markSeen
  | .markAllSeen _ => some .markSeen
  | .markRead .. => some .markRead
  | .producerMarkRead .. => some .markRead
  | .markUnread .. => some .markUnread
  | .snooze .. => some .snooze
  | .wakeSnoozed _ => some .wake
  | .archive .. => some .archive
  | .archiveAllInGroup .. => some .archive
  | .unarchive .. => some .unarchive
  | _ => none

/-- The rows that a statement addresses, by owner, id, service and time, and that its batch has room
for if they are in a state in which it changes rows. -/
def Db.Notifications.Query.selects (env : Env) (db : Db) (q : Db.Notifications.Query)
    (r : NotificationRow) : Bool :=
  q.addresses env.now r && (r.state ∉ q.sources || q.batched env db r)

/-- Where a statement and its transition differ. -/
def Transition.Diverges : Transition → NotificationState → Bool
  | .snooze, .read => true
  | .archive, .snoozed => true
  | .archive, .expired => true
  | _, _ => false

/-- The statement of an event does to the state of a notification what its transition does: it
performs it where it is valid and the notification is selected, and changes nothing elsewhere; and
`expire_notifications` moves a notification only where expiry is valid. -/
def RefinesAt (ext : Ext) (e : Event Call Op Op.Ans World Choice) (id : Uuid) : Prop :=
  ∀ q r, ran e.op e.ans = some q → e.before.notification id = some r →
    (∀ t, q.transition = some t →
      e.after.states id =
        if q.selects (e.choice.env ext) e.before.db r then (e.before.states id).map (·.step t)
        else e.before.states id) ∧
    ∀ size, q = .expireNotifications size → e.after.states id ≠ e.before.states id →
      ∃ s s', e.before.states id = some s ∧ s.apply .expire = .ok s' ∧ e.after.states id = some s'

/-- The statement of an event addresses a notification in a state in which it diverges. -/
def DivergesAt (ext : Ext) (e : Event Call Op Op.Ans World Choice) (id : Uuid) : Prop :=
  ∃ q t r s, ran e.op e.ans = some q ∧ q.transition = some t ∧
    e.before.notification id = some r ∧ fromDbStr r.state = .ok s ∧
    q.selects (e.choice.env ext) e.before.db r = true ∧ t.Diverges s = true

/-! ## Comparing the two -/

section

variable {q : Db.Notifications.Query} {t : Transition} {s : NotificationState}
  {r : NotificationRow} {env : Env} {db : Db}

theorem set_state (h : q.transition = some t) (now : Time) (r : NotificationRow) :
    ((q.set now).set r).state = t.target.asDbStr := by
  cases q <;> cases h <;> rfl

/-- A statement changes the states from which its transition is valid, but for the divergence. -/
theorem source_iff (h : q.transition = some t) (s : NotificationState) :
    s.asDbStr ∈ q.sources ↔ (t ∈ s.validTransitions ↔ t.Diverges s = false) := by
  cases q <;> cases h <;> simp only [Db.Notifications.Query.sources] <;> cases s <;> decide

theorem target_ne (h : t.Diverges s = true) : t.target ≠ s := by
  cases t <;> cases s <;> cases h <;> intro same <;> cases same

theorem stored_state (h : r ∈ db.notifications.rows) : ∃ s, fromDbStr r.state = .ok s := by
  have := Db.Notifications.state_mem h
  simp only [stateNames, List.mem_cons, List.not_mem_nil, or_false] at this
  rcases this with h | h | h | h | h | h <;> rw [h] <;> exact ⟨_, rfl⟩

theorem rewrite_state (h : q.transition = some t) (hs : fromDbStr r.state = .ok s) :
    fromDbStr (q.rewrite env db r).state =
      .ok (if q.selects env db r ∧ s.asDbStr ∈ q.sources then t.target else s) := by
  have name := NotificationState.fromDbStr_eq_ok.1 hs
  have same : q.changes env db r = true ↔ q.selects env db r = true ∧ s.asDbStr ∈ q.sources := by
    simp only [Db.Notifications.Query.changes, Db.Notifications.Query.selects, Bool.and_eq_true,
      decide_eq_true_eq, Bool.or_eq_true, name]
    tauto
  unfold Db.Notifications.Query.rewrite
  by_cases changed : q.changes env db r = true
  · rw [if_pos changed, if_pos (same.1 changed), set_state h]
    exact NotificationState.fromDbStr_asDbStr _
  · rw [if_neg changed, if_neg fun both => changed (same.2 both), hs]

theorem rewrite_unselected (h : q.transition = some t) (hs : fromDbStr r.state = .ok s)
    (unselected : ¬ q.selects env db r = true) :
    fromDbStr (q.rewrite env db r).state = .ok s := by
  rw [rewrite_state h hs, if_neg fun both => unselected both.1]

/-- Where they do not diverge, a statement performs its transition on a row that it selects. -/
theorem rewrite_agrees (h : q.transition = some t) (hs : fromDbStr r.state = .ok s)
    (selected : q.selects env db r = true) (agrees : t.Diverges s = false) :
    fromDbStr (q.rewrite env db r).state = .ok (s.step t) := by
  have valid : s.asDbStr ∈ q.sources ↔ t ∈ s.validTransitions := by
    rw [source_iff h, agrees]
    simp
  simp only [rewrite_state h hs, NotificationState.step_eq, selected, valid, true_and]

theorem rewrite_diverges (h : q.transition = some t) (hs : fromDbStr r.state = .ok s)
    (selected : q.selects env db r = true) (diverges : t.Diverges s = true) :
    fromDbStr (q.rewrite env db r).state ≠ .ok (s.step t) := by
  have valid : s.asDbStr ∈ q.sources ↔ t ∉ s.validTransitions := by
    rw [source_iff h, diverges]
    simp
  rw [rewrite_state h hs, NotificationState.step_eq]
  simp only [selected, valid, true_and, ne_eq, Except.ok.injEq]
  by_cases t ∈ s.validTransitions
  next allowed => simpa [allowed] using (target_ne diverges).symm
  next forbidden => simpa [forbidden] using target_ne diverges

theorem rewrite_expire {size : Int64} (hs : fromDbStr r.state = .ok s)
    (moved : ((Db.Notifications.Query.expireNotifications size).rewrite env db r).state ≠ r.state) :
    s.apply .expire = .ok .expired ∧
      ((Db.Notifications.Query.expireNotifications size).rewrite env db r).state = "expired" := by
  rcases Db.Notifications.rewrite_cases env db (.expireNotifications size) r
    with same | ⟨_, source, set⟩
  · exact absurd (by rw [same]) moved
  · rw [NotificationState.fromDbStr_eq_ok.1 hs] at source
    refine ⟨?_, by rw [set]; rfl⟩
    revert source
    simp only [Db.Notifications.Query.sources]
    cases s <;> decide

end

/-- In every run, a statement does to a notification what its transition does exactly if it does
not address the notification in a state in which the two diverge. -/
theorem refines_iff_not_diverges {ext : Ext} {w₀ : World} {es : History} {p : State}
    (run : (system ext).Run (Pool.idle w₀) es p) :
    ∀ e ∈ es, ∀ id, RefinesAt ext e id ↔ ¬ DivergesAt ext e id := by
  intro e he id
  have rewritten : ∀ q r, ran e.op e.ans = some q → e.before.notification id = some r →
      e.after.notification id = some (q.rewrite (e.choice.env ext) e.before.db r) := by
    obtain ⟨i, c, o, x, w, rfl⟩ := performed run e he
    exact fun q r ran stored => notification_of_ran ran stored
  have before : ∀ {r s}, e.before.notification id = some r → fromDbStr r.state = .ok s →
      e.before.states id = some s := by
    intro r s stored hs
    simp [World.states, stored, hs, Except.toOption]
  have after : ∀ {q r}, ran e.op e.ans = some q → e.before.notification id = some r →
      e.after.states id =
        (fromDbStr (q.rewrite (e.choice.env ext) e.before.db r).state).toOption := by
    intro q r ran stored
    simp [World.states, rewritten q r ran stored]
  constructor
  · rintro refines ⟨q, t, r, s, ran, htr, stored, hs, selected, diverges⟩
    have h := (refines q r ran stored).1 t htr
    rw [after ran stored, before stored hs, if_pos selected] at h
    obtain ⟨s', hs'⟩ : ∃ s', fromDbStr (q.rewrite (e.choice.env ext) e.before.db r).state = .ok s' :=
      ⟨_, rewrite_state htr hs⟩
    apply rewrite_diverges htr hs selected diverges
    rw [hs'] at h ⊢
    simpa [Except.toOption] using h
  · intro agrees q r ran stored
    obtain ⟨s, hs⟩ := stored_state (Table.mem_of_lookup stored)
    refine ⟨fun t htr => ?_, ?_⟩
    · rw [after ran stored, before stored hs]
      by_cases selected : q.selects (e.choice.env ext) e.before.db r = true
      · have same : t.Diverges s = false := by
          by_contra diverges
          exact agrees ⟨q, t, r, s, ran, htr, stored, hs, selected, by simpa using diverges⟩
        rw [if_pos selected, rewrite_agrees htr hs selected same]
        rfl
      · rw [if_neg selected, rewrite_unselected htr hs selected]
        rfl
    · rintro size rfl moved
      have moved : ((Db.Notifications.Query.expireNotifications size).rewrite (e.choice.env ext)
          e.before.db r).state ≠ r.state := by
        intro same
        apply moved
        rw [after ran stored, same, hs, before stored hs]
        rfl
      obtain ⟨valid, expired⟩ := rewrite_expire hs moved
      refine ⟨s, .expired, before stored hs, valid, ?_⟩
      rw [after ran stored, expired]
      rfl

/-- `ann` snoozes a notification that she has read. -/
def Sample.snoozing : State × History :=
  Sample.played (Sample.world (.single (Sample.notification "read") rfl) [])
    [.start 0 (.rpc 0 (some Sample.ann) (.snooze ⟨"3", some ⟨60, 0⟩⟩)), .step 0 Sample.choice]

theorem refines_iff_not_diverges_snoozing : Sample.snoozing.2.length = 1 ∧
    ∀ e ∈ Sample.snoozing.2, ∀ id, RefinesAt Sample.ext e id ↔ ¬ DivergesAt Sample.ext e id :=
  ⟨rfl, refines_iff_not_diverges (Sample.run_played rfl)⟩

/-- A read notification can be snoozed, although the state machine forbids it. -/
theorem not_refines : ¬ ∀ (ext : Ext) (w₀ : World) (es : History) (p : State),
    (system ext).Run (Pool.idle w₀) es p → ∀ e ∈ es, ∀ id, RefinesAt ext e id := by
  intro refines
  have run : (system Sample.ext).Run _ Sample.snoozing.2 _ := Sample.run_played rfl
  obtain ⟨e, he⟩ : ∃ e, Sample.snoozing.2 = [e] := ⟨_, rfl⟩
  have h := refines _ _ _ _ run e (he ▸ .head _) 3
  obtain rfl := (List.cons.inj he).1
  have changes := (h _ _ rfl rfl).1 .snooze rfl
  exact absurd changes (by decide)

end Estafeta
