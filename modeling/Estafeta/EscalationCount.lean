import Estafeta.Escalation

/-!
# Counting escalations

The number of times that passes have resurfaced or bumped a notification, compared with the
notification's escalation count. A pass reads the count, and writes the next one as an absolute
value in a later statement; the two agree as long as no other update of the count falls between
(`Overtaken`).
-/

open Relational Atomic

namespace Estafeta

/-- The statement updates the escalation count of a notification. -/
def Db.Notifications.Query.recounts (id : Uuid) : Db.Notifications.Query → Bool
  | .updateEscalation id' .. => id' = id
  | _ => false

/-- The statement resurfaces or bumps a notification. -/
def Db.Notifications.Query.escalates (id : Uuid) : Db.Notifications.Query → Bool
  | .resurfaceNotification id' => id' = id
  | .bumpNotification id' => id' = id
  | _ => false

/-- The call is an escalation pass. -/
def Call.escalating : Call → Bool
  | .escalation => true
  | _ => false

/-- The event updates the escalation count of a notification. -/
def recounts (id : Uuid) (e : Event Call Op Op.Ans World Choice) : Bool :=
  (ran e.op e.ans).any (·.recounts id)

/-- In the event an escalation pass resurfaces or bumps a notification. -/
def escalates (id : Uuid) (e : Event Call Op Op.Ans World Choice) : Bool :=
  e.call.escalating && (ran e.op e.ans).any (·.escalates id)

/-- The count of a notification is updated between the read in which a pass finds the notification
due and the pass's own update of the count. -/
def Overtaken (es : History) (id : Uuid) : Prop :=
  ∃ pre scan mid update post, es = pre ++ scan :: (mid ++ update :: post) ∧
    scan.tid = update.tid ∧ (∃ r ∈ found scan.op scan.ans, r.id = id) ∧
    recounts id update = true ∧ ∃ e ∈ mid, recounts id e = true

/-- A notification of the type that has not been escalated, and is armed only if the type allows an
escalation. -/
structure Fresh (nt : NotificationTypeRow) (r : NotificationRow) : Prop where
  type : r.notificationTypeId = nt.id
  count : r.escalationCount = 0
  armed : r.nextEscalationAt ≠ none → 0 < nt.maxEscalations

/-- The circumstances under which escalations of a notification are counted: its type row is fixed,
the notification was fresh when it was stored, and no pass ends with an error between its update of
the count and its action. -/
structure Steady (nt : NotificationTypeRow) (id : Uuid) (w₀ : World) (es : History) : Prop where
  type : ∀ e ∈ es, e.before.db.notificationTypes.lookup (.id nt.id) = some nt
  stored : ∀ r, w₀.notification id = some r → Fresh nt r
  inserted : ∀ e ∈ es, ∀ n, inserted e.op e.ans = some n → n.id = id →
    Fresh nt (n.row e.choice.now)
  succeeds : ∀ e ∈ es, e.call = .escalation →
    e.op = .sql (.notifications (.resurfaceNotification id)) ∨
      e.op = .sql (.notifications (.bumpNotification id)) → e.choice.failure = none

/-- The type of a notification never allows more escalations than `nt`, and the notification was fresh
when it was stored. -/
structure Capped (nt : NotificationTypeRow) (id : Uuid) (w₀ : World) (es : History) : Prop where
  type : ∀ e ∈ es, ∀ nt', e.before.db.notificationTypes.lookup (.id nt.id) = some nt' →
    nt'.maxEscalations ≤ nt.maxEscalations
  stored : ∀ r, w₀.notification id = some r → Fresh nt r
  inserted : ∀ e ∈ es, ∀ n, inserted e.op e.ans = some n → n.id = id →
    Fresh nt (n.row e.choice.now)

/-- No escalation pass is in progress. -/
def Quiescent (p : State) : Prop :=
  ∀ i q, p.threads i = some (.escalation, q) → q.Done

section

variable {ext : Ext} {w₀ w : World} {es pre : History} {g : ℕ → Option (Call × Phase)} {id : Uuid}
  {nt : NotificationTypeRow} {r : NotificationRow} {env : Env} {db : Db}
  {q : Db.Notifications.Query}

theorem Steady.initial (steady : Steady nt id w₀ es) (h : pre <+: es) : Steady nt id w₀ pre where
  type e he := steady.type e (h.subset he)
  stored := steady.stored
  inserted e he := steady.inserted e (h.subset he)
  succeeds e he := steady.succeeds e (h.subset he)

theorem Steady.capped (steady : Steady nt id w₀ es) : Capped nt id w₀ es where
  type e he nt' found := by
    cases (steady.type e he).symm.trans found
    exact Int32.le_refl _
  stored := steady.stored
  inserted := steady.inserted

theorem Capped.initial (capped : Capped nt id w₀ es) (h : pre <+: es) : Capped nt id w₀ pre where
  type e he := capped.type e (h.subset he)
  stored := capped.stored
  inserted e he := capped.inserted e (h.subset he)

/-! ## What updates the count -/

theorem recounts_iff {e : Event Call Op Op.Ans World Choice} :
    recounts id e = true ↔ ∃ count next, ran e.op e.ans = some (.updateEscalation id count next) := by
  rw [recounts, Option.any_eq_true]
  constructor
  · rintro ⟨q, hq, updates⟩
    unfold Db.Notifications.Query.recounts at updates
    split at updates
    next id' count next =>
      obtain rfl := of_decide_eq_true updates
      exact ⟨count, next, hq⟩
    next => cases updates
  · rintro ⟨count, next, hq⟩
    exact ⟨_, hq, decide_eq_true rfl⟩

theorem quiet_of_found {e : Event Call Op Op.Ans World Choice} (due : r ∈ found e.op e.ans) :
    recounts id e = false := by
  by_contra updates
  obtain ⟨count, next, hq⟩ := recounts_iff.1 (by simpa using updates)
  obtain ⟨i, c, o, x, a, w, w'⟩ := e
  cases op_of_ran hq
  cases due

theorem escalation_of_update {c : Call} {s : Phase} {count : Int32} {next : Option Time}
    (h : c.monitor.may s (.sql (.notifications (.updateEscalation id count next)))) :
    c = .escalation := by
  cases c with
  | escalation => rfl
  | rpc inst extensions r => cases Rpc.not_background h
  | processor inst seq =>
    cases s with
    | loading payload =>
      rcases h with h | ⟨n, h, _⟩
      · cases h
      · cases h
    | _ => exact h.elim
  | snoozeWake | ttlExpiry =>
    cases s with
    | scanning => cases h
    | _ => exact h.elim

theorem rewrite_count (env : Env) (db : Db)
    (other : ∀ count next, q ≠ .updateEscalation r.id count next) :
    (q.rewrite env db r).escalationCount = r.escalationCount ∧
      (q.rewrite env db r).nextEscalationAt = r.nextEscalationAt := by
  rcases Db.Notifications.rewrite_cases env db q r with same | ⟨addressed, _, set⟩
  · rw [same]
    exact ⟨rfl, rfl⟩
  · rw [set]
    cases q with
    | updateEscalation id count next =>
      simp only [Db.Notifications.Query.addresses, decide_eq_true_eq] at addressed
      exact absurd (addressed ▸ rfl) (other count next)
    | _ => exact ⟨rfl, rfl⟩

theorem rewrite_update (env : Env) (count : Int32) (next : Option Time)
    (stored : r ∈ db.notifications.rows) (same : r.id = id) :
    ((Db.Notifications.Query.updateEscalation id count next).rewrite env db r).escalationCount =
        count ∧
      ((Db.Notifications.Query.updateEscalation id count next).rewrite env db r).nextEscalationAt =
        next := by
  rw [Db.Notifications.rewrite_by_id (q := .updateEscalation id count next) stored rfl
    (decide_eq_true same) rfl]
  exact ⟨rfl, rfl⟩

/-- What an operation does to the count and the next time of a stored notification. -/
theorem count_exec (ext : Ext) (x : Choice) (o : Op) (stored : w.notification id = some r) :
    ∃ r', (exec ext x o w).2.notification id = some r' ∧
      r'.notificationTypeId = r.notificationTypeId ∧
      ((∃ count next, ran o (exec ext x o w).1 = some (.updateEscalation id count next) ∧
          r'.escalationCount = count ∧ r'.nextEscalationAt = next) ∨
        (∀ count next, ran o (exec ext x o w).1 ≠ some (.updateEscalation id count next)) ∧
          r'.escalationCount = r.escalationCount ∧ r'.nextEscalationAt = r.nextEscalationAt) := by
  by_cases updates : ∃ count next, ran o (exec ext x o w).1 = some (.updateEscalation id count next)
  · obtain ⟨count, next, updates⟩ := updates
    refine ⟨_, notification_of_ran updates stored, Db.Notifications.rewrite_typeId _ r, .inl ?_⟩
    exact ⟨count, next, updates, rewrite_update (x.env ext) count next (Table.mem_of_lookup stored)
      (World.id_of stored)⟩
  · have other : ∀ count next, ran o (exec ext x o w).1 ≠ some (.updateEscalation id count next) :=
      fun count next same => updates ⟨count, next, same⟩
    rcases notification_cases ext x o w id with ⟨r₀, stored₀, r', after, rewritten⟩ | ⟨absent, -⟩
    · cases stored₀.symm.trans stored
      rcases rewritten with rfl | ⟨q, hq, rfl⟩
      · exact ⟨r', after, rfl, .inr ⟨other, rfl, rfl⟩⟩
      · refine ⟨_, after, Db.Notifications.rewrite_typeId q r, .inr ⟨other, ?_⟩⟩
        refine rewrite_count (x.env ext) w.db fun count next same => ?_
        rw [same, World.id_of stored] at hq
        exact other count next hq
    · cases absent.symm.trans stored

/-! ## What a pass knows -/

theorem stored_type (run : Phased ext w₀ es w g) (capped : Capped nt id w₀ es) :
    ∀ r, w.notification id = some r → r.notificationTypeId = nt.id := by
  refine notification_invariant run _ (fun r h => (capped.stored r h).type) ?_ ?_
  · exact fun e he n ins same => (capped.inserted e he n ins same).type
  · exact fun q r env db h => (Db.Notifications.rewrite_typeId q r).trans h

theorem typeRead_exec {x : Choice} {o : Op} {typeId : Uuid} {type : Option NotificationTypeRow}
    (query : o = .sql (.schemas (.getNotificationTypeById typeId)))
    (h : typeRead o (exec ext x o w).1 = some type) :
    type = w.db.notificationTypes.lookup (.id typeId) := by
  subst query
  rcases execSql_cases ext x (.schemas (.getNotificationTypeById typeId)) w with
    ⟨e, failed⟩ | ⟨a, db, ok, answered⟩
  · simp only [exec, failed] at h
    cases h
  · simp only [exec, answered] at h
    cases h
    cases ok
    rfl

theorem pending_type (run : Phased ext w₀ es w g) (capped : Capped nt id w₀ es) {i : ℕ} {c : Call}
    {s : Phase} (at_phase : g i = some (c, s)) (pending : r ∈ s.pending) (same : r.id = id) :
    r.notificationTypeId = nt.id := by
  obtain ⟨pre, scan, mid, rfl, _, due⟩ := scanned run i c s at_phase r pending
  obtain ⟨_, stored, _⟩ := scan_found run (by simp) due
  obtain ⟨g', _, _, _, _, _, _, rfl, run', _⟩ := run.at
  subst same
  exact stored_type run' (capped.initial (List.prefix_append ..)) r stored

/-- What is true of the types of all moments is true of the type that a pass has read. -/
theorem read_type (run : Phased ext w₀ es w g) (R : Uuid → Option NotificationTypeRow → Prop) :
    (∀ e ∈ es, ∀ typeId, R typeId (e.before.db.notificationTypes.lookup (.id typeId))) →
      ∀ i c s, g i = some (c, s) → ∀ r type todo, s = .typed r type todo →
        R r.notificationTypeId type := by
  intro registered i c s at_phase
  refine run.local (fun es _ _ _ s =>
    (∀ e ∈ es, ∀ typeId, R typeId (e.before.db.notificationTypes.lookup (.id typeId))) →
      ∀ r type todo, s = .typed r type todo → R r.notificationTypeId type) ?_ ?_ ?_ i c s at_phase
    registered
  · intro es w g i c _ _ _ r type todo h
    cases c <;> cases h
  · intro es w g i c s o x run at_call permitted earlier registered r type todo h
    have registered' := fun e he => registered e (List.mem_append_left _ he)
    by_cases pass : c = .escalation
    · subst pass
      have step := escalation_step permitted (exec ext x o w).1
      have after : escalationMonitor.next s o (exec ext x o w).1 = .typed r type todo := h
      rw [after] at step
      clear after h
      rcases step with ⟨_, _, h⟩ | ⟨r', todo', type', rfl, query, read, h⟩ |
        ⟨r', type', todo', rfl, _, h⟩ | ⟨r', type', todo', next, _, _, _, h⟩ |
        ⟨r', type', todo', _, _, h⟩ | ⟨_, h, _⟩
      · cases h
      · cases h
        rw [typeRead_exec query read]
        exact registered ((system ext).event i .escalation o x w) (by simp) _
      · cases h
        exact earlier registered' r type todo rfl
      · cases h
      · cases h
      · cases h
    · have idle := pending_of_other pass (idle_of_other run i c s at_call pass) o (exec ext x o w).1
      have h : c.monitor.next s o (exec ext x o w).1 = .typed r type todo := h
      rw [h] at idle
      cases idle
  · intro es w g i c s j c' s' o x _ _ _ _ _ earlier registered
    exact earlier fun e he => registered e (List.mem_append_left _ he)

/-- A pass about to update the count of the notification has read a type that allows no more. -/
theorem typed (run : Phased ext w₀ es w g) (capped : Capped nt id w₀ es) : ∀ i c s,
    g i = some (c, s) → ∀ r type todo, s = .typed r type todo → r.id = id →
      ∀ nt', type = some nt' → nt'.maxEscalations ≤ nt.maxEscalations := by
  rintro i c s at_phase r type todo rfl same
  refine read_type run (fun typeId type => typeId = nt.id →
    ∀ nt', type = some nt' → nt'.maxEscalations ≤ nt.maxEscalations) ?_ i c _ at_phase r type todo rfl
    (pending_type run capped at_phase (.head _) same)
  rintro e he typeId rfl
  exact capped.type e he

theorem next_ne_scanning {c : Call} {s : Phase} {o : Op} (h : c.monitor.may s o) (a : o.Ans) :
    c.monitor.next s o a ≠ .scanning := by
  cases c with
  | escalation =>
    intro back
    have step := escalation_step h a
    have back : escalationMonitor.next s o a = .scanning := back
    rw [back] at step
    clear back
    rcases step with ⟨_, _, h⟩ | ⟨_, _, _, _, _, _, h⟩ | ⟨_, _, _, _, _, h⟩ |
      ⟨_, _, _, _, _, _, _, h⟩ | ⟨_, _, _, _, _, h⟩ | ⟨_, h, _⟩ <;> cases h
  | rpc inst extensions r =>
    cases s with
    | rpc granted => exact fun back => by cases back
    | _ => exact h.elim
  | processor inst seq =>
    simp only [Call.monitor, processorMonitor]
    split
    all_goals intro back; cases back
    exact h.elim
  | snoozeWake | ttlExpiry =>
    simp only [Call.monitor, sweepMonitor]
    split <;> exact fun back => by cases back

theorem found_once (run : Phased ext w₀ es w g) :
    ∀ i c s, g i = some (c, s) → s = .scanning → ∀ e ∈ es, e.tid = i → found e.op e.ans = [] := by
  refine run.local (fun es _ i _ s => s = .scanning → ∀ e ∈ es, e.tid = i → found e.op e.ans = [])
    ?_ ?_ ?_
  · intro es w g i c run free _ e he same
    obtain ⟨s, started⟩ := run.started e he
    rw [same, free] at started
    cases started
  · intro es w g i c s o x _ _ permitted _ h
    exact absurd h (next_ne_scanning permitted _)
  · intro es w g i c s j c' s' o x _ _ ne _ _ earlier h e he same
    rcases List.mem_append.1 he with he | he
    · exact earlier h e he same
    · obtain rfl := List.mem_singleton.1 he
      exact absurd same ne

/-- Only an escalation pass that has just started reads what is due. -/
theorem scanning_of_found {c : Call} {s : Phase} {o : Op} {a : o.Ans} (h : c.monitor.may s o)
    (due : found o a ≠ []) : c = .escalation ∧ s = .scanning := by
  obtain ⟨size, rfl⟩ : ∃ size, o = .sql (.notifications (.getEscalationDue size)) := by
    unfold found at due
    split at due
    next size rows => exact ⟨size, rfl⟩
    next => exact absurd rfl due
  cases c with
  | escalation =>
    cases s with
    | scanning => exact ⟨rfl, rfl⟩
    | pass todo => cases todo <;> exact h.elim
    | acting r type todo =>
      rcases escalationQuery_cases (escalationAction type) r.id with action | action <;>
        cases h.trans action
    | _ => exact h.elim
  | rpc inst extensions r => cases Rpc.not_background h
  | processor inst seq =>
    cases s with
    | loading payload =>
      rcases h with h | ⟨n, h, _⟩
      · cases h
      · cases h
    | _ => exact h.elim
  | snoozeWake | ttlExpiry =>
    cases s with
    | scanning => cases h
    | _ => exact h.elim

theorem scan_unique (run : Phased ext w₀ es w g) {pre' mid mid' : History}
    {scan scan' : Event Call Op Op.Ans World Choice} (h : es = pre ++ scan :: mid)
    (h' : es = pre' ++ scan' :: mid') (tid : scan.tid = scan'.tid)
    (due : found scan.op scan.ans ≠ []) (due' : found scan'.op scan'.ans ≠ []) : mid = mid' := by
  have once : ∀ pre e mid e' post, es = pre ++ e :: (mid ++ e' :: post) → e.tid = e'.tid →
      found e.op e.ans ≠ [] → found e'.op e'.ans ≠ [] → False := by
    rintro pre e mid e' post rfl tid due due'
    rw [← List.cons_append, ← List.append_assoc] at run
    obtain ⟨g', i, c, s, o, x, w', rfl, run', at_call, permitted, _⟩ := run.at
    exact due (found_once run' i c s at_call (scanning_of_found permitted due').2 e (by simp) tid)
  subst h
  rcases split_cases h' with ⟨l, rfl, rfl⟩ | ⟨-, -, same⟩ | ⟨l, rfl, rfl⟩
  · exact (once pre scan l scan' mid' rfl tid due due').elim
  · exact same
  · exact (once pre' scan' l scan mid (by simp) tid.symm due' due).elim

theorem pending_stored (run : Phased ext w₀ es w g) {i : ℕ} {c : Call} {s : Phase}
    (at_phase : g i = some (c, s)) (pending : r ∈ s.pending) :
    ∃ r', w.notification r.id = some r' := by
  obtain ⟨pre, scan, mid, rfl, _, due⟩ := scanned run i c s at_phase r pending
  obtain ⟨same, stored, _⟩ := scan_found run (by simp) due
  obtain ⟨_, _, _, _, _, _, _, rfl, _, _, _, joined⟩ := run.at
  exact stored_between run (fun e he => List.mem_append_right _ (.tail _ he)) joined
    (same ▸ stored)

/-- An update of the count is a pass's update of a row that it has pending. -/
theorem update_step {i : ℕ} {c : Call} {s : Phase} {o : Op} {x : Choice}
    (permitted : c.monitor.may s o) (h : recounts id ((system ext).event i c o x w) = true) :
    c = .escalation ∧ ∃ r type todo next, s = .typed r type todo ∧ r.id = id ∧
      ran o (exec ext x o w).1 = some (.updateEscalation id (r.escalationCount + 1) next) ∧
      (next ≠ none → ∃ nt, type = some nt ∧ r.escalationCount + 1 < nt.maxEscalations) := by
  obtain ⟨count, next, hq⟩ := recounts_iff.1 h
  have hq : ran o (exec ext x o w).1 = some (.updateEscalation id count next) := hq
  have query := op_of_ran hq
  obtain rfl : c = .escalation := escalation_of_update (query ▸ permitted)
  refine ⟨rfl, ?_⟩
  rcases escalation_step permitted (exec ext x o w).1 with ⟨_, h, _⟩ |
    ⟨_, _, _, _, h, _, _⟩ | ⟨_, _, _, _, h, _⟩ | ⟨r, type, todo, next', rfl, h, armed, _⟩ |
    ⟨r, type, todo, _, h, _⟩ | ⟨h, _, _⟩
  · cases h.symm.trans hq
  · cases query.symm.trans h
  · cases query.symm.trans h
  · cases h.symm.trans hq
    exact ⟨r, type, todo, next, rfl, rfl, hq, armed⟩
  · rcases escalationQuery_cases (escalationAction type) r.id with action | action <;>
      cases (action ▸ h).symm.trans hq
  · cases h.symm.trans hq

end

/-! ## Updates and actions, pass by pass -/

/-- Whether a pass has updated the count of a notification and not yet acted on it. -/
def Phase.actingOn (id : Uuid) : Phase → ℕ
  | .acting r _ _ => if r.id = id then 1 else 0
  | _ => 0

theorem actingOn_of_idle {id : Uuid} {s : Phase} (idle : s.pending = []) : s.actingOn id = 0 := by
  cases s with
  | acting => cases idle
  | _ => rfl

section

variable {ext : Ext} {w₀ w : World} {es : History} {g : ℕ → Option (Call × Phase)} {id : Uuid}
  {nt : NotificationTypeRow} {i : ℕ} {c : Call} {s s' : Phase} {o : Op} {x : Choice}

theorem ran_action (succeeds : x.failure = none)
    (action : o = .sql (.notifications (.resurfaceNotification id)) ∨
      o = .sql (.notifications (.bumpNotification id))) : ran o (exec ext x o w).1 ≠ none := by
  rcases action with rfl | rfl <;>
    simp [exec, execSql, succeeds, Sql.instants, Sql.exec, Db.Notifications.Query.exec,
      Db.Notifications.executeUnit, ran]

theorem recounts_event {q : Option Db.Notifications.Query} (h : ran o (exec ext x o w).1 = q) :
    recounts id ((system ext).event i c o x w) = q.any (·.recounts id) := h ▸ rfl

theorem escalates_event {q : Option Db.Notifications.Query} (h : ran o (exec ext x o w).1 = q) :
    escalates id ((system ext).event i .escalation o x w) = q.any (·.escalates id) := h ▸ rfl

/-- What a step of a pass counts as an update it owes as an action, which only a failure of the
action writes off. -/
theorem step_balance (id : Uuid) (i : ℕ) (step : EscalationStep s o (exec ext x o w).1 s') :
    (recounts id ((system ext).event i .escalation o x w)).toNat + s.actingOn id =
        (escalates id ((system ext).event i .escalation o x w)).toNat + s'.actingOn id ∨
      ran o (exec ext x o w).1 = none ∧ s'.actingOn id = 0 ∧
        (o = .sql (.notifications (.resurfaceNotification id)) ∨
          o = .sql (.notifications (.bumpNotification id))) := by
  rcases step with ⟨rfl, h, rfl⟩ | ⟨r, todo, type, rfl, rfl, _, rfl⟩ | ⟨r, type, todo, rfl, rfl, rfl⟩ |
    ⟨r, type, todo, next, rfl, h, _, rfl⟩ | ⟨r, type, todo, rfl, h, rfl⟩ | ⟨h, rfl, acts⟩
  · left
    rw [recounts_event h, escalates_event h]
    rfl
  · exact .inl rfl
  · exact .inl rfl
  · left
    rw [recounts_event h, escalates_event h]
    simp [Phase.actingOn, Db.Notifications.Query.recounts, Db.Notifications.Query.escalates,
      Bool.toNat, Bool.cond_decide]
  · left
    rcases escalationQuery_cases (escalationAction type) r.id with action | action <;>
    · rw [action] at h
      rw [recounts_event h, escalates_event h]
      simp [Phase.actingOn, Db.Notifications.Query.recounts, Db.Notifications.Query.escalates,
        Bool.toNat, Bool.cond_decide]
  · by_cases owed : ∃ r type todo, s = .acting r type todo ∧ r.id = id
    · obtain ⟨r, type, todo, rfl, rfl⟩ := owed
      obtain rfl := acts r type todo rfl
      have action : _ ∨ _ := escalationQuery_cases (escalationAction type) r.id
      exact .inr ⟨h, rfl, action.imp (congrArg fun q => Op.sql (.notifications q))
        (congrArg fun q => Op.sql (.notifications q))⟩
    · have idle : s.actingOn id = 0 := by
        cases s with
        | acting r type todo => exact if_neg fun same => owed ⟨r, type, todo, rfl, same⟩
        | _ => rfl
      left
      rw [recounts_event h, escalates_event h, idle]
      rfl

theorem other_balance (id : Uuid) (run : Phased ext w₀ es w g) (at_phase : g i = some (c, s))
    (permitted : c.monitor.may s o) (other : c ≠ .escalation) :
    recounts id ((system ext).event i c o x w) = false ∧
      escalates id ((system ext).event i c o x w) = false ∧ s.actingOn id = 0 ∧
      (c.monitor.next s o ((system ext).exec x o w).1).actingOn id = 0 := by
  have idle := idle_of_other run i c s at_phase other
  refine ⟨?_, ?_, actingOn_of_idle idle, actingOn_of_idle (pending_of_other other idle o _)⟩
  · by_contra updates
    exact other (update_step permitted (by simpa using updates)).1
  · cases c <;> first | rfl | exact absurd rfl other

/-- A pass has acted at most once for each of its updates, the one that it is about to act on apart. -/
theorem acted_le (run : Phased ext w₀ es w g) : ∀ i c s, g i = some (c, s) →
    es.countP (fun e => escalates id e && e.tid = i) + s.actingOn id ≤
      es.countP (fun e => recounts id e && e.tid = i) := by
  refine run.balance (escalates id) (recounts id) (Phase.actingOn id) (fun _ => 0) ?_ ?_
  · intro c
    cases c <;> exact Nat.le_refl 0
  · intro es' w g i c s o x _ run at_call permitted
    by_cases pass : c = .escalation
    · subst pass
      rcases step_balance id i (escalation_step permitted (exec ext x o w).1) with
        even | ⟨failed, ended, -⟩
      · exact even.ge
      · have silent : escalates id ((system ext).event i .escalation o x w) = false :=
          escalates_event failed
        have ended : (Call.escalation.monitor.next s o ((system ext).exec x o w).1).actingOn id = 0 :=
          ended
        rw [silent, ended]
        exact Nat.zero_le _
    · obtain ⟨no_update, no_action, idle, idle'⟩ :=
        other_balance id (x := x) run at_call permitted pass
      rw [no_action, idle']
      exact Nat.zero_le _

/-- A pass has acted once for each of its updates, but for the one that it is about to act on. -/
theorem accounted (run : Phased ext w₀ es w g) (steady : Steady nt id w₀ es)
    (at_phase : g i = some (c, s)) :
    es.countP (fun e => recounts id e && e.tid = i) =
      es.countP (fun e => escalates id e && e.tid = i) + s.actingOn id := by
  refine Nat.le_antisymm ?_ (acted_le run i c s at_phase)
  refine run.balance (recounts id) (escalates id) (fun _ => 0) (Phase.actingOn id)
    (fun _ => Nat.zero_le _) ?_ i c s at_phase
  intro es' w g i c s o x short run at_call permitted
  by_cases pass : c = .escalation
  · subst pass
    rcases step_balance id i (escalation_step permitted (exec ext x o w).1) with
      even | ⟨failed, -, action⟩
    · exact even.le
    · have mem : (system ext).event i .escalation o x w ∈ es := short.subset (by simp)
      have succeeds := steady.succeeds ((system ext).event i .escalation o x w) mem rfl action
      exact absurd failed (ran_action succeeds action)
  · obtain ⟨no_update, no_action, idle, idle'⟩ :=
      other_balance id (x := x) run at_call permitted pass
    rw [no_update, no_action, idle, idle']

end

/-! ## The count and the updates -/

section

variable {es l : History} {id : Uuid} {e : Event Call Op Op.Ans World Choice}

theorem overtaken_snoc :
    Overtaken (es ++ [e]) id ↔ Overtaken es id ∨
      recounts id e = true ∧ ∃ pre scan mid, es = pre ++ scan :: mid ∧ scan.tid = e.tid ∧
        (∃ r ∈ found scan.op scan.ans, r.id = id) ∧ ∃ e' ∈ mid, recounts id e' = true := by
  constructor
  · rintro ⟨pre, scan, mid, update, post, same, tid, due, updates, between⟩
    rcases List.eq_nil_or_concat post with rfl | ⟨post, last, rfl⟩
    · rw [← List.cons_append, ← List.append_assoc] at same
      obtain ⟨rfl, last⟩ := List.append_inj' same rfl
      cases last
      exact .inr ⟨updates, pre, scan, mid, rfl, tid, due, between⟩
    · rw [List.concat_eq_append, ← List.cons_append, ← List.append_assoc, ← List.cons_append,
        ← List.append_assoc] at same
      obtain ⟨rfl, _⟩ := List.append_inj' same rfl
      exact .inl ⟨pre, scan, mid, update, post, by simp, tid, due, updates, between⟩
  · rintro (⟨pre, scan, mid, update, post, rfl, overtaken⟩ |
      ⟨updates, pre, scan, mid, rfl, tid, due, between⟩)
    · exact ⟨pre, scan, mid, update, post ++ [e], by simp, overtaken⟩
    · exact ⟨pre, scan, mid, e, [], by simp, tid, due, updates, between⟩

theorem overtaken_append (quiet : ∀ e ∈ l, ¬ recounts id e = true) :
    Overtaken (es ++ l) id ↔ Overtaken es id := by
  induction l using List.reverseRecOn with
  | nil => simp
  | append_singleton l e ih =>
    rw [← List.append_assoc, overtaken_snoc, ih fun e he => quiet e (List.mem_append_left _ he)]
    constructor
    · rintro (earlier | ⟨updates, _⟩)
      · exact earlier
      · exact absurd updates (quiet e (by simp))
    · exact .inl

end

/-- A row's count is within the bound of the type, armed only below it, and never ahead of the
updates; it agrees with them as long as none has been overtaken. -/
structure Counted (nt : NotificationTypeRow) (id : Uuid) (es : History) (r : NotificationRow) :
    Prop where
  nonneg : 0 ≤ r.escalationCount.toInt
  bound : r.escalationCount.toInt ≤ nt.maxEscalations.toInt
  armed : r.nextEscalationAt ≠ none → r.escalationCount.toInt < nt.maxEscalations.toInt
  lags : r.escalationCount.toInt ≤ es.countP (recounts id)
  agrees : r.escalationCount.toInt = es.countP (recounts id) ↔ ¬ Overtaken es id

section

variable {ext : Ext} {w₀ w : World} {es : History} {g : ℕ → Option (Call × Phase)} {id : Uuid}
  {nt : NotificationTypeRow} {r r' : NotificationRow} {e : Event Call Op Op.Ans World Choice}

theorem Fresh.counted (fresh : Fresh nt r) (bound : 0 ≤ nt.maxEscalations)
    (none : es.countP (recounts id) = 0) : Counted nt id es r := by
  have bound := Int32.le_iff_toInt_le.1 bound
  have quiet : ¬ Overtaken es id := by
    rintro ⟨pre, scan, mid, update, post, rfl, _, _, updates, _⟩
    exact List.countP_eq_zero.1 none update (by simp) updates
  refine ⟨?_, ?_, fun armed => ?_, ?_, ?_⟩ <;> rw [fresh.count]
  · rfl
  · exact bound
  · exact Int32.lt_iff_toInt_lt.1 (fresh.armed armed)
  · rw [none]
    rfl
  · rw [none]
    exact iff_of_true rfl quiet

/-- Events that do not update the count keep what is known of it. -/
theorem Counted.quiet (h : Counted nt id es r) (quiet : recounts id e = false)
    (count : r'.escalationCount = r.escalationCount)
    (next : r'.nextEscalationAt = r.nextEscalationAt) : Counted nt id (es ++ [e]) r' := by
  have same : (es ++ [e]).countP (recounts id) = es.countP (recounts id) := by
    rw [countP_snoc, quiet]
    rfl
  refine ⟨?_, ?_, ?_, ?_, ?_⟩ <;> rw [count]
  · exact h.nonneg
  · exact h.bound
  · rw [next]
    exact h.armed
  · rw [same]
    exact h.lags
  · rw [same, overtaken_append (by simpa using quiet)]
    exact h.agrees

theorem toInt_succ {a b : Int32} (nonneg : 0 ≤ a.toInt) (below : a.toInt < b.toInt) :
    (a + 1).toInt = a.toInt + 1 := by
  have := b.toInt_lt
  rw [Int32.toInt_add]
  exact Int.bmod_eq_of_le (by simp; omega) (by simp; omega)

/-- An update by a pass that found the notification due when the count was `r`'s. -/
theorem Counted.update {pre mid : History} {scan : Event Call Op Op.Ans World Choice}
    (h : Counted nt id pre r) (below : r.escalationCount.toInt < nt.maxEscalations.toInt)
    (scans : recounts id scan = false) (due : ∃ r ∈ found scan.op scan.ans, r.id = id)
    (tid : scan.tid = e.tid) (updates : recounts id e = true)
    (only : ∀ pre' scan' mid', pre ++ scan :: mid = pre' ++ scan' :: mid' → scan'.tid = e.tid →
      (∃ r ∈ found scan'.op scan'.ans, r.id = id) → mid' = mid)
    (count : r'.escalationCount = r.escalationCount + 1)
    (next : r'.nextEscalationAt ≠ none → r.escalationCount + 1 < nt.maxEscalations) :
    Counted nt id (pre ++ scan :: mid ++ [e]) r' := by
  have succ := toInt_succ h.nonneg below
  have total : (pre ++ scan :: mid ++ [e]).countP (recounts id) =
      pre.countP (recounts id) + mid.countP (recounts id) + 1 := by
    rw [countP_snoc, List.countP_append, List.countP_cons, scans, updates]
    rfl
  have nonneg := h.nonneg
  have lags := h.lags
  refine ⟨?_, ?_, fun armed => ?_, ?_, ?_⟩ <;> rw [count, succ]
  · omega
  · omega
  · rw [← succ]
    exact Int32.lt_iff_toInt_lt.1 (next armed)
  · rw [total]
    omega
  · rw [total, overtaken_snoc]
    by_cases between : ∃ e' ∈ mid, recounts id e' = true
    · have some := List.countP_pos_iff.2 between
      refine iff_of_false (by omega) fun none => none ?_
      exact .inr ⟨updates, pre, scan, mid, rfl, tid, due, between⟩
    · have none : mid.countP (recounts id) = 0 :=
        List.countP_eq_zero.2 fun e' he' updates => between ⟨e', he', updates⟩
      have quiet : Overtaken (pre ++ scan :: mid) id ↔ Overtaken pre id := by
        refine overtaken_append fun e' he' updates => ?_
        rcases List.mem_cons.1 he' with rfl | he'
        · rw [scans] at updates
          cases updates
        · exact between ⟨e', he', updates⟩
      have agrees := h.agrees
      rw [none, quiet]
      constructor
      · rintro same (earlier | ⟨_, pre', scan', mid', split, tid', due', between'⟩)
        · exact agrees.1 (by omega) earlier
        · exact between (only pre' scan' mid' split tid' due' ▸ between')
      · intro not
        have := agrees.2 fun earlier => not (.inl earlier)
        omega

/-- In every run the count of a stored notification is as `Counted` says. -/
theorem counted (run : Phased ext w₀ es w g) (bound : 0 ≤ nt.maxEscalations) :
    Capped nt id w₀ es → (∀ r, w.notification id = some r → Counted nt id es r) ∧
      (w.notification id = none → es.countP (recounts id) = 0) := by
  refine run.strong (fun es w => Capped nt id w₀ es →
    (∀ r, w.notification id = some r → Counted nt id es r) ∧
      (w.notification id = none → es.countP (recounts id) = 0)) ?_ ?_
  · exact fun capped => ⟨fun r h => (capped.stored r h).counted bound rfl, fun _ => rfl⟩
  · intro es w g i c s o x run at_call permitted earlier capped
    have capped' : Capped nt id w₀ es := capped.initial (List.prefix_append ..)
    obtain ⟨ih, ih_none⟩ := earlier es w g (List.prefix_refl es) run capped'
    by_cases updates : recounts id ((system ext).event i c o x w) = true
    · obtain ⟨rfl, r, type, todo, next, rfl, same, hq, armed⟩ := update_step permitted updates
      obtain ⟨pre, scan, mid, rfl, tid, due⟩ := scanned run i _ _ at_call r (.head _)
      obtain ⟨r₁, stored⟩ := pending_stored run at_call (.head _)
      rw [same] at stored
      obtain ⟨r', after, -, ⟨count', next', hq', count, rearmed⟩ | ⟨other, -⟩⟩ :=
        count_exec ext x o stored
      case inr => exact absurd hq (other _ _)
      cases hq.symm.trans hq'
      refine ⟨fun r₂ h => ?_, fun h => by cases h.symm.trans after⟩
      obtain rfl := Option.some.inj (h.symm.trans after)
      obtain ⟨_, was_stored, was_due⟩ := scan_found run (by simp) due
      obtain ⟨g', i', c', s', o', x', w', rfl, run', _, permitted', _⟩ := run.at
      have before : Counted nt id pre r := by
        refine (earlier pre w' g' (List.prefix_append ..) run'
          (capped'.initial (List.prefix_append ..))).1 r ?_
        rw [← same]
        exact was_stored
      have below : r.escalationCount.toInt < nt.maxEscalations.toInt :=
        before.armed (armed_of_due was_due)
      refine before.update below (quiet_of_found due) ⟨r, due, same⟩ tid updates ?_ count ?_
      · rintro pre' scan' mid' split tid' ⟨r', due', _⟩
        exact (scan_unique run rfl split (tid.trans tid'.symm) (List.ne_nil_of_mem due)
          (List.ne_nil_of_mem due')).symm
      · rw [rearmed]
        intro armed'
        obtain ⟨nt', read, more⟩ := armed armed'
        have cap := typed run capped' _ _ _ at_call r type todo rfl same nt' read
        exact Int32.lt_of_lt_of_le more cap
    · have quiet : recounts id ((system ext).event i c o x w) = false := by simpa using updates
      have total : (es ++ [(system ext).event i c o x w]).countP (recounts id) =
          es.countP (recounts id) := by
        rw [countP_snoc, quiet]
        rfl
      rcases notification_cases ext x o w id with ⟨r, stored, -⟩ |
        ⟨absent, none | ⟨n, ins, same, after⟩⟩
      · obtain ⟨r', after, -, ⟨count, next, hq, -⟩ | ⟨-, count, next⟩⟩ := count_exec ext x o stored
        case inl => exact absurd (recounts_iff.2 ⟨count, next, hq⟩) updates
        refine ⟨fun r₁ h => ?_, fun h => by cases h.symm.trans after⟩
        obtain rfl := Option.some.inj (h.symm.trans after)
        exact (ih _ stored).quiet quiet count next
      · refine ⟨fun r₁ h => (by cases h.symm.trans none), fun _ => ?_⟩
        rw [total, ih_none absent]
      · refine ⟨fun r₁ h => ?_, fun h => by cases h.symm.trans after⟩
        obtain rfl := Option.some.inj (h.symm.trans after)
        have fresh := capped.inserted ((system ext).event i c o x w) (by simp) n ins same
        exact fresh.counted bound (total.trans (ih_none absent))

theorem idle_of_quiescent {p : State} (quiescent : Quiescent p)
    (fits : ∀ i, Fits Call.monitor Call.Failed Call.Returned (p.threads i) (g i)) {i : ℕ} {c : Call}
    {s : Phase} (run : Phased ext w₀ es w g) (at_phase : g i = some (c, s)) :
    s.actingOn id = 0 := by
  by_cases pass : c = .escalation
  · subst pass
    have fit := fits i
    rw [at_phase] at fit
    rcases thread : p.threads i with _ | ⟨c, q⟩
    · rw [thread] at fit
      exact fit.elim
    · rw [thread] at fit
      obtain ⟨rfl, obeys⟩ := fit
      have done := quiescent i q thread
      cases q with
      | ret a =>
        have ended : s = .pass [] := obeys
        rw [ended]
        rfl
      | fail e =>
        have ended : s = .over := obeys
        rw [ended]
        rfl
      | call o k => exact done.elim
  · exact actingOn_of_idle (idle_of_other run i c s at_phase pass)

end

/-- When no pass is in progress, the passes have escalated a notification as often as its count
says, and no more often than its type allows, exactly if the type's bound is not negative and no pass has
been overtaken between its read of the count and its update. -/
theorem escalations_eq_count_iff {ext : Ext} {w₀ : World} {es : History} {p : State} {id : Uuid}
    {nt : NotificationTypeRow} {r : NotificationRow} (run : (system ext).Run (Pool.idle w₀) es p)
    (steady : Steady nt id w₀ es) (quiescent : Quiescent p)
    (stored : p.world.notification id = some r) :
    ((es.countP (escalates id) : ℤ) = r.escalationCount.toInt ∧
        (es.countP (escalates id) : ℤ) ≤ nt.maxEscalations.toInt) ↔
      0 ≤ nt.maxEscalations ∧ ¬ Overtaken es id := by
  obtain ⟨g, run, fits⟩ := phased run
  have acted : es.countP (recounts id) = es.countP (escalates id) := by
    refine countP_eq_of_threads fun i => ?_
    rcases thread : g i with _ | ⟨c, s⟩
    · rw [run.countP_unstarted thread, run.countP_unstarted thread]
    · rw [accounted run steady thread, idle_of_quiescent quiescent fits run thread]
      rfl
  by_cases bound : 0 ≤ nt.maxEscalations
  · have count := (counted run bound steady.capped).1 r stored
    rw [← count.agrees, acted]
    have below := count.bound
    constructor
    · exact fun h => ⟨bound, h.1.symm⟩
    · exact fun h => ⟨h.2.symm, h.2 ▸ below⟩
  · have negative : nt.maxEscalations.toInt < 0 := by
      rw [Int32.le_iff_toInt_le] at bound
      simpa using bound
    exact iff_of_false (fun h => by omega) fun h => bound h.1

/-- Two passes find the same notification due, and both handle it. -/
def Sample.handledTwice : State × History :=
  Sample.played (Sample.world (.single (Sample.notification "unread") Sample.check_unread) [])
    [.start 0 .escalation, .start 1 .escalation, .step 0 Sample.choice, .step 1 Sample.choice,
      .step 0 Sample.choice, .step 0 Sample.choice, .step 0 Sample.choice,
      .step 1 Sample.choice, .step 1 Sample.choice, .step 1 Sample.choice]

theorem Sample.handledTwice_steady : Steady Sample.notificationType 3
    (Sample.world (.single (Sample.notification "unread") rfl) []) Sample.handledTwice.2 where
  type := List.forall_iff_forall_mem.1 (by exact ⟨rfl, rfl, rfl, rfl, rfl, rfl, rfl, rfl⟩)
  stored r h := by
    cases h
    exact ⟨rfl, rfl, fun _ => by decide⟩
  inserted e he n ins := by
    have none : Sample.handledTwice.2.all fun e => (inserted e.op e.ans).isNone := rfl
    have := List.all_eq_true.1 none e he
    simp [ins] at this
  succeeds e he _ _ := by
    have none : Sample.handledTwice.2.all fun e => e.choice.failure.isNone := rfl
    simpa using List.all_eq_true.1 none e he

theorem Sample.handledTwice_quiescent : Quiescent Sample.handledTwice.1 := by
  intro i q thread
  by_cases first : i = 0
  · subst first
    cases thread
    trivial
  · by_cases second : i = 1
    · subst second
      cases thread
      trivial
    · have none : Sample.handledTwice.1.threads i = none := by
        refine Sample.played_other fun a ha => ?_
        simp only [List.mem_cons, List.not_mem_nil, or_false] at ha
        rcases ha with rfl | rfl | rfl | rfl | rfl | rfl | rfl | rfl | rfl | rfl <;>
          simp [Action.tid, Ne.symm first, Ne.symm second]
      rw [none] at thread
      cases thread

theorem escalations_eq_count_iff_handledTwice :
    ∃ r, Sample.handledTwice.1.world.notification 3 = some r ∧
      (((Sample.handledTwice.2.countP (escalates 3) : ℤ) = r.escalationCount.toInt ∧
          (Sample.handledTwice.2.countP (escalates 3) : ℤ) ≤
            Sample.notificationType.maxEscalations.toInt) ↔
        0 ≤ Sample.notificationType.maxEscalations ∧ ¬ Overtaken Sample.handledTwice.2 3) :=
  ⟨_, rfl, escalations_eq_count_iff (Sample.run_played rfl) Sample.handledTwice_steady
    Sample.handledTwice_quiescent rfl⟩

/-- Two passes escalate a notification twice and count one. -/
theorem not_escalations_eq_count : ¬ ∀ (ext : Ext) (w₀ : World) (es : History) (p : State) (id : Uuid)
    (nt : NotificationTypeRow) (r : NotificationRow), (system ext).Run (Pool.idle w₀) es p →
    Steady nt id w₀ es → Quiescent p → p.world.notification id = some r →
    (es.countP (escalates id) : ℤ) = r.escalationCount.toInt ∧
      (es.countP (escalates id) : ℤ) ≤ nt.maxEscalations.toInt := by
  intro same
  have run : (system Sample.ext).Run _ Sample.handledTwice.2 _ := Sample.run_played rfl
  obtain ⟨r, stored, one⟩ : ∃ r, Sample.handledTwice.1.world.notification 3 = some r ∧
    r.escalationCount = 1 := ⟨_, rfl, rfl⟩
  have two : Sample.handledTwice.2.countP (escalates 3) = 2 := rfl
  have := (same _ _ _ _ 3 _ r run Sample.handledTwice_steady Sample.handledTwice_quiescent stored).1
  rw [two, one] at this
  cases this

end Estafeta
