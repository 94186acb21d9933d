import Estafeta.Refinement

/-!
# Escalation passes among other threads

A pass of `runEscalation` reads what is due and then handles each row by further statements, between
which any other thread can act. `EscalationStep` says what one step of a pass can be; what a pass
does to a notification goes back to its read of what was due (`scanned`), and what has happened to
the notification since decides whether the pass may still resurface it.
-/

open Relational Atomic

namespace Estafeta

open NotificationState (fromDbStr)
open Db.Notifications (escalationDue)

/-! ## The steps of a pass -/

/-- The notifications that an operation found due for escalation. -/
def found : (o : Op) → o.Ans → List NotificationRow
  | .sql (.notifications (.getEscalationDue _)), .ok rows => rows
  | _, _ => []

/-- The type that an operation read by its id, if it did. -/
def typeRead : (o : Op) → o.Ans → Option (Option NotificationTypeRow)
  | .sql (.schemas (.getNotificationTypeById _)), .ok type => some type
  | _, _ => none

/-- What a step of an escalation pass can be. -/
inductive EscalationStep (s : Phase) (o : Op) (a : o.Ans) (s' : Phase) : Prop where
  | scan : s = .scanning → ran o a = some (.getEscalationDue batchSize) →
      s' = .pass (found o a) → EscalationStep s o a s'
  | type r todo type : s = .pass (r :: todo) →
      o = .sql (.schemas (.getNotificationTypeById r.notificationTypeId)) →
      typeRead o a = some type → s' = .typed r type todo → EscalationStep s o a s'
  | clock r type todo : s = .typed r type todo → o = .utcNow → s' = .typed r type todo →
      EscalationStep s o a s'
  | update r type todo next : s = .typed r type todo →
      ran o a = some (.updateEscalation r.id (r.escalationCount + 1) next) →
      (next ≠ none → ∃ nt, type = some nt ∧ r.escalationCount + 1 < nt.maxEscalations) →
      s' = .acting r type todo → EscalationStep s o a s'
  | act r type todo : s = .acting r type todo →
      ran o a = some (escalationQuery (escalationAction type) r.id) → s' = .pass todo →
      EscalationStep s o a s'
  | fails : ran o a = none → s' = .over →
      (∀ r type todo, s = .acting r type todo →
        o = .sql (.notifications (escalationQuery (escalationAction type) r.id))) →
      EscalationStep s o a s'

theorem escalation_step {s : Phase} {o : Op} (h : escalationMonitor.may s o) (a : o.Ans) :
    EscalationStep s o a (escalationMonitor.next s o a) := by
  simp only [escalationMonitor] at h
  split at h
  next size =>
    subst h
    rcases a with _ | rows
    · exact .fails rfl rfl fun _ _ _ h => by cases h
    · exact .scan rfl rfl rfl
  next r todo id =>
    subst h
    rcases a with _ | type
    · exact .fails rfl rfl fun _ _ _ h => by cases h
    · exact .type r todo type rfl rfl rfl rfl
  next r type todo => exact .clock r type todo rfl rfl rfl
  next r type todo id count next =>
    obtain ⟨rfl, rfl, armed⟩ := h
    rcases a with _ | _
    · exact .fails rfl rfl fun _ _ _ h => by cases h
    · exact .update r type todo next rfl rfl armed rfl
  next r type todo q =>
    subst h
    rcases a with _ | _
    · exact .fails rfl rfl fun _ _ _ h => by cases h; rfl
    · exact .act r type todo rfl rfl rfl
  next => exact h.elim

theorem found_exec {ext : Ext} {x : Choice} {o : Op} {w : World} {r : NotificationRow}
    (h : r ∈ found o (exec ext x o w).1) :
    (exec ext x o w).2 = w ∧ r ∈ w.db.notifications.rows ∧ escalationDue x.now r = true := by
  cases o with
  | sql q =>
    cases q with
    | notifications q =>
      cases q with
      | getEscalationDue size =>
        rcases execSql_cases ext x (.notifications (.getEscalationDue size)) w with
          ⟨e, failed⟩ | ⟨a, db, ok, answered⟩
        · simp only [exec, failed] at h
          exact absurd h List.not_mem_nil
        · simp only [exec, answered] at h ⊢
          obtain ⟨rows, due, same⟩ := map_eq_ok.1 ok
          cases same
          exact ⟨rfl, Db.Notifications.mem_batch due h⟩
      | _ => exact absurd h List.not_mem_nil
    | _ => exact absurd h List.not_mem_nil
  | _ => exact absurd h List.not_mem_nil

theorem due_time {now : Time} {r : NotificationRow} (due : escalationDue now r = true) :
    ∃ t, r.nextEscalationAt = some t ∧ t ≤ now := by
  simp only [escalationDue, Bool.and_eq_true] at due
  obtain ⟨t, next, past⟩ := (Option.any_eq_true ..).1 due.2
  exact ⟨t, next, of_decide_eq_true past⟩

theorem armed_of_due {now : Time} {r : NotificationRow} (due : escalationDue now r = true) :
    r.nextEscalationAt ≠ none := by
  obtain ⟨t, next, _⟩ := due_time due
  rw [next]
  exact Option.some_ne_none t

theorem nodup_found (ext : Ext) (x : Choice) (o : Op) (w : World) :
    ((found o (exec ext x o w).1).map (·.id)).Nodup := by
  cases o with
  | sql q =>
    cases q with
    | notifications q =>
      cases q with
      | getEscalationDue size =>
        rcases execSql_cases ext x (.notifications (.getEscalationDue size)) w with
          ⟨e, failed⟩ | ⟨a, db, ok, answered⟩
        · simp only [exec, failed]
          exact List.nodup_nil
        · simp only [exec, answered]
          obtain ⟨rows, due, same⟩ := map_eq_ok.1 ok
          cases same
          exact Db.Notifications.nodup_ids_of_batch due
      | _ => exact List.nodup_nil
    | _ => exact List.nodup_nil
  | _ => exact List.nodup_nil

/-- The notifications that a pass has found due and is not yet done with. -/
def Phase.pending : Phase → List NotificationRow
  | .pass todo => todo
  | .typed r _ todo => r :: todo
  | .acting r _ todo => r :: todo
  | _ => []

theorem EscalationStep.pending {s s' : Phase} {o : Op} {a : o.Ans} (h : EscalationStep s o a s')
    {r : NotificationRow} (hr : r ∈ s'.pending) : r ∈ s.pending ∨ r ∈ found o a := by
  rcases h with ⟨rfl, _, rfl⟩ | ⟨r', todo, type, rfl, _, _, rfl⟩ | ⟨r', type, todo, rfl, _, rfl⟩ |
    ⟨r', type, todo, next, rfl, _, _, rfl⟩ | ⟨r', type, todo, rfl, _, rfl⟩ | ⟨_, rfl, _⟩
  · exact .inr hr
  · exact .inl hr
  · exact .inl hr
  · exact .inl hr
  · exact .inl (.tail _ hr)
  · cases hr

theorem pending_of_other {c : Call} (other : c ≠ .escalation) {s : Phase} (h : s.pending = [])
    (o : Op) (a : o.Ans) : (c.monitor.next s o a).pending = [] := by
  cases c with
  | escalation => exact absurd rfl other
  | rpc inst extensions r =>
    simp only [Call.monitor, Rpc.monitor]
    split
    · rfl
    · exact h
  | processor inst seq =>
    simp only [Call.monitor, processorMonitor]
    split <;> first | rfl | exact h
  | snoozeWake | ttlExpiry =>
    simp only [Call.monitor, sweepMonitor]
    split <;> rfl

section

variable {ext : Ext} {w₀ w : World} {es : History} {g : ℕ → Option (Call × Phase)} {id : Uuid}

theorem idle_of_other (run : Phased ext w₀ es w g) :
    ∀ i c s, g i = some (c, s) → c ≠ .escalation → s.pending = [] := by
  refine run.local (fun _ _ _ c s => c ≠ .escalation → s.pending = []) ?_ ?_ ?_
  · intro es w g i c _ _ other
    cases c <;> rfl
  · intro es w g i c s o x _ _ _ idle other
    exact pending_of_other other (idle other) _ _
  · intro es w g i c s j c' s' o x _ _ _ _ _ idle
    exact idle

/-- What is pending in a pass was found due by an earlier operation of the pass. -/
theorem scanned (run : Phased ext w₀ es w g) :
    ∀ i c s, g i = some (c, s) → ∀ r ∈ s.pending,
      ∃ pre scan mid, es = pre ++ scan :: mid ∧ scan.tid = i ∧ r ∈ found scan.op scan.ans := by
  refine run.local (fun es _ i _ s => ∀ r ∈ s.pending,
    ∃ pre scan mid, es = pre ++ scan :: mid ∧ scan.tid = i ∧ r ∈ found scan.op scan.ans) ?_ ?_ ?_
  · intro es w g i c _ _ r hr
    cases c <;> cases hr
  · intro es w g i c s o x run at_call permitted earlier r hr
    by_cases pass : c = .escalation
    · subst pass
      rcases (escalation_step permitted _).pending hr with hr | hr
      · obtain ⟨pre, scan, mid, rfl, tid, found⟩ := earlier r hr
        exact ⟨pre, scan, mid ++ [_], List.append_assoc .., tid, found⟩
      · exact ⟨es, _, [], rfl, rfl, hr⟩
    · rw [pending_of_other pass (idle_of_other run i c s at_call pass)] at hr
      cases hr
  · intro es w g i c s j c' s' o x _ _ _ _ _ earlier r hr
    obtain ⟨pre, scan, mid, rfl, tid, found⟩ := earlier r hr
    exact ⟨pre, scan, mid ++ [_], List.append_assoc .., tid, found⟩

end

/-! ## Resurfacing -/

/-- A notification is unseen or unread. -/
def World.Live (w : World) (id : Uuid) : Prop :=
  w.states id = some .unseen ∨ w.states id = some .unread

/-- The calls of the scheduler. -/
def Call.scheduled : Call → Bool
  | .snoozeWake => true
  | .ttlExpiry => true
  | .escalation => true
  | _ => false

/-- An event respects the state of a notification: an escalation pass changes it only if the
notification is unseen or unread, and no loop of the scheduler puts one back that is no longer so. -/
def Respects (e : Event Call Op Op.Ans World Choice) (id : Uuid) : Prop :=
  (e.call = .escalation → e.after.states id ≠ e.before.states id → e.before.Live id) ∧
    (e.call.scheduled = true → ∀ s ∈ [NotificationState.archived, .read, .snoozed, .expired],
      e.before.states id = some s → e.after.states id ≠ some .unseen)

/-- Whenever a step takes a notification out of unseen and unread, between the read that found it due
and the same pass's resurfacing of it, a later one brings it back before the resurfacing. -/
def Undisturbed (es : History) : Prop :=
  ∀ pre scan mid write post id, es = pre ++ scan :: (mid ++ write :: post) →
    write.call = .escalation → scan.tid = write.tid →
    (∃ r ∈ found scan.op scan.ans, r.id = id) →
    ran write.op write.ans = some (.resurfaceNotification id) →
    ∀ mid₁ e mid₂, mid = mid₁ ++ e :: mid₂ → e.before.Live id → ¬ e.after.Live id →
      ∃ e' ∈ mid₂, ¬ e'.before.Live id ∧ e'.after.Live id

section

variable {ext : Ext} {w₀ w w' : World} {es : History} {g : ℕ → Option (Call × Phase)} {id : Uuid}
  {env : Env} {db : Db} {q : Db.Notifications.Query} {r : NotificationRow}

theorem states_of (h : w.notification id = some r) :
    w.states id = (fromDbStr r.state).toOption := by
  rw [World.states, h]
  rfl

theorem states_eq_some {s : NotificationState} :
    w.states id = some s ↔ ∃ r, w.notification id = some r ∧ r.state = s.asDbStr := by
  rcases h : w.notification id with _ | r
  · simp [World.states, h]
  · rw [states_of h]
    simp only [Option.some.injEq, exists_eq_left', ← NotificationState.fromDbStr_eq_ok]
    rcases fromDbStr r.state with e | s' <;> simp [Except.toOption]

theorem live_of_due {now : Time} (stored : r ∈ w.db.notifications.rows)
    (due : escalationDue now r = true) : w.Live r.id := by
  have h : w.notification r.id = some r := Table.lookup_of_mem stored (.head _)
  simp only [escalationDue, Bool.and_eq_true, decide_eq_true_eq, List.mem_cons,
    List.not_mem_nil, or_false] at due
  rcases due.1 with state | state
  · exact .inl (states_eq_some.2 ⟨r, h, state⟩)
  · exact .inr (states_eq_some.2 ⟨r, h, state⟩)

/-- The statements of a pass: the scan, and those about a notification that it has found due. -/
theorem EscalationStep.ran_cases {s s' : Phase} {o : Op} {a : o.Ans}
    (h : EscalationStep s o a s') (hq : ran o a = some q) :
    q = .getEscalationDue batchSize ∨ ∃ r ∈ s.pending,
      (∃ next, q = .updateEscalation r.id (r.escalationCount + 1) next) ∨
        q = .resurfaceNotification r.id ∨ q = .bumpNotification r.id := by
  rcases h with ⟨_, h, _⟩ | ⟨r, todo, type, _, rfl, _, _⟩ | ⟨r, type, todo, _, rfl, _⟩ |
    ⟨r, type, todo, next, rfl, h, _, _⟩ | ⟨r, type, todo, rfl, h, _⟩ | ⟨h, _, _⟩
  · cases h.symm.trans hq
    exact .inl rfl
  · cases hq
  · cases hq
  · cases h.symm.trans hq
    exact .inr ⟨r, .head _, .inl ⟨next, rfl⟩⟩
  · cases h.symm.trans hq
    exact .inr ⟨r, .head _, .inr (escalationQuery_cases ..)⟩
  · cases h.symm.trans hq

theorem EscalationStep.addresses {s s' : Phase} {o : Op} {a : o.Ans} {now : Time}
    (h : EscalationStep s o a s') (hq : ran o a = some q) (addressed : q.addresses now r = true) :
    ∃ r' ∈ s.pending, r'.id = r.id := by
  rcases h.ran_cases hq with rfl | ⟨r', pending, ⟨next, rfl⟩ | rfl | rfl⟩
  · cases addressed
  · exact ⟨r', pending, (of_decide_eq_true addressed).symm⟩
  · exact ⟨r', pending, (of_decide_eq_true addressed).symm⟩
  · exact ⟨r', pending, (of_decide_eq_true addressed).symm⟩

/-- A pass changes the state of a notification only by resurfacing one that it has found due. -/
theorem EscalationStep.rewrite_state {s s' : Phase} {o : Op} {a : o.Ans}
    (h : EscalationStep s o a s') (hq : ran o a = some q) (r : NotificationRow) :
    (q.rewrite env db r).state = r.state ∨
      q = .resurfaceNotification r.id ∧ ∃ r' ∈ s.pending, r'.id = r.id := by
  rcases Db.Notifications.rewrite_cases env db q r with same | ⟨addressed, _, set⟩
  · exact .inl (by rw [same])
  · have address := h.addresses hq addressed
    rcases h.ran_cases hq with rfl | ⟨r', _, ⟨next, rfl⟩ | rfl | rfl⟩
    · cases addressed
    · exact .inl (by rw [set]; rfl)
    · rw [← of_decide_eq_true addressed]
      exact .inr ⟨rfl, address⟩
    · exact .inl (by rw [set]; rfl)

theorem EscalationStep.not_inserted {s s' : Phase} {o : Op} {a : o.Ans}
    (h : EscalationStep s o a s') : inserted o a = none := by
  rcases ins : inserted o a with _ | n
  · rfl
  · rcases h.ran_cases (inserted_eq_some.1 ins) with same | ⟨_, _, ⟨_, same⟩ | same | same⟩ <;>
      cases same

/-- When a pass changes the state of a notification, it resurfaces one that it has found due. -/
theorem escalation_changes {pre post : History} {e : Event Call Op Op.Ans World Choice}
    (run : Phased ext w₀ (pre ++ e :: post) w g) (pass : e.call = .escalation)
    (changed : e.after.states id ≠ e.before.states id) :
    ran e.op e.ans = some (.resurfaceNotification id) ∧
      ∃ before scan mid r, pre = before ++ scan :: mid ∧ scan.tid = e.tid ∧
        r ∈ found scan.op scan.ans ∧ r.id = id := by
  obtain ⟨g', i, c, s, o, x, before, rfl, run', at_call, permitted, _⟩ := run.at
  cases pass
  have step := escalation_step permitted (exec ext x o before).1
  rcases notification_cases ext x o before id with ⟨r, stored, r', after, rewritten⟩ |
    ⟨absent, none | ⟨n, ins, _, _⟩⟩
  · have kept : r'.state ≠ r.state := by
      intro same
      exact changed ((states_of after).trans (same ▸ (states_of stored).symm))
    rcases rewritten with rfl | ⟨q, hq, rfl⟩
    · exact absurd rfl kept
    · rcases step.rewrite_state hq r with same | ⟨rfl, r', pending, same⟩
      · exact absurd same kept
      · obtain rfl := World.id_of stored
        obtain ⟨pre, scan, mid, rfl, tid, due⟩ := scanned run' i _ s at_call r' pending
        exact ⟨hq, pre, scan, mid, r', rfl, tid, due, same⟩
  · refine absurd ?_ changed
    exact congrArg (·.bind fun r => (fromDbStr r.state).toOption) (none.trans absent.symm)
  · rw [step.not_inserted] at ins
    cases ins

theorem ran_of_sweep {s : Phase} {o : Op} {a : o.Ans} {q' : Db.Notifications.Query}
    (h : (sweepMonitor q).may s o) (hq : ran o a = some q') : q' = q := by
  simp only [sweepMonitor] at h
  split at h
  next =>
    subst h
    rcases a with _ | a <;> cases hq
    rfl
  next => cases hq
  next => exact h.elim

theorem sweep_states {x : Choice} {o : Op} {s : Phase} {state : NotificationState}
    (h : (sweepMonitor q).may s o)
    (sets : ∀ now r, ((q.set now).set r).state ≠ "unseen") (ne : state ≠ .unseen)
    (was : w.states id = some state) : (exec ext x o w).2.states id ≠ some .unseen := by
  obtain ⟨r, stored, named⟩ := states_eq_some.1 was
  intro unseen
  obtain ⟨r', after, same⟩ := states_eq_some.1 unseen
  rcases notification_cases ext x o w id with ⟨r₁, stored₁, r₂, after₁, rewritten⟩ | ⟨absent, _⟩
  · cases stored.symm.trans stored₁
    cases after.symm.trans after₁
    rcases rewritten with rfl | ⟨q', hq, rfl⟩
    · exact ne (NotificationState.asDbStr_injective (named.symm.trans same))
    · obtain rfl := ran_of_sweep h hq
      rcases Db.Notifications.rewrite_cases (x.env ext) w.db q' r with kept | ⟨_, _, set⟩
      · rw [kept] at same
        exact ne (NotificationState.asDbStr_injective (named.symm.trans same))
      · rw [set] at same
        exact sets _ _ same
  · rw [absent] at stored
    cases stored

theorem rewrite_resurface (stored : r ∈ db.notifications.rows) (same : r.id = id) :
    ((Db.Notifications.Query.resurfaceNotification id).rewrite env db r).state = "unseen" := by
  rw [Db.Notifications.rewrite_by_id (q := .resurfaceNotification id) stored rfl
    (decide_eq_true same) rfl]
  rfl

/-- What a pass found due was stored and due when it read it, and the read changed nothing. -/
theorem scan_found (run : Phased ext w₀ es w g) {scan : Event Call Op Op.Ans World Choice}
    (mem : scan ∈ es) (hr : r ∈ found scan.op scan.ans) :
    scan.after = scan.before ∧ scan.before.notification r.id = some r ∧
      escalationDue scan.choice.now r = true := by
  obtain ⟨i, c, _, o, x, w', rfl, _⟩ := run.permitted scan mem
  obtain ⟨same, stored, due⟩ := found_exec hr
  exact ⟨same, Table.lookup_of_mem stored (.head _), due⟩

/-- A notification that was stored between two events is stored at the second. -/
theorem stored_between (run : Phased ext w₀ es w g) {mid : History} (sub : ∀ e ∈ mid, e ∈ es)
    {w₁ w₂ : World} (joined : Joined w₁ mid w₂) (stored : w₁.notification id = some r) :
    ∃ r', w₂.notification id = some r' := by
  have kept : (w₂.notification id).isSome = true := by
    refine joined.keeps (K := fun w => (w.notification id).isSome = true) ?_ (by rw [stored]; rfl)
    intro e he before
    obtain ⟨i, c, _, o, x, w', rfl, _⟩ := run.permitted e (sub e he)
    exact stored_exec before
  exact Option.isSome_iff_exists.1 kept

end

/-- A pass of the scheduler respects every notification exactly if no notification that it found due
has been taken out of unseen and unread, and not brought back, when the pass resurfaces it. -/
theorem respects_iff_undisturbed {ext : Ext} {w₀ : World} {es : History} {p : State}
    (run : (system ext).Run (Pool.idle w₀) es p) :
    (∀ e ∈ es, ∀ id, Respects e id) ↔ Undisturbed es := by
  obtain ⟨g, run, _⟩ := phased run
  constructor
  · rintro respects pre scan mid write post id rfl pass tid ⟨r, due, rfl⟩ resurfaced mid₁ e mid₂ rfl
      live ended
    by_contra! lost
    have joined := run.between
    obtain ⟨same, stored, _⟩ := scan_found run (by simp) due
    obtain ⟨r', stored'⟩ := stored_between run
      (fun e he => List.mem_append_right _ (.tail _ (List.mem_append_left _ he))) joined
      (same ▸ stored)
    have not_live : ¬ write.before.Live r.id := by
      have later : Joined e.after mid₂ write.before := by
        have run' := run
        rw [List.append_assoc, ← List.cons_append, ← List.append_assoc] at run'
        exact run'.between
      exact later.still (K := fun w => w.Live r.id) ended fun e' he restored =>
        lost e' he restored.1 restored.2
    have unseen : write.after.states r.id = some .unseen := by
      obtain ⟨i, c, _, o, x, w', rfl, _⟩ := run.permitted write (by simp)
      refine states_eq_some.2 ⟨_, notification_of_ran resurfaced stored', ?_⟩
      exact rewrite_resurface (Table.mem_of_lookup stored') (World.id_of stored')
    refine not_live ((respects write (by simp) r.id).1 pass ?_)
    intro same
    exact not_live (.inl (same.symm.trans unseen))
  · intro undisturbed e he id
    obtain ⟨pre, post, rfl⟩ := List.append_of_mem he
    have live : e.call = .escalation → e.after.states id ≠ e.before.states id →
        e.before.Live id := by
      intro pass changed
      obtain ⟨resurfaced, before, scan, mid, r, rfl, tid, due, rfl⟩ :=
        escalation_changes run pass changed
      rw [List.append_assoc, List.cons_append] at run
      obtain ⟨same, stored, was_due⟩ := scan_found run (by simp) due
      have was_live : scan.after.Live r.id := same ▸ live_of_due (Table.mem_of_lookup stored) was_due
      by_contra lost
      obtain ⟨mid₁, e', mid₂, rfl, live, ended, none⟩ :=
        run.between.lost (K := fun w => w.Live r.id) was_live lost
      obtain ⟨back, mem, restored⟩ := undisturbed before scan _ e post r.id (by simp) pass tid
        ⟨r, due, rfl⟩ resurfaced mid₁ e' mid₂ rfl live ended
      exact none back mem restored
    refine ⟨live, fun scheduled s gone was unseen => ?_⟩
    have ne : s ≠ .unseen ∧ s ≠ .unread := by
      revert gone
      cases s <;> decide
    have kind : e.call = .escalation ∨ e.call = .snoozeWake ∨ e.call = .ttlExpiry := by
      revert scheduled
      cases e.call <;> simp [Call.scheduled]
    obtain ⟨i, c, phase, o, x, w', rfl, permitted⟩ := run.permitted e he
    rcases kind with pass | wake | expiry
    · have changed : (exec ext x o w').2.states id ≠ w'.states id := by
        intro same
        exact ne.1 (Option.some.inj (was.symm.trans (same.symm.trans unseen)))
      rcases live pass changed with h | h
      · exact ne.1 (Option.some.inj (was.symm.trans h))
      · exact ne.2 (Option.some.inj (was.symm.trans h))
    · cases wake
      refine sweep_states permitted (fun now r => ?_) ne.1 was unseen
      show "unread" ≠ "unseen"
      decide
    · cases expiry
      refine sweep_states permitted (fun now r => ?_) ne.1 was unseen
      show "expired" ≠ "unseen"
      decide

/-- A pass finds a notification of `ann` due, she archives it, and the pass goes on. -/
def Sample.archivedMeanwhile : State × History :=
  Sample.played (Sample.world (.single (Sample.notification "unread") Sample.check_unread) [])
    [.start 0 .escalation, .step 0 Sample.choice,
      .start 1 (.rpc 0 (some Sample.ann) (.archive ⟨["3"]⟩)), .step 1 Sample.choice,
      .step 0 Sample.choice, .step 0 Sample.choice, .step 0 Sample.choice]

theorem respects_iff_undisturbed_archived :
    (∀ e ∈ Sample.archivedMeanwhile.2, ∀ id, Respects e id) ↔
      Undisturbed Sample.archivedMeanwhile.2 :=
  respects_iff_undisturbed (Sample.run_played rfl)

/-- The scheduler puts an archived notification back to unseen. -/
theorem not_respects : ¬ ∀ (ext : Ext) (w₀ : World) (es : History) (p : State),
    (system ext).Run (Pool.idle w₀) es p → ∀ e ∈ es, ∀ id, Respects e id := by
  intro respects
  have run : (system Sample.ext).Run _ Sample.archivedMeanwhile.2 _ := Sample.run_played rfl
  obtain ⟨e, mem, scheduled, was, unseen⟩ : ∃ e ∈ Sample.archivedMeanwhile.2,
      e.call.scheduled = true ∧ e.before.states 3 = some .archived ∧
        e.after.states 3 = some .unseen :=
    ⟨_, .tail _ (.tail _ (.tail _ (.tail _ (.head _)))), rfl, rfl, rfl⟩
  exact (respects _ _ _ _ run e mem 3).2 scheduled .archived (by decide) was unseen

end Estafeta
