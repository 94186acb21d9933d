import Estafeta.EscalationErrors
import Estafeta.PolicyBounds

/-!
# What arms a notification

A notification is due again when the next time of its row is set: by the processor that stores it
(`insertion_due`), or by a pass that counts an escalation of it (`Escalates.of_count`). A pass has
found the notification before, and has read its type since (`read_for`).
-/

open Relational Atomic

namespace Estafeta

/-- The event sets the next time of a notification: it stores it, or updates its count. -/
def Arms (id : Uuid) (t : Time) (e : Event Call Op Op.Ans World Choice) : Prop :=
  (∃ n, inserted e.op e.ans = some n ∧ n.id = id ∧ n.nextEscalationAt = some t) ∨
    ∃ count, ran e.op e.ans = some (.updateEscalation id count (some t))

/-! ## Insertions -/

/-- What a processor has done before it stores a notification that is due. -/
def Call.Dues : Call → Record → Op → Prop
  | .processor inst _, h, .sql (.notifications (.insertNotification n)) => DueByType inst h n
  | _, _, _ => True

theorem body_dues (ext : Ext) (c : Call) :
    ((system ext).body c).Obeys (.recording c.Dues) (fun _ _ => True) (fun _ _ => True) [] := by
  cases c with
  | processor inst seq =>
    simp only [system, Call.body, Prog.obeys_bind, Prog.obeys_mapErr]
    refine (processorRun_obeys_due ?_ (fun _ _ _ due => due) fun _ _ _ _ => trivial).mono
      (fun _ _ _ => trivial) fun _ _ _ => trivial
    intro h o other _
    unfold Call.Dues
    split
    next => cases other
    next => trivial
  | _ => exact Prog.obeys_of_forall (fun _ _ => trivial) _ _

section

variable {ext : Ext} {w₀ : World} {es pre post : History} {p : State} {i : ℕ} {id : Uuid}
  {e : Event Call Op Op.Ans World Choice} {n : Db.Notifications.InsertNotification}
  {r : NotificationRow} {h h' : Record} {count : Int32} {next : Option Time}

theorem insertion_due (run : (system ext).Run (Pool.idle w₀) es p) (split : es = pre ++ e :: post)
    (ins : inserted e.op e.ans = some n) : ∃ inst, DueByType inst (doneBy pre e.tid) n := by
  have op := op_of_ran (inserted_eq_some.1 ins)
  obtain ⟨inst, seq, call, _⟩ := justified_of_stores run split (by rw [op]; rfl)
  have due : e.call.Dues (doneBy pre e.tid) e.op :=
    (run.recorded (body_dues ext)).1 pre e post split
  rw [call, op] at due
  exact ⟨inst, due⟩

/-! ## Passes -/

/-- A pass finds a notification, and when it has come to it, reads its type. -/
structure Handles (r : NotificationRow) (type : Option NotificationTypeRow) (A : History)
    (scan : Event Call Op Op.Ans World Choice) (B : History)
    (read : Event Call Op Op.Ans World Choice) : Prop where
  due : r ∈ found scan.op scan.ans
  reached : Reached r (doneBy (A ++ scan :: B) scan.tid)
  tid : read.tid = scan.tid
  reads : read.done = ⟨r.typeOp, .ok type⟩

/-- A pass that counts an escalation has come to the notification and read its type. -/
theorem Escalates.of_count
    (may : Escalates h (.sql (.notifications (.updateEscalation id count next)))) :
    ∃ r h₀ type h', Reached r h₀ ∧ Rearms r type h' next ∧ h = h₀ ++ ⟨r.typeOp, .ok type⟩ :: h' ∧
      r.id = id ∧ count = r.escalationCount + 1 := by
  generalize op : Op.sql (.notifications (.updateEscalation id count next)) = o at may
  cases may with
  | scan => cases op
  | type => cases op
  | clock => cases op
  | count reached rearms =>
    cases op
    exact ⟨_, _, _, _, reached, rearms, rfl, rfl, rfl⟩
  | @act r _ type =>
    rcases escalationQuery_cases (escalationAction type) r.id with action | action <;>
    · rw [NotificationRow.actionOp, action] at op
      cases op

theorem handles_of_recounts (updates : recounts id e = true) : handles id e.done = true := by
  unfold recounts at updates
  obtain ⟨q, ran', counts⟩ := (Option.any_eq_true ..).1 updates
  refine (Option.any_eq_true ..).2 ⟨q, ran', ?_⟩
  rw [counts]
  rfl

theorem found_keeps (run : (system ext).Run (Pool.idle w₀) es p) {A M : History}
    {scan : Event Call Op Op.Ans World Choice} (place : es = A ++ scan :: (M ++ e :: post))
    (due : r ∈ found scan.op scan.ans) :
    ∃ r', e.before.notification r.id = some r' ∧ r.Keeps r' := by
  obtain ⟨g, watched, _⟩ := phased run
  obtain ⟨unchanged, stored, -⟩ := scan_found watched (by simp [place]) due
  subst place
  exact keeps_between watched (by simp +contextual) watched.between (unchanged ▸ stored)

/-- A pass that has read the type of a notification has found the notification before, and has not
counted an escalation of it yet. -/
theorem read_for {type : Option NotificationTypeRow} (run : (system ext).Run (Pool.idle w₀) es p)
    (reached : Reached r h) (past : doneBy es i = h ++ ⟨r.typeOp, .ok type⟩ :: h') :
    ∃ A scan B read C, es = A ++ scan :: (B ++ read :: C) ∧ Handles r type A scan B read ∧
      scan.tid = i ∧ doneBy C i = h' ∧ ∀ e ∈ B, e.tid = i → recounts r.id e = false := by
  obtain ⟨D, read, C, rfl, readOwn, readDone, before, rest⟩ := doneBy_split past
  have come := reached
  cases reached with
  | @mk earlier later hs rounds =>
    obtain ⟨A, scan, B, rfl, scanOwn, scanDone, -, between⟩ := doneBy_split (h := []) before
    have due : found scan.op scan.ans = earlier ++ r :: later :=
      congrArg (fun d : Σ o : Op, o.Ans => found d.1 d.2) scanDone
    refine ⟨A, scan, B, read, C, by simp, ⟨by simp [due], ?_, readOwn.trans scanOwn.symm, readDone⟩,
      scanOwn, rest, ?_⟩
    · rwa [scanOwn, before]
    intro e he own
    by_contra updates
    have handled : handles r.id e.done = true := handles_of_recounts (by simpa using updates)
    have mem : e.done ∈ doneBy B i := mem_doneBy.2 ⟨e, he, own, rfl⟩
    rw [between] at mem
    rw [List.cons_append] at past
    exact not_earlier (batch_of_record run past).1 (.head _) (rounds_own rounds mem handled)

theorem Handles.read_type {A B : History} {scan read : Event Call Op Op.Ans World Choice}
    {type : Option NotificationTypeRow} (handles : Handles r type A scan B read)
    (run : (system ext).Run (Pool.idle w₀) es p) (mem : read ∈ es) :
    type = read.before.db.notificationTypes.lookup (.id r.notificationTypeId) := by
  have query : read.op = r.typeOp := congrArg Sigma.fst handles.reads
  have answer : typeRead read.op read.ans = some type :=
    congrArg (fun d : Σ o : Op, o.Ans => typeRead d.1 d.2) handles.reads
  obtain ⟨_, _, _, _, _, rfl⟩ := performed run read mem
  exact typeRead_exec query answer

theorem count_anatomy (run : (system ext).Run (Pool.idle w₀) es p) (split : es = pre ++ e :: post)
    (updates : ran e.op e.ans = some (.updateEscalation id count next)) :
    e.call = .escalation ∧ ∃ r type A scan B read C, pre = A ++ scan :: (B ++ read :: C) ∧
      Handles r type A scan B read ∧ scan.tid = e.tid ∧ r.id = id ∧ count = r.escalationCount + 1 ∧
      Rearms r type (doneBy C e.tid) next ∧
      ∀ d ∈ B ++ read :: C, d.tid = e.tid → recounts id d = false := by
  have op := op_of_ran updates
  have call : e.call = .escalation := by
    obtain ⟨g, watched, _⟩ := phased run
    obtain ⟨_, c, s, o, x, w, rfl, permitted⟩ := watched.permitted e (by simp [split])
    have permitted : c.monitor.may s o := permitted
    have op : o = _ := op
    exact escalation_of_update (op ▸ permitted)
  have may : e.call.Escalates (doneBy pre e.tid) e.op :=
    (run.recorded (body_escalates ext)).1 pre e post split
  rw [call, op] at may
  obtain ⟨r, h₀, type, h', reached, rearms, past, rfl, counts⟩ := Escalates.of_count may
  rw [split] at run
  obtain ⟨q, _, _, _, _, _, rfl, run', _⟩ := run.at
  obtain ⟨A, scan, B, read, C, rfl, handles, own, rest, quiet⟩ := read_for run' reached past
  refine ⟨call, r, type, A, scan, B, read, C, rfl, handles, own, rfl, counts, rest ▸ rearms,
    fun d mem own' => ?_⟩
  rcases List.mem_append.1 mem with mem | mem
  · exact quiet d mem own'
  by_contra updates
  have handled : Estafeta.handles r.id d.done = true := handles_of_recounts (by simpa using updates)
  have mem : d.done ∈ (⟨r.typeOp, .ok type⟩ : Σ o : Op, o.Ans) :: h' := by
    rcases List.mem_cons.1 mem with rfl | mem
    · rw [handles.reads]
      exact .head _
    · exact .tail _ (rest ▸ mem_doneBy.2 ⟨d, mem, own', rfl⟩)
  rw [rearms.idle_read mem] at handled
  cases handled

end

end Estafeta
