import Estafeta.Arming
import Estafeta.Invalidation

/-!
# Escalations under a type that changes

A pass escalates what is due, whatever the bound of the type says by then: it compares the bound only
with the new count, to decide whether the notification is due again. So a bound that is lowered stops
no escalation that is already set. A notification is escalated below the bound that the pass reads
(`WithinLimit`) in every run in which no bound is set at or below the count of a notification that
waits for an escalation (`Spared`).
-/

open Relational Atomic

namespace Estafeta

/-- The type, as it is registered, allows an escalation of what has been escalated `count` times. -/
def World.Below (w : World) (typeId : Uuid) (count : Int32) : Prop :=
  ∀ nt, w.db.notificationTypes.lookup (.id typeId) = some nt → count < nt.maxEscalations

/-- The event writes the type, with a bound that does not allow an escalation of what has been
escalated `count` times. -/
def CutsOff (typeId : Uuid) (count : Int32) (e : Event Call Op Op.Ans World Choice) : Prop :=
  ∃ serviceId typeKey nt, typeWritten e.op e.ans = some (serviceId, typeKey, nt) ∧ nt.id = typeId ∧
    nt.maxEscalations ≤ count

/-- No bound is set at or below the count of a notification that waits for an escalation: that is
stored and due again, that a pass has found and has yet to read the type of, or that a pass is about
to make due again. Nor is the notification stored as due under a type that does not allow an
escalation any more. -/
structure Spared (es : History) (id : Uuid) : Prop where
  stored : ∀ e ∈ es, ∀ n, inserted e.op e.ans = some n → n.id = id → n.nextEscalationAt ≠ none →
    e.before.Below n.notificationTypeId 0
  waiting : ∀ e ∈ es, ∀ r, e.before.notification id = some r → r.nextEscalationAt ≠ none →
    ¬ CutsOff r.notificationTypeId r.escalationCount e
  found : ∀ A scan B read C r type, es = A ++ scan :: (B ++ read :: C) →
    Handles r type A scan B read → r.id = id →
    ∀ e ∈ B, ¬ CutsOff r.notificationTypeId r.escalationCount e
  typed : ∀ A scan B read C update D r nt, es = A ++ scan :: (B ++ read :: (C ++ update :: D)) →
    Handles r (some nt) A scan B read → r.id = id → update.tid = scan.tid →
    recounts id update = true → r.escalationCount + 1 < nt.maxEscalations →
    nt.escalationIntervalSeconds ≠ none →
    ∀ e ∈ C, ¬ CutsOff r.notificationTypeId (r.escalationCount + 1) e

/-- A pass that counts or performs an escalation has found the notification with a count below the
bound of the type that it has read for it. -/
def WithinLimit (es : History) (id : Uuid) : Prop :=
  ∀ pre e post, es = pre ++ e :: post → recounts id e = true ∨ escalates id e = true →
    ∃ r type A scan B read C, pre = A ++ scan :: (B ++ read :: C) ∧ Handles r type A scan B read ∧
      scan.tid = e.tid ∧ r.id = id ∧ ∀ nt, type = some nt → r.escalationCount < nt.maxEscalations

section

variable {ext : Ext} {w₀ w w' : World} {es pre post : History} {p : State} {id typeId : Uuid}
  {count : Int32} {r : NotificationRow} {e : Event Call Op Op.Ans World Choice} {h : Record}

theorem Spared.initial (spared : Spared es id) (short : pre <+: es) : Spared pre id where
  stored e he := spared.stored e (short.subset he)
  waiting e he := spared.waiting e (short.subset he)
  found A scan B read C r type place := by
    obtain ⟨rest, rfl⟩ := short
    exact spared.found A scan B read (C ++ rest) r type (by simp [place])
  typed A scan B read C update D r nt place := by
    obtain ⟨rest, rfl⟩ := short
    exact spared.typed A scan B read C update (D ++ rest) r nt (by simp [place])

/-! ## The bound in force -/

/-- An event that does not cut off a count leaves the bound above it. -/
theorem below_after (run : (system ext).Run (Pool.idle w₀) es p) (he : e ∈ es)
    (spares : ¬ CutsOff typeId count e) (below : e.before.Below typeId count) :
    e.after.Below typeId count := by
  obtain ⟨_, _, _, _, _, rfl⟩ := performed run e he
  intro nt after
  rcases type_written_or_kept after with ⟨serviceId, typeKey, written⟩ | before
  · by_contra cut
    refine spares ⟨serviceId, typeKey, nt, written, ?_, Int32.not_lt.1 cut⟩
    rcases List.mem_cons.1 (Table.key_of_lookup after) with same | key
    · cases same
      rfl
    · cases List.mem_singleton.1 key
  · exact below nt before

theorem below_between (run : (system ext).Run (Pool.idle w₀) es p) {mid : History}
    (sub : ∀ e ∈ mid, e ∈ es) (joined : Joined w mid w')
    (spares : ∀ e ∈ mid, ¬ CutsOff typeId count e) (below : w.Below typeId count) :
    w'.Below typeId count :=
  joined.keeps (K := fun w => w.Below typeId count)
    (fun e he before => below_after run (sub e he) (spares e he) before) below

theorem not_cutsOff {q : Db.Notifications.Query} (ran' : ran e.op e.ans = some q) :
    ¬ CutsOff typeId count e := by
  rintro ⟨_, _, _, written, -⟩
  obtain ⟨q', op⟩ := typeWritten_schemas written
  cases (op_of_ran ran').symm.trans op

theorem Handles.below {A B : History} {scan read : Event Call Op Op.Ans World Choice}
    {nt : NotificationTypeRow} (handles : Handles r (some nt) A scan B read)
    (run : (system ext).Run (Pool.idle w₀) es p) (mem : read ∈ es)
    (below : count < nt.maxEscalations) : read.after.Below r.notificationTypeId count := by
  have reads := handles.read_type run mem
  have writes : typeWritten read.op read.ans = none :=
    congrArg (fun d : Σ o : Op, o.Ans => typeWritten d.1 d.2) handles.reads
  refine below_after run mem ?_ fun nt' found => ?_
  · rintro ⟨_, _, _, written, -⟩
    cases writes.symm.trans written
  · cases reads.trans found
    exact below

/-! ## What waits for an escalation -/

/-- A pass makes a notification due again only if the type in force allows one more escalation. -/
theorem below_of_rearmed (run : (system ext).Run (Pool.idle w₀) es p) (spared : Spared es id)
    (split : es = pre ++ e :: post) {next : Option Time} (armed : next ≠ none)
    (updates : ran e.op e.ans = some (.updateEscalation id count next))
    (stored : e.before.notification id = some r) : e.before.Below r.notificationTypeId count := by
  obtain ⟨-, r', type, A, scan, B, read, C, place, handles, tid, rfl, rfl, rearms, -⟩ :=
    count_anatomy run split updates
  have place' : es = A ++ scan :: (B ++ read :: (C ++ e :: post)) := by simp [split, place]
  generalize doneBy C e.tid = h at rearms
  cases rearms with
  | ends => exact absurd rfl armed
  | @again nt s t below interval =>
    have there : read ∈ es := by simp [place']
    have spares := spared.typed A scan B read C e post r' nt place' handles rfl tid.symm
      (recounts_iff.2 ⟨_, _, updates⟩) below (interval ▸ Option.some_ne_none s)
    have joined : Joined read.after C e.before := by
      obtain ⟨g, watched, _⟩ := phased run
      rw [place', ← List.cons_append, ← List.append_assoc] at watched
      exact watched.between
    have kept : r.notificationTypeId = r'.notificationTypeId := by
      have place : es = A ++ scan :: ((B ++ read :: C) ++ e :: post) := by simp [place']
      obtain ⟨r₁, stored₁, keeps⟩ := found_keeps run place handles.due
      cases stored.symm.trans stored₁
      exact keeps.notificationTypeId
    rw [kept]
    exact below_between run (by simp +contextual [place']) joined spares
      (handles.below run there below)

/-- The type in force allows one more escalation of a notification that is due again. -/
theorem armed_below (run : (system ext).Run (Pool.idle w₀) es p)
    (absent : w₀.notification id = none) : Spared es id →
    ∀ r, p.world.notification id = some r → r.nextEscalationAt ≠ none →
      p.world.Below r.notificationTypeId r.escalationCount := by
  induction run with
  | init =>
    intro _ r stored
    cases absent.symm.trans stored
  | start c _ _ ih => exact ih
  | @step es p i c o k x run at_call ih =>
    intro spared r' stored' armed
    have run' := run.step x at_call
    have spared' := spared.initial (List.prefix_append ..)
    have mem : (system ext).event i c o x p.world ∈ es ++ [(system ext).event i c o x p.world] := by
      simp
    rcases notification_cases ext x o p.world id with ⟨r, stored, -⟩ |
      ⟨absent, none | ⟨n, ins, rfl, after⟩⟩
    · obtain ⟨r₁, after, type, ⟨count, next, updates, newCount, newNext⟩ |
        ⟨-, sameCount, sameNext⟩⟩ := count_exec ext x o stored <;> cases after.symm.trans stored'
      · rw [newNext] at armed
        rw [newCount, type]
        have last : es ++ [(system ext).event i c o x p.world] =
          es ++ (system ext).event i c o x p.world :: [] := rfl
        refine below_after run' mem (not_cutsOff updates) ?_
        exact below_of_rearmed run' spared last armed updates stored
      · rw [sameNext] at armed
        rw [type, sameCount]
        exact below_after run' mem (spared.waiting _ mem r stored armed) (ih spared' r stored armed)
    · cases none.symm.trans stored'
    · cases after.symm.trans stored'
      exact below_after run' mem (not_cutsOff (inserted_eq_some.1 ins))
        (spared.stored _ mem n ins rfl armed)

/-- A pass reads a bound above the count with which it has found a notification. -/
theorem Handles.within {A B C : History} {scan read : Event Call Op Op.Ans World Choice}
    {type : Option NotificationTypeRow} (handles : Handles r type A scan B read)
    (run : (system ext).Run (Pool.idle w₀) es p) (absent : w₀.notification r.id = none)
    (spared : Spared es r.id) (place : es = A ++ scan :: (B ++ read :: C)) :
    ∀ nt, type = some nt → r.escalationCount < nt.maxEscalations := by
  rintro nt rfl
  have there : read ∈ es := by simp [place]
  obtain ⟨g, watched, _⟩ := phased run
  obtain ⟨unchanged, stored, due⟩ := scan_found watched (by simp [place]) handles.due
  have joined : Joined scan.after B read.before := (place ▸ watched).between
  have at_scan : scan.after.Below r.notificationTypeId r.escalationCount := by
    rw [unchanged]
    have initial := place ▸ run
    obtain ⟨q, _, _, _, _, _, rfl, run', -⟩ := initial.at
    exact armed_below run' absent (spared.initial (place ▸ List.prefix_append ..)) r stored
      (armed_of_due due)
  have spares := spared.found A scan B read C r (some nt) place handles rfl
  have at_read := below_between run (by simp +contextual [place]) joined spares at_scan
  exact at_read nt (handles.read_type run there).symm

theorem Escalates.of_action {q : Db.Notifications.Query} (acts : q.escalates id = true)
    (may : Escalates h (.sql (.notifications q))) :
    ∃ r h₀ type h', Reached r h₀ ∧ h = h₀ ++ ⟨r.typeOp, .ok type⟩ :: h' ∧ r.id = id := by
  generalize op : Op.sql (.notifications q) = o at may
  cases may with
  | scan =>
    cases op
    cases acts
  | type => cases op
  | clock => cases op
  | count =>
    cases op
    cases acts
  | @act r h type h' next a reached rearms =>
    refine ⟨r, h, type, _, reached, rfl, ?_⟩
    rcases escalationQuery_cases (escalationAction type) r.id with action | action <;>
    · rw [NotificationRow.actionOp, action] at op
      cases op
      exact of_decide_eq_true acts

/-- What a pass has done before it counts or performs an escalation. -/
theorem escalation_anatomy (run : (system ext).Run (Pool.idle w₀) es p) (split : es = pre ++ e :: post)
    (escalated : recounts id e = true ∨ escalates id e = true) :
    ∃ r type A scan B read C, pre = A ++ scan :: (B ++ read :: C) ∧ Handles r type A scan B read ∧
      scan.tid = e.tid ∧ r.id = id := by
  rcases escalated with updates | acts
  · obtain ⟨count, next, updates⟩ := recounts_iff.1 updates
    obtain ⟨-, r, type, A, scan, B, read, C, place, handles, tid, same, -⟩ :=
      count_anatomy run split updates
    exact ⟨r, type, A, scan, B, read, C, place, handles, tid, same⟩
  · obtain ⟨escalating, acts⟩ := Bool.and_eq_true_iff.1 acts
    obtain ⟨q, ran', acts⟩ := (Option.any_eq_true ..).1 acts
    have call : e.call = .escalation := by
      cases call : e.call with
      | escalation => rfl
      | _ =>
        rw [call] at escalating
        cases escalating
    have may : e.call.Escalates (doneBy pre e.tid) e.op :=
      (run.recorded (body_escalates ext)).1 pre e post split
    rw [call, op_of_ran ran'] at may
    obtain ⟨r, h, type, h', reached, past, same⟩ := Escalates.of_action acts may
    rw [split] at run
    obtain ⟨q, _, _, _, _, _, rfl, run', _⟩ := run.at
    obtain ⟨A, scan, B, read, C, place, handles, own, -⟩ := read_for run' reached past
    exact ⟨r, type, A, scan, B, read, C, place, handles, own, same⟩

end

/-- In a run in which no bound is set at or below the count of a notification that waits for an
escalation, every escalation of it is below the bound that the pass has read. -/
theorem within_limit {ext : Ext} {w₀ : World} {es : History} {p : State} {id : Uuid}
    (run : (system ext).Run (Pool.idle w₀) es p) (absent : w₀.notification id = none)
    (spared : Spared es id) : WithinLimit es id := by
  intro pre e post split escalated
  obtain ⟨r, type, A, scan, B, read, C, place, handles, tid, rfl⟩ :=
    escalation_anatomy run split escalated
  refine ⟨r, type, A, scan, B, read, C, place, handles, tid, rfl, ?_⟩
  exact handles.within run absent spared (C := C ++ e :: post) (by simp [split, place])

namespace Sample

/-- A request to change the bound of the type. -/
def rebound (max : Int32) : UpdateTypeRequest :=
  { update with escalationIntervalSeconds := 60, maxEscalations := max }

/-- A message is processed, the bound of its type is changed, and a pass of `n` steps follows. -/
def rebounded (max : Int32) (n : ℕ) : State × History :=
  played (world .empty [.ok message]) (.start 0 (.processor 0 0) ::
    (List.replicate 16 (.step 0 choice) ++
      .start 1 (.rpc 0 (some ann) (.updateType (rebound max))) :: (List.replicate 4 (.step 1 choice) ++
        .start 2 .escalation :: List.replicate n (.step 2 { choice with now := 100000000 }))))

theorem spared_rebounded : Spared (rebounded 5 5).2 3 := by
  have written : ((rebounded 5 5).2.all fun e =>
    (typeWritten e.op e.ans).all fun written => written.2.2.maxEscalations = 5) = true := rfl
  have due : ((rebounded 5 5).2.all fun e =>
    (found e.op e.ans).all fun r => r.escalationCount = 0) = true := rfl
  have spares : ∀ e ∈ (rebounded 5 5).2, ∀ typeId count, count < 5 → ¬ CutsOff typeId count e := by
    rintro e he typeId count below ⟨serviceId, typeKey, nt, writes, -, bound⟩
    have five := List.all_eq_true.1 written e he
    rw [writes] at five
    have five : nt.maxEscalations = 5 := of_decide_eq_true five
    rw [five] at bound
    exact Int32.not_lt.2 bound below
  have count : ∀ r A scan B, (rebounded 5 5).2 = A ++ scan :: B → r ∈ found scan.op scan.ans →
      r.escalationCount = 0 := by
    intro r A scan B place mem
    have zero := List.all_eq_true.1 due scan (by simp [place])
    exact of_decide_eq_true (List.all_eq_true.1 zero r mem)
  refine ⟨fun e he n ins _ _ nt found => ?_, fun e he r stored _ => ?_, ?_, ?_⟩
  · have one : ((rebounded 5 5).2.all fun e => (inserted e.op e.ans).all fun n =>
      (e.before.db.notificationTypes.lookup (.id n.notificationTypeId)).all fun nt =>
        0 < nt.maxEscalations) = true := rfl
    have one := List.all_eq_true.1 one e he
    rw [ins] at one
    have found : e.before.db.notificationTypes.lookup (.id n.notificationTypeId) = some nt := found
    simp only [Option.all_some, found] at one
    exact of_decide_eq_true one
  · have few : ((rebounded 5 5).2.all fun e =>
      (e.before.notification 3).all fun r => r.escalationCount < 5) = true := rfl
    have few := List.all_eq_true.1 few e he
    rw [stored] at few
    exact spares e he _ _ (of_decide_eq_true few)
  · intro A scan B read C r type place handles _ e he
    refine spares e (by simp [place, he]) _ _ ?_
    rw [count r A scan _ place handles.due]
    decide
  · intro A scan B read C update D r nt place handles _ _ _ _ _ e he
    refine spares e (by simp [place, he]) _ _ ?_
    rw [count r A scan _ place handles.due]
    decide

end Sample

theorem within_limit_rebounded : WithinLimit (Sample.rebounded 5 5).2 3 :=
  within_limit (Sample.run_played rfl) rfl Sample.spared_rebounded

/-- A pass escalates a notification although the bound of its type has been set to nothing. -/
theorem not_within_limit : ¬ ∀ (ext : Ext) (w₀ : World) (es : History) (p : State) (id : Uuid),
    (system ext).Run (Pool.idle w₀) es p → w₀.notification id = none → WithinLimit es id := by
  intro within
  have run : (system Sample.ext).Run _ (Sample.rebounded 0 4).2 _ := Sample.run_played rfl
  obtain ⟨e, post, split, updates⟩ : ∃ (e : Event Call Op Op.Ans World Choice) (post : History),
      (Sample.rebounded 0 4).2 = (Sample.rebounded 0 4).2.take 22 ++ e :: post ∧
        recounts 3 e = true := ⟨_, _, rfl, rfl⟩
  obtain ⟨r, type, A, scan, B, read, C, place, handles, -, -, below⟩ :=
    within _ _ _ _ 3 run rfl _ e post split (.inl updates)
  have due : ((Sample.rebounded 0 4).2.all fun e =>
    (found e.op e.ans).all fun r => r.escalationCount = 0) = true := rfl
  have none : ((Sample.rebounded 0 4).2.all fun e => (typeRead e.op e.ans).all fun type =>
    type.any fun nt => nt.maxEscalations = 0) = true := rfl
  rw [place] at split
  have due := List.all_eq_true.1 due scan (by simp [split])
  have count : r.escalationCount = 0 := of_decide_eq_true (List.all_eq_true.1 due r handles.due)
  have reads : typeRead read.op read.ans = some type :=
    congrArg (fun d : Σ o : Op, o.Ans => typeRead d.1 d.2) handles.reads
  have none := List.all_eq_true.1 none read (by simp [split])
  rw [reads] at none
  obtain ⟨nt, same, zero⟩ := (Option.any_eq_true ..).1 none
  have below := below nt same
  rw [count, of_decide_eq_true zero] at below
  exact absurd below (by decide)

end Estafeta
