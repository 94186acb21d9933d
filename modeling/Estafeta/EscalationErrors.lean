import Estafeta.EscalationCount
import Estafeta.PassRecords

/-!
# Escalation passes that end with an error

A pass counts an escalation and performs its action in two statements, and ends with the first
statement that fails. Each notification of the batch has then been both counted and acted on, or
neither, just when it is not the action that has failed (`escalated_whole_iff`): the count has then
been used up for nothing.
-/

open Relational Atomic

namespace Estafeta

/-! ## What a record says of a notification -/

/-- The interaction counts an escalation of a notification, or performs one. -/
def handles (id : Uuid) (d : Σ o : Op, o.Ans) : Bool :=
  (ran d.1 d.2).any fun q => q.recounts id || q.escalates id

section

variable {r : NotificationRow} {rows : List NotificationRow} {type : Option NotificationTypeRow}
  {next : Option Time} {h : Record} {hs : List Record} {id : Uuid} {d : Σ o : Op, o.Ans}

theorem Rearms.idle (rearms : Rearms r type h next) (mem : d ∈ h) : handles id d = false := by
  cases rearms with
  | ends => cases mem
  | again =>
    cases List.mem_singleton.1 mem
    rfl

theorem Rearms.idle_read (rearms : Rearms r type h next) (mem : d ∈ ⟨r.typeOp, .ok type⟩ :: h) :
    handles id d = false := by
  rcases List.mem_cons.1 mem with rfl | mem
  · rfl
  · exact rearms.idle mem

theorem handles_count {a} : handles id ⟨r.countOp next, .ok a⟩ = decide (r.id = id) := by
  show (decide (r.id = id) || false) = _
  rw [Bool.or_false]

theorem handles_action {a} : handles id ⟨r.actionOp type, .ok a⟩ = decide (r.id = id) := by
  show (Db.Notifications.Query.recounts id _ || Db.Notifications.Query.escalates id _) = _
  rcases escalationQuery_cases (escalationAction type) r.id with action | action <;>
  · rw [action]
    rfl

theorem Round.own (round : Round r h) (mem : d ∈ h) (handled : handles id d = true) : r.id = id := by
  cases round with
  | mk rearms =>
    rcases List.mem_cons.1 mem with rfl | mem
    · cases handled
    rcases List.mem_append.1 mem with mem | mem
    · rw [rearms.idle mem] at handled
      cases handled
    rcases List.mem_cons.1 mem with rfl | mem
    · rw [handles_count] at handled
      exact of_decide_eq_true handled
    · cases List.mem_singleton.1 mem
      rw [handles_action] at handled
      exact of_decide_eq_true handled

theorem rounds_own (rounds : List.Forall₂ Round rows hs) (mem : d ∈ hs.flatten)
    (handled : handles id d = true) : ∃ r ∈ rows, r.id = id := by
  induction rounds with
  | nil => cases mem
  | cons round _ ih =>
    rw [List.flatten_cons] at mem
    rcases List.mem_append.1 mem with mem | mem
    · exact ⟨_, .head _, round.own mem handled⟩
    · obtain ⟨r, mem, same⟩ := ih mem
      exact ⟨r, .tail _ mem, same⟩

/-- An action that has failed. -/
def ActionFails (d : Σ o : Op, o.Ans) : Prop :=
  ran d.1 d.2 = none ∧ ∃ id, d.1 = .sql (.notifications (.resurfaceNotification id)) ∨
    d.1 = .sql (.notifications (.bumpNotification id))

theorem Rearms.works (rearms : Rearms r type h next) (mem : d ∈ h) : ¬ ActionFails d := by
  cases rearms with
  | ends => cases mem
  | again =>
    cases List.mem_singleton.1 mem
    rintro ⟨-, id, same | same⟩ <;> cases same

theorem Rearms.works_read (rearms : Rearms r type h next) (mem : d ∈ ⟨r.typeOp, .ok type⟩ :: h) :
    ¬ ActionFails d := by
  rcases List.mem_cons.1 mem with rfl | mem
  · rintro ⟨-, id, same | same⟩ <;> cases same
  · exact rearms.works mem

theorem Round.works (round : Round r h) (mem : d ∈ h) : ¬ ActionFails d := by
  cases round with
  | mk rearms =>
    rcases List.mem_cons.1 mem with rfl | mem
    · rintro ⟨-, id, same | same⟩ <;> cases same
    rcases List.mem_append.1 mem with mem | mem
    · exact rearms.works mem
    rcases List.mem_cons.1 mem with rfl | mem
    · rintro ⟨none, -⟩
      cases none
    · cases List.mem_singleton.1 mem
      rintro ⟨none, -⟩
      cases none

theorem rounds_work (rounds : List.Forall₂ Round rows hs) (mem : d ∈ hs.flatten) :
    ¬ ActionFails d := by
  induction rounds with
  | nil => cases mem
  | cons round _ ih =>
    rw [List.flatten_cons] at mem
    rcases List.mem_append.1 mem with mem | mem
    · exact round.works mem
    · exact ih mem

theorem Round.both (round : Round r h) :
    (∃ next a, (⟨r.countOp next, .ok a⟩ : Σ o : Op, o.Ans) ∈ h) ∧
      ∃ type a, (⟨r.actionOp type, .ok a⟩ : Σ o : Op, o.Ans) ∈ h := by
  cases round with
  | mk rearms =>
    refine ⟨⟨_, _, .tail _ (List.mem_append_right _ (.head _))⟩,
      _, _, .tail _ (List.mem_append_right _ (.tail _ (.head _)))⟩

theorem rounds_both (rounds : List.Forall₂ Round rows hs) (mem : r ∈ rows) :
    (∃ next a, (⟨r.countOp next, .ok a⟩ : Σ o : Op, o.Ans) ∈ hs.flatten) ∧
      ∃ type a, (⟨r.actionOp type, .ok a⟩ : Σ o : Op, o.Ans) ∈ hs.flatten := by
  induction rounds with
  | nil => cases mem
  | cons round _ ih =>
    rcases List.mem_cons.1 mem with rfl | mem
    · obtain ⟨⟨next, a, counts⟩, type, a', acts⟩ := round.both
      exact ⟨⟨next, a, List.mem_append_left _ counts⟩, type, a', List.mem_append_left _ acts⟩
    · obtain ⟨⟨next, a, counts⟩, type, a', acts⟩ := ih mem
      exact ⟨⟨next, a, List.mem_append_right _ counts⟩, type, a', List.mem_append_right _ acts⟩

end

/-! ## What a pass has done to a notification -/

/-- A pass has advanced the count and the next time of a notification that it has found due. -/
def Advanced (es : History) (i : ℕ) (r : NotificationRow) : Prop :=
  ∃ e ∈ es, e.tid = i ∧ ∃ next r',
    ran e.op e.ans = some (.updateEscalation r.id (r.escalationCount + 1) next) ∧
    e.after.notification r.id = some r' ∧ r'.escalationCount = r.escalationCount + 1 ∧
    r'.nextEscalationAt = next

/-- A pass has resurfaced or bumped a notification. -/
def ActedOn (es : History) (i : ℕ) (r : NotificationRow) : Prop :=
  ∃ e ∈ es, e.tid = i ∧ ∃ r', e.after.notification r.id = some r' ∧
    r'.updatedAt = e.choice.now ∧
    (ran e.op e.ans = some (.resurfaceNotification r.id) ∧ r'.state = "unseen" ∧ r'.seenAt = none ∨
      ran e.op e.ans = some (.bumpNotification r.id))

/-- The batch that a pass has found. -/
def Batch (es : History) (i : ℕ) (rows : List NotificationRow) : Prop :=
  (doneBy es i).head? = some ⟨scanOp, .ok rows⟩

/-- No action of a pass fails. -/
def ActionsWork (es : History) (i : ℕ) : Prop :=
  ∀ e ∈ es, e.tid = i → ∀ id,
    e.op = .sql (.notifications (.resurfaceNotification id)) ∨
      e.op = .sql (.notifications (.bumpNotification id)) → e.choice.failure = none

section

variable {ext : Ext} {w₀ : World} {es : History} {p : State} {i : ℕ} {r : NotificationRow}
  {rows : List NotificationRow} {rest : Record} {k : Prog Op Op.Ans Failure Outcome}

/-- The batch of a pass, and that its rows are stored whenever the pass does something. -/
theorem batch_of_record (run : (system ext).Run (Pool.idle w₀) es p)
    (past : doneBy es i = ⟨scanOp, .ok rows⟩ :: rest) : (rows.map (·.id)).Nodup ∧
      ∀ r ∈ rows, ∀ e ∈ es, e.tid = i → e.op ≠ scanOp →
        ∃ r', e.before.notification r.id = some r' := by
  obtain ⟨g, run, _⟩ := phased run
  obtain ⟨pre, scan, post, rfl, own, done, first, _⟩ := doneBy_split (h := []) past
  obtain ⟨j, c, _, o, x, w, rfl, _⟩ := run.permitted scan (by simp)
  have answered : found o (exec ext x o w).1 = rows :=
    congrArg (fun d : Σ o : Op, o.Ans => found d.1 d.2) done
  refine ⟨answered ▸ nodup_found ext x o w, fun r mem e he own' other => ?_⟩
  rw [← answered] at mem
  obtain ⟨same, stored, _⟩ := scan_found run (List.mem_append_right _ (.head _)) mem
  rcases List.mem_append.1 he with he | he
  · have done' : e.done ∈ doneBy pre i := mem_doneBy.2 ⟨e, he, own', rfl⟩
    rw [first] at done'
    cases done'
  rcases List.mem_cons.1 he with rfl | he
  · exact absurd (congrArg Sigma.fst done) other
  · obtain ⟨mid, post', rfl⟩ := List.append_of_mem he
    exact stored_between run (by simp +contextual) run.between (same ▸ stored)

theorem advanced_of_done (run : (system ext).Run (Pool.idle w₀) es p)
    (past : doneBy es i = ⟨scanOp, .ok rows⟩ :: rest) (mem : r ∈ rows) {next : Option Time} {a}
    (counted : ⟨r.countOp next, .ok a⟩ ∈ doneBy es i) : Advanced es i r := by
  obtain ⟨e, he, own, done⟩ := mem_doneBy.1 counted
  have ran' : ran e.op e.ans = some (.updateEscalation r.id (r.escalationCount + 1) next) :=
    congrArg (fun d : Σ o : Op, o.Ans => ran d.1 d.2) done
  obtain ⟨r₁, stored⟩ := (batch_of_record run past).2 r mem e he own
    fun same => by cases (congrArg Sigma.fst done).symm.trans same
  obtain ⟨j, c, o, x, w, rfl⟩ := performed run e he
  have after := notification_of_ran ran' stored
  obtain ⟨count, again⟩ := rewrite_update (x.env ext) (r.escalationCount + 1) next
    (Table.mem_of_lookup stored) (World.id_of stored)
  exact ⟨_, he, own, next, _, ran', after, count, again⟩

theorem actedOn_of_done (run : (system ext).Run (Pool.idle w₀) es p)
    (past : doneBy es i = ⟨scanOp, .ok rows⟩ :: rest) (mem : r ∈ rows)
    {type : Option NotificationTypeRow} {a} (acted : ⟨r.actionOp type, .ok a⟩ ∈ doneBy es i) :
    ActedOn es i r := by
  obtain ⟨e, he, own, done⟩ := mem_doneBy.1 acted
  have ran' : ran e.op e.ans = some (escalationQuery (escalationAction type) r.id) :=
    congrArg (fun d : Σ o : Op, o.Ans => ran d.1 d.2) done
  have action := escalationQuery_cases (escalationAction type) r.id
  obtain ⟨r₁, stored⟩ := (batch_of_record run past).2 r mem e he own fun same => by
    rw [op_of_ran ran'] at same
    rcases action with action | action <;> cases action ▸ same
  obtain ⟨j, c, o, x, w, rfl⟩ := performed run e he
  have row : r₁ ∈ w.db.notifications.rows := Table.mem_of_lookup stored
  have named : r₁.id = r.id := World.id_of stored
  have after := notification_of_ran ran' stored
  rcases action with action | action <;> rw [action] at after ran'
  · rw [Db.Notifications.rewrite_by_id (q := .resurfaceNotification r.id) row rfl
      (decide_eq_true named) rfl] at after
    exact ⟨_, he, own, _, after, rfl, .inl ⟨ran', rfl, rfl⟩⟩
  · rw [Db.Notifications.rewrite_by_id (q := .bumpNotification r.id) row rfl
      (decide_eq_true named) rfl] at after
    exact ⟨_, he, own, _, after, rfl, .inr ran'⟩

theorem not_actedOn (silent : ∀ d ∈ doneBy es i, ∀ q, ran d.1 d.2 = some q →
    q.escalates r.id = false) : ¬ ActedOn es i r := by
  rintro ⟨e, he, own, r', -, -, acts⟩
  have mem : e.done ∈ doneBy es i := mem_doneBy.2 ⟨e, he, own, rfl⟩
  have itself : decide (r.id = r.id) = true := decide_eq_true rfl
  rcases acts with ⟨ran', -⟩ | ran'
  · exact absurd (itself.symm.trans (silent _ mem _ ran')) nofun
  · exact absurd (itself.symm.trans (silent _ mem _ ran')) nofun

/-- What a pass has not touched it has neither advanced nor acted on. -/
theorem untouched (silent : ∀ d ∈ doneBy es i, handles r.id d = false) :
    ¬ Advanced es i r ∧ ¬ ActedOn es i r := by
  have neither : ∀ d ∈ doneBy es i, ∀ q, ran d.1 d.2 = some q →
      q.recounts r.id = false ∧ q.escalates r.id = false := by
    intro d mem q ran'
    have none := silent d mem
    unfold handles at none
    rw [ran'] at none
    exact Bool.or_eq_false_iff.1 none
  refine ⟨?_, not_actedOn fun d mem q ran' => (neither d mem q ran').2⟩
  rintro ⟨e, he, own, next, r', ran', -⟩
  have itself : decide (r.id = r.id) = true := decide_eq_true rfl
  have none := (neither e.done (mem_doneBy.2 ⟨e, he, own, rfl⟩) _ ran').1
  exact absurd (itself.symm.trans none) nofun

end

/-- What a pass has done for a notification that it is done with. -/
def Whole (h : Record) (r : NotificationRow) : Prop :=
  (∃ next a, ⟨r.countOp next, .ok a⟩ ∈ h) ∧ ∃ type a, ⟨r.actionOp type, .ok a⟩ ∈ h

/-- A pass that has ended has dealt with the first part of its batch and not touched the rest, or it
has counted the escalation of a notification whose action failed. -/
inductive Ends : Record → Prop where
  | unread (e) : Ends [⟨scanOp, .error e⟩]
  | clean {earlier later rest} : (∀ r ∈ earlier, Whole rest r) →
    (∀ d ∈ rest, ∀ id, handles id d = true → ∃ r ∈ earlier, r.id = id) →
    (∀ d ∈ rest, ¬ ActionFails d) → Ends (⟨scanOp, .ok (earlier ++ later)⟩ :: rest)
  | torn {earlier later rest type next a e} {r : NotificationRow} :
    (∀ d ∈ rest, ∀ id, handles id d = true → ∃ r ∈ earlier, r.id = id) →
    Ends (⟨scanOp, .ok (earlier ++ r :: later)⟩ ::
      (rest ++ [⟨r.countOp next, .ok a⟩, ⟨r.actionOp type, .error e⟩]))

section

variable {h : Record} {earlier later : List NotificationRow} {hs : List Record}

theorem ends_clean {t : Record} (rounds : List.Forall₂ Round earlier hs)
    (idle : ∀ d ∈ t, ∀ id, handles id d = false) (works : ∀ d ∈ t, ¬ ActionFails d) :
    Ends (⟨scanOp, .ok (earlier ++ later)⟩ :: (hs.flatten ++ t)) := by
  refine .clean (fun r mem => ?_) (fun d mem id handled => ?_) fun d mem => ?_
  · obtain ⟨⟨next, a, counts⟩, type, a', acts⟩ := rounds_both rounds mem
    exact ⟨⟨next, a, List.mem_append_left _ counts⟩, type, a', List.mem_append_left _ acts⟩
  · rcases List.mem_append.1 mem with mem | mem
    · exact rounds_own rounds mem handled
    · rw [idle d mem id] at handled
      cases handled
  · rcases List.mem_append.1 mem with mem | mem
    · exact rounds_work rounds mem
    · exact works d mem

theorem ends_of_ended (ended : Handled h ∨ Aborted h) : Ends h := by
  rcases ended with handled | ⟨h, q, e, may, rfl⟩
  · cases handled with
    | @mk rows hs rounds =>
      rw [← List.append_nil rows, ← List.append_nil hs.flatten]
      exact ends_clean rounds (fun _ mem => absurd mem List.not_mem_nil)
        fun _ mem => absurd mem List.not_mem_nil
  · cases may with
    | scan => exact .unread e
    | @type r h reached =>
      cases reached with
      | mk rounds =>
        refine ends_clean rounds (fun d mem id => ?_) fun d mem => ?_
        · cases List.mem_singleton.1 mem
          rfl
        · cases List.mem_singleton.1 mem
          rintro ⟨-, id, same | same⟩ <;> cases same
    | @count r h type h' next reached rearms =>
      cases reached with
      | mk rounds =>
        rw [List.append_assoc]
        refine ends_clean rounds (fun d mem id => ?_) fun d mem => ?_
        · rcases List.mem_append.1 mem with mem | mem
          · exact rearms.idle_read mem
          · cases List.mem_singleton.1 mem
            rfl
        · rcases List.mem_append.1 mem with mem | mem
          · exact rearms.works_read mem
          · cases List.mem_singleton.1 mem
            rintro ⟨-, id, same | same⟩ <;> cases same
    | @act r h type h' next a reached rearms =>
      cases reached with
      | @mk earlier later hs rounds =>
        have others : ∀ d ∈ hs.flatten ++ ⟨r.typeOp, .ok type⟩ :: h', ∀ id, handles id d = true →
            ∃ r ∈ earlier, r.id = id := by
          intro d mem id handled
          rcases List.mem_append.1 mem with mem | mem
          · exact rounds_own rounds mem handled
          · rw [rearms.idle_read mem] at handled
            cases handled
        have torn : Ends (⟨scanOp, .ok (earlier ++ r :: later)⟩ ::
            ((hs.flatten ++ ⟨r.typeOp, .ok type⟩ :: h') ++
              [⟨r.countOp next, .ok a⟩, ⟨r.actionOp type, .error e⟩])) := .torn others
        simpa using torn

end

section

variable {ext : Ext} {w₀ : World} {es : History} {p : State} {i : ℕ} {r : NotificationRow}
  {k : Prog Op Op.Ans Failure Outcome}

theorem ran_of_failure {x : Choice} {w : World} {q : Sql} {e : DbError}
    (failed : x.failure = some e) : ran (.sql q) (exec ext x (.sql q) w).1 = none := by
  have answer : (exec ext x (.sql q) w).1 = .error e := congrArg Prod.fst (execSql_of_failure failed)
  rw [answer]
  cases q <;> rfl

theorem not_earlier {earlier later : List NotificationRow}
    (apart : ((earlier ++ later).map (·.id)).Nodup) (mem : r ∈ later) :
    ¬ ∃ r' ∈ earlier, r'.id = r.id := by
  rintro ⟨r', mem', same⟩
  rw [List.map_append] at apart
  exact List.disjoint_of_nodup_append apart (List.mem_map_of_mem mem')
    (same ▸ List.mem_map_of_mem mem)

theorem actionsWork_iff (run : (system ext).Run (Pool.idle w₀) es p) :
    ActionsWork es i ↔ ∀ d ∈ doneBy es i, ¬ ActionFails d := by
  constructor
  · rintro works d mem ⟨failed, id, action⟩
    obtain ⟨e, he, own, rfl⟩ := mem_doneBy.1 mem
    have none := works e he own id action
    obtain ⟨j, c, o, x, w, rfl⟩ := performed run e he
    exact ran_action none action failed
  · intro work e he own id action
    by_contra failure
    obtain ⟨err, failed⟩ := Option.ne_none_iff_exists'.1 failure
    refine work e.done (mem_doneBy.2 ⟨e, he, own, rfl⟩) ⟨?_, id, action⟩
    obtain ⟨j, c, o, x, w, rfl⟩ := performed run e he
    rcases action with rfl | rfl <;> exact ran_of_failure failed

/-- A pass that has ended has each notification of its batch both advanced and acted on, or neither,
if and only if no action has failed. -/
theorem escalated_whole_iff (run : (system ext).Run (Pool.idle w₀) es p)
    (thread : p.threads i = some (.escalation, k)) (done : k.Done) :
    (∀ rows, Batch es i rows → ∀ r ∈ rows, (Advanced es i r ↔ ActedOn es i r)) ↔
      ActionsWork es i := by
  have ended : Call.Ended .escalation (doneBy es i) := by
    have ended := (run.recorded (body_escalates ext)).2.2 i .escalation k thread
    cases k with
    | ret a => exact ended
    | fail e => exact ended
    | call o k => exact done.elim
  rw [actionsWork_iff run]
  generalize past : doneBy es i = h at ended
  cases ends_of_ended ended with
  | unread e =>
    refine iff_of_true (fun rows batch => ?_) fun d mem => ?_
    · unfold Batch at batch
      rw [past] at batch
      cases batch
    · cases List.mem_singleton.1 mem
      rintro ⟨-, id, same | same⟩ <;> cases same
  | @clean earlier later rest whole others works =>
    refine iff_of_true (fun rows batch r mem => ?_) fun d mem => ?_
    · unfold Batch at batch
      rw [past] at batch
      cases batch
      rcases List.mem_append.1 mem with among | behind
      · obtain ⟨⟨next, a, counts⟩, type, a', acts⟩ := whole r among
        have counted : ⟨r.countOp next, .ok a⟩ ∈ doneBy es i := past ▸ List.mem_cons_of_mem _ counts
        have acted : ⟨r.actionOp type, .ok a'⟩ ∈ doneBy es i := past ▸ List.mem_cons_of_mem _ acts
        exact iff_of_true (advanced_of_done run past mem counted) (actedOn_of_done run past mem acted)
      · have apart := not_earlier (batch_of_record run past).1 behind
        have silent : ∀ d ∈ doneBy es i, handles r.id d = false := by
          intro d mem
          rw [past] at mem
          rcases List.mem_cons.1 mem with rfl | mem
          · rfl
          · exact Bool.eq_false_iff.2 fun handled => apart (others d mem _ handled)
        exact iff_of_false (untouched silent).1 (untouched silent).2
    · rcases List.mem_cons.1 mem with rfl | mem
      · rintro ⟨-, id, same | same⟩ <;> cases same
      · exact works d mem
  | @torn earlier later rest type next a e r others =>
    refine iff_of_false (fun whole => ?_) fun works => ?_
    · have mem : r ∈ earlier ++ r :: later := List.mem_append_right _ (.head _)
      have apart := not_earlier (batch_of_record run past).1 (.head _)
      have counted : ⟨r.countOp next, .ok a⟩ ∈ doneBy es i := by
        rw [past]
        simp
      have advanced := advanced_of_done run past mem counted
      have batch : Batch es i (earlier ++ r :: later) := by
        rw [Batch, past]
        rfl
      refine not_actedOn (fun d mem q ran' => ?_) ((whole _ batch r mem).1 advanced)
      rw [past] at mem
      rcases List.mem_cons.1 mem with rfl | mem
      · cases ran'
        rfl
      rcases List.mem_append.1 mem with mem | mem
      · refine Bool.eq_false_iff.2 fun acts => apart (others d mem r.id ?_)
        unfold handles
        rw [ran']
        exact Bool.or_eq_true_iff.2 (.inr acts)
      rcases List.mem_cons.1 mem with rfl | mem
      · cases ran'
        rfl
      · cases List.mem_singleton.1 mem
        cases ran'
    · refine works ⟨r.actionOp type, .error e⟩ (by simp) ⟨rfl, r.id, ?_⟩
      exact (escalationQuery_cases (escalationAction type) r.id).imp
        (congrArg fun q => Op.sql (.notifications q)) (congrArg fun q => Op.sql (.notifications q))

end

namespace Sample

/-- A pass finds a notification due, and after `n` more steps a statement of it fails. -/
def failingAfter (n : ℕ) : State × History :=
  played (world (.single (notification "unread") check_unread) [])
    (.start 0 .escalation :: (List.replicate (n + 1) (.step 0 choice) ++
      [.step 0 { choice with failure := some .unavailable }]))

end Sample

open Sample in
/-- A pass whose update fails leaves the notification as it was. -/
theorem escalated_whole_iff_failingAfter : ActionsWork (failingAfter 1).2 0 ∧
    ∀ rows, Batch (failingAfter 1).2 0 rows → ∀ r ∈ rows,
      (Advanced (failingAfter 1).2 0 r ↔ ActedOn (failingAfter 1).2 0 r) := by
  have run : (system ext).Run _ (failingAfter 1).2 (failingAfter 1).1 := run_played rfl
  obtain ⟨k, thread, done⟩ : ∃ k, (failingAfter 1).1.threads 0 = some (.escalation, k) ∧ k.Done :=
    ⟨_, rfl, trivial⟩
  have works : ActionsWork (failingAfter 1).2 0 := by
    intro e he _ id action
    rcases he with _ | ⟨_, _ | ⟨_, _ | ⟨_, ⟨⟩⟩⟩⟩ <;> rcases action with same | same <;> cases same
  exact ⟨works, (escalated_whole_iff run thread done).2 works⟩

open Sample in
/-- A pass whose action fails has advanced the count of a notification, which is not due again and is
as it was otherwise. -/
theorem not_escalated_whole : ∃ r, Batch (failingAfter 2).2 0 [r] ∧
    Advanced (failingAfter 2).2 0 r ∧ ¬ ActedOn (failingAfter 2).2 0 r ∧
    ∃ r', (failingAfter 2).1.world.notification 3 = some r' ∧ r'.escalationCount = 1 ∧
      r'.nextEscalationAt = none ∧ r'.state = "unread" := by
  refine ⟨notification "unread", rfl,
    ⟨_, .tail _ (.tail _ (.head _)), rfl, none, _, rfl, rfl, rfl, rfl⟩,
    not_actedOn fun d mem q ran' => ?_, _, rfl, rfl, rfl, rfl⟩
  have none : ((doneBy (failingAfter 2).2 0).all fun d =>
    (ran d.1 d.2).all fun q => !q.escalates 3) = true := rfl
  have silent := List.all_eq_true.1 none d mem
  rw [ran'] at silent
  exact Bool.not_eq_eq_eq_not.1 silent

end Estafeta
