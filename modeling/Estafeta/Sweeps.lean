import Estafeta.Lib.Drain
import Estafeta.Mirroring

/-!
# Waking and expiring

The statements of the loops for snooze wake-up and for expiry do the same to different rows: `Sweep`
is either. What a sweep answers was due and has been set (`swept_due`); a notification that has been
answered must be snoozed, or resurfaced, before it is answered again (`revived_between`); and on a
store that nothing else changes, sweeps drain what is due (`drained`).
-/

open Relational Atomic

namespace Estafeta

/-! ## The two statements as one -/

/-- A statement that wakes, or expires, what is due. -/
inductive Sweep where
  | wakeUp
  | expiry

namespace Sweep

def query (b : Int64) : Sweep → Db.Notifications.Query
  | .wakeUp => .wakeSnoozed b
  | .expiry => .expireNotifications b

/-- The rows that are due. -/
def due (now : Time) : Sweep → NotificationRow → Bool
  | .wakeUp => Db.Notifications.snoozeOver now
  | .expiry => Db.Notifications.ttlOver now

/-- Since when a row is due. -/
def time : Sweep → NotificationRow → Option Time
  | .wakeUp => fun r => r.snoozedUntil
  | .expiry => fun r => r.expiresAt

def set (now : Time) : Sweep → Assign NotificationRow
  | .wakeUp => Db.Notifications.wake now
  | .expiry => Db.Notifications.expire now

variable {s : Sweep} {now : Time} {r : NotificationRow}

@[simp] theorem set_id : ((s.set now).set r).id = r.id := by
  cases s <;> rfl

theorem not_due_set : s.due now ((s.set now).set r) = false := by
  cases s with
  | wakeUp => rfl
  | expiry => exact Bool.and_false _

end Sweep

/-! ## One sweep -/

section

variable {db : Db} {rows : List NotificationRow}

theorem perm_of_ids (stored : ∀ r ∈ rows, r ∈ db.notifications.rows) (nodup : rows.Nodup) :
    (db.notifications.select fun r => r.id ∈ rows.map (·.id)).Perm rows := by
  refine (List.perm_ext_iff_of_nodup ((Db.Notifications.nodup_rows _).filter _) nodup).2 fun r => ?_
  rw [List.mem_filter, decide_eq_true_eq, List.mem_map]
  constructor
  · rintro ⟨here, r', mem, same⟩
    rwa [Db.Notifications.eq_of_id here (stored r' mem) same.symm]
  · intro mem
    exact ⟨stored r mem, r, mem, rfl⟩

/-- The UPDATE of a batch answers its rows, as they are then. -/
theorem updateBatch_perm {env : Env} {f : Assign NotificationRow}
    (stored : ∀ r ∈ rows, r ∈ db.notifications.rows) (nodup : rows.Nodup)
    (same : ∀ r, (f.set r).id = r.id) :
    (Db.Notifications.updateBatch env rows f db).1.Perm (rows.map f.set) := by
  refine (sortOn_perm ..).trans ?_
  rw [Table.select_update fun r => by rw [same]]
  refine (List.Perm.of_eq ?_).trans ((perm_of_ids stored nodup).map f.set)
  refine List.map_congr_left fun r mem => ?_
  rw [if_pos (Table.mem_select.1 mem).2]

end

section

variable {ext : Ext} {x : Choice} {w : World}

/-- A sweep that does not fail sets the rows of its batch and answers them. -/
theorem sweep_picked {s : Sweep} {b : Int64} {rows : List NotificationRow} (works : x.failure = none)
    (picked : Db.Notifications.batch (x.env ext) (s.due x.now) s.time b w.db = .ok rows) :
    let o : Op := .sql (.notifications (s.query b))
    (swept o (exec ext x o w).1).Perm (rows.map (s.set x.now).set) ∧
      (exec ext x o w).2 =
        { w with db := (Db.Notifications.updateBatch (x.env ext) rows (s.set x.now) w.db).2 } := by
  intro o
  have stored : ∀ r ∈ rows, r ∈ w.db.notifications.rows := fun r mem =>
    (Db.Notifications.mem_batch picked mem).1
  have answered : (Db.Notifications.updateBatch (x.env ext) rows (s.set x.now) w.db).1.Perm
      (rows.map (s.set x.now).set) :=
    updateBatch_perm stored (Db.Notifications.nodup_of_batch picked) fun _ => Sweep.set_id
  cases s with
  | wakeUp =>
    have ok : (Sql.notifications (.wakeSnoozed b)).exec (x.env ext) w.db = .ok
        (Db.Notifications.updateBatch (x.env ext) rows (Sweep.set x.now .wakeUp) w.db) :=
      congrArg (Except.map _) picked
    have same : exec ext x o w = _ := execSql_of_ok works rfl ok
    rw [same]
    exact ⟨answered, rfl⟩
  | expiry =>
    have ok : (Sql.notifications (.expireNotifications b)).exec (x.env ext) w.db = .ok
        (Db.Notifications.updateBatch (x.env ext) rows (Sweep.set x.now .expiry) w.db) :=
      congrArg (Except.map _) picked
    have same : exec ext x o w = _ := execSql_of_ok works rfl ok
    rw [same]
    exact ⟨answered, rfl⟩

theorem picked_of_swept {s : Sweep} {b : Int64} {r : NotificationRow}
    (mem : r ∈ swept (.sql (.notifications (s.query b)))
      (exec ext x (.sql (.notifications (s.query b))) w).1) :
    ∃ rows, x.failure = none ∧
      Db.Notifications.batch (x.env ext) (s.due x.now) s.time b w.db = .ok rows := by
  have nothing : ∀ e, swept (.sql (.notifications (s.query b))) (.error e) = [] := by
    cases s <;> exact fun _ => rfl
  rcases execSql_cases ext x (.notifications (s.query b)) w with ⟨e, failed⟩ | ⟨a, db, ok, done⟩
  · have same : exec ext x (.sql (.notifications (s.query b))) w = (.error e, w) := failed
    rw [same, nothing] at mem
    cases mem
  · have works : x.failure = none := by
      cases failure : x.failure with
      | none => rfl
      | some e => cases (execSql_of_failure failure).symm.trans done
    cases s with
    | wakeUp =>
      obtain ⟨rows, picked, _⟩ := map_eq_ok.1 ok
      exact ⟨rows, works, picked⟩
    | expiry =>
      obtain ⟨rows, picked, _⟩ := map_eq_ok.1 ok
      exact ⟨rows, works, picked⟩

theorem swept_due {s : Sweep} {b : Int64} {r : NotificationRow}
    (mem : r ∈ swept (.sql (.notifications (s.query b)))
      (exec ext x (.sql (.notifications (s.query b))) w).1) :
    ∃ r₀, w.notification r.id = some r₀ ∧ s.due x.now r₀ = true ∧ r = (s.set x.now).set r₀ ∧
      (exec ext x (.sql (.notifications (s.query b))) w).2.notification r.id = some r := by
  obtain ⟨rows, works, picked⟩ := picked_of_swept mem
  obtain ⟨answer, after⟩ := sweep_picked works picked
  obtain ⟨r₀, taken, rfl⟩ := List.mem_map.1 (answer.mem_iff.1 mem)
  have found : w.notification r₀.id = some r₀ :=
    stored_self (Db.Notifications.mem_batch picked taken).1
  rw [Sweep.set_id]
  refine ⟨r₀, found, (Db.Notifications.mem_batch picked taken).2, rfl, ?_⟩
  rw [after]
  refine (Table.lookup_update ..).trans ?_
  rw [show w.db.notifications.lookup (.id r₀.id) = some r₀ from found, Option.map_some,
    if_pos (decide_eq_true (List.mem_map_of_mem taken))]

end

/-! ## Between two sweeps -/

/-- Operations performed one after another, each at once, whoever performs them. -/
inductive Performs (ext : Ext) (w₀ : World) : History → World → Prop where
  | nil : Performs ext w₀ [] w₀
  | snoc {es : History} {w : World} (i : ℕ) (c : Call) (o : Op) (x : Choice) :
    Performs ext w₀ es w →
    Performs ext w₀ (es ++ [(system ext).event i c o x w]) (exec ext x o w).2

section

variable {ext : Ext} {w₀ w : World} {es pre post : History} {p : State} {id : Uuid}
  {e : Event Call Op Op.Ans World Choice}

theorem performs_of_run (run : (system ext).Run (Pool.idle w₀) es p) :
    Performs ext w₀ es p.world := by
  induction run with
  | init => exact .nil
  | start _ _ _ ih => exact ih
  | step x _ _ ih => exact ih.snoc _ _ _ _

theorem Performs.joined (performs : Performs ext w₀ es w) : Joined w₀ es w := by
  induction performs with
  | nil => exact .nil _
  | snoc i c o x _ ih => exact ih.snoc ((system ext).event i c o x _)

theorem Performs.at (performs : Performs ext w₀ (pre ++ e :: post) w) :
    ∃ i c o x w', e = (system ext).event i c o x w' ∧ Performs ext w₀ pre w' ∧
      Performs ext (exec ext x o w').2 post w := by
  generalize same : pre ++ e :: post = es at performs
  induction performs generalizing post with
  | nil => simp at same
  | @snoc es w i c o x earlier ih =>
    rcases List.eq_nil_or_concat post with rfl | ⟨post, last, rfl⟩
    · obtain ⟨rfl, h⟩ := List.append_inj' same rfl
      cases h
      exact ⟨i, c, o, x, w, rfl, earlier, .nil⟩
    · rw [List.concat_eq_append, ← List.cons_append, ← List.append_assoc] at same
      obtain ⟨rfl, h⟩ := List.append_inj' same rfl
      cases h
      obtain ⟨i', c', o', x', w', rfl, before, after⟩ := ih rfl
      rw [List.concat_eq_append]
      exact ⟨i', c', o', x', w', rfl, before, after.snoc i c o x⟩

theorem Performs.event (performs : Performs ext w₀ es w) (he : e ∈ es) :
    ∃ i c o x w', e = (system ext).event i c o x w' := by
  obtain ⟨pre, post, rfl⟩ := List.append_of_mem he
  obtain ⟨i, c, o, x, w', same, _⟩ := performs.at
  exact ⟨i, c, o, x, w', same⟩

end

/-- The state in which a statement leaves the rows that it changes, if it sets one. -/
def Db.Notifications.Query.lands : Query → Option String
  | .markSeen .. => some "unread"
  | .markAllSeen _ => some "unread"
  | .markRead .. => some "read"
  | .markUnread .. => some "unread"
  | .snooze .. => some "snoozed"
  | .archive .. => some "archived"
  | .archiveAllInGroup .. => some "archived"
  | .unarchive .. => some "read"
  | .producerMarkRead .. => some "read"
  | .wakeSnoozed _ => some "unread"
  | .expireNotifications _ => some "expired"
  | .resurfaceNotification _ => some "unseen"
  | _ => none

theorem lands_state (q : Db.Notifications.Query) (now : Time) (r : NotificationRow) :
    ((q.set now).set r).state = q.lands.getD r.state := by
  cases q <;> rfl

section

variable {ext : Ext} {x : Choice} {o : Op} {w : World} {id : Uuid} {r r' : NotificationRow}

theorem snoozed_exec (before : w.notification id = some r)
    (after : (exec ext x o w).2.notification id = some r') (awake : r.state ≠ "snoozed")
    (asleep : r'.state = "snoozed") :
    ∃ userId until_, ran o (exec ext x o w).1 = some (.snooze userId id until_) := by
  rcases notification_cases ext x o w id with ⟨r₁, stored, r₂, stored', same | ⟨q, hq, set⟩⟩ |
    ⟨absent, _⟩
  · cases before.symm.trans stored
    cases after.symm.trans stored'
    exact absurd (same ▸ asleep) awake
  · cases before.symm.trans stored
    cases after.symm.trans stored'
    have named := World.id_of before
    subst set
    rcases Db.Notifications.rewrite_cases (x.env ext) w.db q r with same | ⟨addressed, _, set⟩
    · rw [same] at asleep
      exact absurd asleep awake
    · rw [set, lands_state] at asleep
      cases q with
      | snooze userId id' until_ =>
        simp only [Db.Notifications.Query.addresses, Bool.and_eq_true, decide_eq_true_eq] at addressed
        rw [← named, addressed.2]
        exact ⟨userId, until_, hq⟩
      | markSeen | markAllSeen | markRead | markUnread | archive | archiveAllInGroup | unarchive
      | producerMarkRead | wakeSnoozed | expireNotifications | resurfaceNotification =>
        simp [Db.Notifications.Query.lands] at asleep
      | _ => exact absurd asleep awake
  · cases before.symm.trans absent

theorem expired_exec (before : w.notification id = some r)
    (after : (exec ext x o w).2.notification id = some r') (expired : r.state = "expired")
    (live : r'.state ≠ "expired") : ran o (exec ext x o w).1 = some (.resurfaceNotification id) := by
  rcases notification_cases ext x o w id with ⟨r₁, stored, r₂, stored', same | ⟨q, hq, set⟩⟩ |
    ⟨absent, _⟩
  · cases before.symm.trans stored
    cases after.symm.trans stored'
    exact absurd (same ▸ expired) live
  · cases before.symm.trans stored
    cases after.symm.trans stored'
    have named := World.id_of before
    subst set
    rcases Db.Notifications.rewrite_cases (x.env ext) w.db q r with same | ⟨addressed, source, set⟩
    · rw [same] at live
      exact absurd expired live
    · rw [set] at live
      rw [expired] at source
      cases q with
      | resurfaceNotification id' =>
        rw [← named, of_decide_eq_true addressed]
        exact hq
      | updateEscalation | bumpNotification => exact absurd expired live
      | _ => simp [Db.Notifications.Query.sources] at source
  · cases before.symm.trans absent

end

namespace Sweep

/-- A notification is due: it is snoozed until a time that has come, or is past its TTL. -/
def Due (now : Time) (r : NotificationRow) : Sweep → Prop
  | .wakeUp => r.state = "snoozed" ∧ ∃ t, r.snoozedUntil = some t ∧ t ≤ now
  | .expiry => (r.state = "unseen" ∨ r.state = "unread" ∨ r.state = "read") ∧
    ∃ t, r.expiresAt = some t ∧ t ≤ now

/-- An event makes a notification one that may be due again: it snoozes it, or resurfaces it. -/
def Revives (id : Uuid) (d : Event Call Op Op.Ans World Choice) : Sweep → Prop
  | .wakeUp => ∃ userId until_ r r', ran d.op d.ans = some (.snooze userId id until_) ∧
    d.before.notification id = some r ∧ r.state ≠ "snoozed" ∧
    d.after.notification id = some r' ∧ r'.state = "snoozed"
  | .expiry => ∃ r r', ran d.op d.ans = some (.resurfaceNotification id) ∧
    d.before.notification id = some r ∧ r.state = "expired" ∧
    d.after.notification id = some r' ∧ r'.state ≠ "expired"

/-- The notifications that cannot be due. -/
def Rests (id : Uuid) (w : World) : Sweep → Prop
  | .wakeUp => ∃ r, w.notification id = some r ∧ r.state ≠ "snoozed"
  | .expiry => ∃ r, w.notification id = some r ∧ r.state = "expired"

variable {s : Sweep} {now : Time} {r : NotificationRow} {id : Uuid} {w : World}

theorem due_iff : s.due now r = true ↔ s.Due now r := by
  cases s with
  | wakeUp => simp [due, Due, Db.Notifications.snoozeOver, Option.any_eq_true]
  | expiry => simp [due, Due, Db.Notifications.ttlOver, Option.any_eq_true, and_comm]

theorem rests_set {r₀ : NotificationRow} (stored : w.notification id = some r)
    (same : r = (s.set now).set r₀) : s.Rests id w := by
  cases s with
  | wakeUp => exact ⟨r, stored, by rw [same]; exact (by decide : "unread" ≠ "snoozed")⟩
  | expiry => exact ⟨r, stored, by rw [same]; rfl⟩

theorem not_rests_of_due (stored : w.notification id = some r) (due : s.Due now r) :
    ¬ s.Rests id w := by
  cases s with
  | wakeUp =>
    rintro ⟨r', stored', awake⟩
    cases stored.symm.trans stored'
    exact awake due.1
  | expiry =>
    rintro ⟨r', stored', expired⟩
    cases stored.symm.trans stored'
    rcases due.1 with state | state | state <;> exact absurd (state.symm.trans expired) (by decide)

end Sweep

section

variable {ext : Ext} {w₀ w : World} {es pre mid post : History} {s : Sweep} {id : Uuid}
  {e e' d : Event Call Op Op.Ans World Choice} {b b' : Int64} {r r' : NotificationRow}

/-- An event after which a notification may be due, and was not, has snoozed or resurfaced it. -/
theorem revives_of_lost {i : ℕ} {c : Call} {o : Op} {x : Choice} (rests : s.Rests id w)
    (lost : ¬ s.Rests id (exec ext x o w).2) : s.Revives id ((system ext).event i c o x w) := by
  cases s with
  | wakeUp =>
    obtain ⟨r, before, awake⟩ := rests
    have stored : ((exec ext x o w).2.notification id).isSome = true := stored_exec (before ▸ rfl)
    obtain ⟨r', after⟩ := Option.isSome_iff_exists.1 stored
    have asleep : r'.state = "snoozed" := by
      by_contra awake
      exact lost ⟨r', after, awake⟩
    obtain ⟨userId, until_, snoozed⟩ := snoozed_exec before after awake asleep
    exact ⟨userId, until_, r, r', snoozed, before, awake, after, asleep⟩
  | expiry =>
    obtain ⟨r, before, expired⟩ := rests
    have stored : ((exec ext x o w).2.notification id).isSome = true := stored_exec (before ▸ rfl)
    obtain ⟨r', after⟩ := Option.isSome_iff_exists.1 stored
    have live : r'.state ≠ "expired" := fun expired => lost ⟨r', after, expired⟩
    exact ⟨r, r', expired_exec before after expired live, before, expired, after, live⟩

/-- Between two answers of a notification, it is snoozed or resurfaced. -/
theorem revived_between (performs : Performs ext w₀ (pre ++ e :: (mid ++ e' :: post)) w)
    (first : e.op = .sql (.notifications (s.query b)))
    (second : e'.op = .sql (.notifications (s.query b'))) (mem : r ∈ swept e.op e.ans)
    (mem' : r' ∈ swept e'.op e'.ans) (same : r.id = r'.id) : ∃ d ∈ mid, s.Revives r.id d := by
  obtain ⟨i, c, o, x, v, rfl, _, later⟩ := performs.at
  obtain ⟨i', c', o', x', v', rfl, between, _⟩ := later.at
  obtain rfl : o = _ := first
  obtain rfl : o' = _ := second
  obtain ⟨r₀, _, _, set, after⟩ := swept_due mem
  obtain ⟨r₁, before, due, _⟩ := swept_due mem'
  have lost := Sweep.not_rests_of_due (same ▸ before) (Sweep.due_iff.1 due)
  obtain ⟨es₁, d, es₂, rfl, rested, ended, _⟩ := between.joined.lost (K := s.Rests r.id)
    (Sweep.rests_set after set) lost
  have there : d ∈ es₁ ++ d :: es₂ := List.mem_append_right _ (.head _)
  obtain ⟨j, a, q, y, v₁, rfl⟩ := between.event there
  exact ⟨_, there, revives_of_lost rested ended⟩

end

/-! ## Draining -/

/-- Sweeps one after another: what each answers, and the world that they leave. -/
def sweepAll (ext : Ext) (s : Sweep) (b : Int64) :
    List Choice → World → List (List NotificationRow) × World
  | [], w => ([], w)
  | x :: xs, w =>
    let o : Op := .sql (.notifications (s.query b))
    let later := sweepAll ext s b xs (exec ext x o w).2
    (swept o (exec ext x o w).1 :: later.1, later.2)

section

variable {ext : Ext} {s : Sweep} {b : Int64} {now : Time} {x : Choice} {w : World}

/-- The notifications that a sweep would find due. -/
def World.dueFor (w : World) (s : Sweep) (now : Time) : List NotificationRow :=
  w.db.notifications.select (s.due now)

theorem select_set {t : Table NotificationRow} {p own : NotificationRow → Bool}
    {f : Assign NotificationRow} (other : ∀ r, own (f.set r) = false) :
    (t.update p f).select own = (t.select own).filter fun r => !p r := by
  have same : ∀ r, own (if p r then f.set r else r) = (own r && !p r) := by
    intro r
    cases picked : p r with
    | true => simp [other]
    | false => simp
  unfold Table.select Table.update
  rw [List.filter_map, List.filter_filter]
  have kept : (own ∘ fun r => if p r then f.set r else r) = fun r => !p r && own r := by
    funext r
    exact (same r).trans (Bool.and_comm ..)
  rw [kept]
  refine (List.map_congr_left fun r mem => ?_).trans (List.map_id _)
  have left := (Bool.and_eq_true_iff.1 (List.mem_filter.1 mem).2).1
  rw [if_neg (by simpa using left)]
  rfl

/-- A sweep that does not fail sets the first rows that are due, and leaves the others due. -/
theorem sweep_works (ext : Ext) (s : Sweep) (w : World) (positive : 0 ≤ b) (works : x.failure = none) :
    let o : Op := .sql (.notifications (s.query b))
    let rows := (sortOn (fun r => (s.time r).getD 0) (fun r => x.rank r.id)
      (w.dueFor s x.now)).take b.toNatClampNeg
    (swept o (exec ext x o w).1).Perm (rows.map (s.set x.now).set) ∧
      (rows ++ (exec ext x o w).2.dueFor s x.now).Perm (w.dueFor s x.now) := by
  intro o rows
  have picked : Db.Notifications.batch (x.env ext) (s.due x.now) s.time b w.db = .ok rows := by
    have nonneg : ¬ (b < 0 ∨ (0 : Int64) < 0) := by
      rw [not_or]
      exact ⟨Int64.not_lt.2 positive, by decide⟩
    exact if_neg nonneg
  have stored : ∀ r ∈ rows, r ∈ w.db.notifications.rows := fun r mem =>
    (Db.Notifications.mem_batch picked mem).1
  obtain ⟨answer, after⟩ := sweep_picked works picked
  refine ⟨answer, ?_⟩
  rw [after]
  -- what is due afterwards is what was due and is not in the batch
  have left : ({ w with db := (Db.Notifications.updateBatch (x.env ext) rows (s.set x.now)
      w.db).2 } : World).dueFor s x.now =
      (w.dueFor s x.now).filter fun r => !decide (r.id ∈ rows.map (·.id)) :=
    select_set fun _ => Sweep.not_due_set
  have taken : ((w.dueFor s x.now).filter fun r => decide (r.id ∈ rows.map (·.id))).Perm rows := by
    refine (List.Perm.of_eq ?_).trans (perm_of_ids stored (Db.Notifications.nodup_of_batch picked))
    unfold World.dueFor Table.select
    rw [List.filter_filter]
    refine List.filter_congr fun r here => ?_
    by_cases mem : r.id ∈ rows.map (·.id)
    · rw [decide_eq_true mem, Db.Notifications.due_of_mem_ids picked here mem]
      rfl
    · rw [decide_eq_false mem]
      rfl
  rw [left]
  exact (taken.symm.append_right _).trans (List.filter_append_perm _ _)

/-- Sweeps at one time drain what is due, and answer what they take. -/
theorem sweepAll_drains (ext : Ext) (s : Sweep) (w : World) (positive : 0 ≤ b) {xs : List Choice}
    (alike : ∀ x ∈ xs, x.now = now ∧ x.failure = none) :
    ∃ batches, Drain (fun r => (s.time r).getD 0) b.toNatClampNeg (w.dueFor s now) batches
        ((sweepAll ext s b xs w).2.dueFor s now) ∧
      List.Forall₂ (fun rows batch => rows.Perm (batch.map (s.set now).set))
        (sweepAll ext s b xs w).1 batches ∧ batches.length = xs.length := by
  induction xs generalizing w with
  | nil => exact ⟨[], .done _, .nil, rfl⟩
  | cons x xs ih =>
    obtain ⟨same, works⟩ := alike x (.head _)
    obtain ⟨answer, split⟩ := sweep_works ext s w positive works
    rw [same] at answer split
    obtain ⟨batches, drain, answers, length⟩ := ih _ fun y mem => alike y (.tail _ mem)
    exact ⟨_ :: batches, .batch _ split drain, .cons answer answers, congrArg (· + 1) length⟩

theorem le_mul_of_div_up {n size calls : ℕ} (positive : 0 < size)
    (enough : calls = (n + size - 1) / size) : n ≤ calls * size := by
  have whole := Nat.div_add_mod (n + size - 1) size
  have part := Nat.mod_lt (n + size - 1) positive
  rw [← enough, Nat.mul_comm] at whole
  omega

theorem exists_of_forall₂ {α β : Type} {R : α → β → Prop} {l : List α} {l' : List β}
    (same : List.Forall₂ R l l') {a : α} (mem : a ∈ l) : ∃ b ∈ l', R a b := by
  induction same with
  | nil => cases mem
  | cons head _ ih =>
    rcases List.mem_cons.1 mem with rfl | mem
    · exact ⟨_, .head _, head⟩
    · obtain ⟨b, there, related⟩ := ih mem
      exact ⟨b, .tail _ there, related⟩

theorem perm_flatten {f : NotificationRow → NotificationRow}
    {answers batches : List (List NotificationRow)}
    (same : List.Forall₂ (fun rows batch => rows.Perm (batch.map f)) answers batches) :
    answers.flatten.Perm (batches.flatten.map f) := by
  induction same with
  | nil => exact .rfl
  | cons head _ ih =>
    rw [List.flatten_cons, List.flatten_cons, List.map_append]
    exact head.append ih

theorem ordered_answers {answers batches : List (List NotificationRow)}
    (same : List.Forall₂ (fun rows batch => rows.Perm (batch.map (s.set now).set)) answers batches)
    (stored : ∀ batch ∈ batches, ∀ r ∈ batch, w.notification r.id = some r)
    (ordered : batches.Pairwise fun taken later => ∀ a ∈ taken, ∀ a' ∈ later,
      (s.time a).getD 0 ≤ (s.time a').getD 0) :
    answers.Pairwise fun rows rows' => ∀ r ∈ rows, ∀ r' ∈ rows', ∀ a a' t t',
      w.notification r.id = some a → w.notification r'.id = some a' → s.time a = some t →
      s.time a' = some t' → t ≤ t' := by
  have origin : ∀ {rows batch : List NotificationRow} {r a : NotificationRow},
      (∀ r ∈ batch, w.notification r.id = some r) → rows.Perm (batch.map (s.set now).set) →
      r ∈ rows → w.notification r.id = some a → a ∈ batch := by
    intro rows batch r a stored perm mem found
    obtain ⟨r₀, taken, rfl⟩ := List.mem_map.1 (perm.mem_iff.1 mem)
    rw [Sweep.set_id, stored r₀ taken] at found
    cases found
    exact taken
  induction same with
  | nil => exact .nil
  | @cons rows batch answers batches head tail ih =>
    obtain ⟨first, rest⟩ := List.pairwise_cons.1 ordered
    refine List.pairwise_cons.2 ⟨fun rows' later r mem r' mem' a a' t t' found found' due due' => ?_,
      ih (fun batch there => stored batch (.tail _ there)) rest⟩
    obtain ⟨batch', there, perm⟩ := exists_of_forall₂ tail later
    have taken := origin (stored batch (.head _)) head mem found
    have taken' := origin (stored batch' (.tail _ there)) perm mem' found'
    have le := first batch' there a taken a' taken'
    rwa [due, due'] at le

/-- Enough sweeps at one time answer each notification that is due once, those that have been due for
longer no later, and leave none. -/
theorem drained (positive : 1 ≤ b) {xs : List Choice}
    (alike : ∀ x ∈ xs, x.now = now ∧ x.failure = none)
    (enough : xs.length =
      ((w.dueFor s now).length + b.toNatClampNeg - 1) / b.toNatClampNeg) :
    (sweepAll ext s b xs w).1.flatten.Perm ((w.dueFor s now).map (s.set now).set) ∧
      ((sweepAll ext s b xs w).1.Pairwise fun rows rows' => ∀ r ∈ rows, ∀ r' ∈ rows', ∀ a a' t t',
        w.notification r.id = some a → w.notification r'.id = some a' → s.time a = some t →
        s.time a' = some t' → t ≤ t') ∧
      (sweepAll ext s b xs w).2.dueFor s now = [] := by
  have least : (1 : ℤ) ≤ b.toInt := Int64.le_iff_toInt_le.1 positive
  have nonneg : 0 ≤ b := by
    rw [Int64.le_iff_toInt_le, Int64.toInt_zero]
    omega
  have size : 0 < b.toNatClampNeg := by
    unfold Int64.toNatClampNeg
    omega
  obtain ⟨batches, drain, answers, length⟩ := sweepAll_drains ext s w nonneg alike
  have none := drain.emptied (length ▸ le_mul_of_div_up size enough)
  have whole := drain.perm
  rw [none, List.append_nil] at whole
  refine ⟨(perm_flatten answers).trans (whole.map _), ?_, none⟩
  refine ordered_answers answers (fun batch there r mem => stored_self ?_) drain.ordered
  exact (Table.mem_select.1 (whole.mem_iff.1 (List.mem_flatten.2 ⟨batch, there, mem⟩))).1

end

/-- What a sweep answers was due; between two answers of a notification it is snoozed, or resurfaced;
and on a store that nothing else changes, enough sweeps answer each notification that is due once. -/
theorem sweeps_exact {ext : Ext} {w₀ w : World} {es : History} (performs : Performs ext w₀ es w) :
    (∀ e ∈ es, ∀ s b, e.op = .sql (.notifications (Sweep.query b s)) → ∀ r ∈ swept e.op e.ans,
      ∃ r₀, e.before.notification r.id = some r₀ ∧ s.Due e.choice.now r₀) ∧
    (∀ pre e mid e' post s b b', es = pre ++ e :: (mid ++ e' :: post) →
      e.op = .sql (.notifications (Sweep.query b s)) →
      e'.op = .sql (.notifications (Sweep.query b' s)) →
      ∀ r ∈ swept e.op e.ans, ∀ r' ∈ swept e'.op e'.ans, r.id = r'.id →
        ∃ d ∈ mid, s.Revives r.id d) ∧
    ∀ s b now xs, 1 ≤ b → (∀ x ∈ xs, x.now = now ∧ x.failure = none) →
      xs.length = ((w.dueFor s now).length + b.toNatClampNeg - 1) / b.toNatClampNeg →
      (sweepAll ext s b xs w).1.flatten.Perm ((w.dueFor s now).map (s.set now).set) ∧
        ((sweepAll ext s b xs w).1.Pairwise fun rows rows' => ∀ r ∈ rows, ∀ r' ∈ rows', ∀ a a' t t',
          w.notification r.id = some a → w.notification r'.id = some a' → s.time a = some t →
          s.time a' = some t' → t ≤ t') ∧
        (sweepAll ext s b xs w).2.dueFor s now = [] := by
  refine ⟨?_, ?_, fun s b now xs positive alike enough => drained positive alike enough⟩
  · intro e he s b op r mem
    obtain ⟨i, c, o, x, v, rfl⟩ := performs.event he
    obtain rfl : o = _ := op
    obtain ⟨r₀, before, due, _⟩ := swept_due mem
    exact ⟨r₀, before, Sweep.due_iff.1 due⟩
  · rintro pre e mid e' post s b b' rfl first second r mem r' mem' same
    exact revived_between performs first second mem mem' same

namespace Sample

/-- Two notifications past their TTL. -/
def pastTtl : World :=
  world
    { rows := [{ notification "unread" with expiresAt := some 2 },
        { notification "unseen" with id := 5, idempotencyKey := none, expiresAt := some 1 }]
      unique := by decide
      checked := by decide } []

end Sample

theorem sweeps_exact_pastTtl :
    (∃ e ∈ Sample.woken.2, ∃ r ∈ swept e.op e.ans, ∃ r₀, e.before.notification r.id = some r₀ ∧
      Sweep.wakeUp.Due e.choice.now r₀) ∧
    (sweepAll Sample.ext .expiry 1 [Sample.choice, Sample.choice] Sample.pastTtl).2.dueFor
      .expiry 7 = [] := by
  have woken := sweeps_exact (performs_of_run (Sample.run_played rfl :
    (system Sample.ext).Run (Pool.idle _) Sample.woken.2 Sample.woken.1))
  obtain ⟨e, he, op, r, mem⟩ : ∃ e ∈ Sample.woken.2,
      e.op = .sql (.notifications (Sweep.query batchSize .wakeUp)) ∧ ∃ r, r ∈ swept e.op e.ans :=
    ⟨_, .head _, rfl, _, .head _⟩
  have still := sweeps_exact (Performs.nil : Performs Sample.ext Sample.pastTtl [] _)
  have same : ∀ x ∈ [Sample.choice, Sample.choice], x.now = 7 ∧ x.failure = none := by
    simp [Sample.choice]
  obtain ⟨-, -, none⟩ := still.2.2 .expiry 1 7 [Sample.choice, Sample.choice] (by decide) same rfl
  exact ⟨⟨e, he, r, mem, woken.1 e he .wakeUp batchSize op r mem⟩, none⟩

end Estafeta
