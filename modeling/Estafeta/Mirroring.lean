import Estafeta.Escalation
import Estafeta.Loading
import Estafeta.Streams

/-!
# The events of the scheduler and its writes

A pass of the scheduler should publish, for each notification whose state it changes, one event with
the states before and after (`Mirrors`). The pass that wakes snoozed notifications always does. The
pass that expires notifications leaves the state before out of its events, and the pass that
escalates publishes nothing; so they do exactly if they change no state (`mirrors_iff`).
-/

open Relational Atomic

namespace Estafeta

/-! ## Changes of state -/

/-- The notifications whose state differs between two worlds, as they were and as they are. -/
def World.moved (w w' : World) : List (NotificationRow × NotificationRow) :=
  w.db.notifications.rows.filterMap fun r =>
    (w'.notification r.id).bind fun r' => if r'.state = r.state then none else some (r, r')

/-- What an operation publishes. -/
def Op.posts : Op → Option (String × RealtimeEvent)
  | .publish subject event => some (subject, event)
  | _ => none

/-- What a thread has published. -/
def publishedBy (es : History) (i : ℕ) : List (String × RealtimeEvent) :=
  (doneBy es i).filterMap fun d => d.1.posts

/-- The changes of state that a thread has made, each with the notification before it and after. -/
def movedBy (es : History) (i : ℕ) : List (NotificationRow × NotificationRow) :=
  (es.filter fun e => e.tid = i).flatMap fun e => e.before.moved e.after

/-- The event that reports a change of state, and where it goes. -/
def reportOf (change : NotificationRow × NotificationRow) : String × RealtimeEvent :=
  (s!"rt.user.{change.2.recipientUserId}.state",
    stateChangeEvent change.2 (some change.1.state) (some change.2.state))

/-- What a thread has published are, one for one, the reports of the changes of state that it has
made; and a client is told both states. -/
structure Mirrors (es : History) (i : ℕ) : Prop where
  one_for_one : (publishedBy es i).Perm ((movedBy es i).map reportOf)
  specified : ∀ post ∈ publishedBy es i,
    StreamingService.stateToProto post.2.oldState ≠ 0 ∧
      StreamingService.stateToProto post.2.newState ≠ 0

section

variable {w w' : World}

theorem stored_self {r : NotificationRow} (stored : r ∈ w.db.notifications.rows) :
    w.notification r.id = some r :=
  Table.lookup_of_mem stored (.head _)

theorem mem_moved {r r' : NotificationRow} : (r, r') ∈ w.moved w' ↔
    r ∈ w.db.notifications.rows ∧ w'.notification r.id = some r' ∧ r'.state ≠ r.state := by
  unfold World.moved
  rw [List.mem_filterMap]
  constructor
  · rintro ⟨s, stored, h⟩
    obtain ⟨s', after, h⟩ := Option.bind_eq_some_iff.1 h
    split at h
    · cases h
    next other =>
      cases h
      exact ⟨stored, after, other⟩
  · rintro ⟨stored, after, other⟩
    refine ⟨r, stored, ?_⟩
    rw [after, Option.bind_some, if_neg other]

theorem moved_eq_nil : w.moved w' = [] ↔
    ∀ r ∈ w.db.notifications.rows, ∀ r', w'.notification r.id = some r' → r'.state = r.state := by
  rw [List.eq_nil_iff_forall_not_mem]
  constructor
  · intro none r stored r' after
    by_contra other
    exact none (r, r') (mem_moved.2 ⟨stored, after, other⟩)
  · rintro same ⟨r, r'⟩ mem
    obtain ⟨stored, after, other⟩ := mem_moved.1 mem
    exact other (same r stored r' after)

theorem moved_of_kept (kept : w'.db.notifications = w.db.notifications) : w.moved w' = [] := by
  refine moved_eq_nil.2 fun r stored r' after => ?_
  unfold World.notification at after
  rw [kept] at after
  cases (stored_self stored).symm.trans after
  rfl

theorem moved_of_update {p : NotificationRow → Bool} {f : Assign NotificationRow}
    (after : w'.db.notifications = w.db.notifications.update p f)
    (moves : ∀ r ∈ w.db.notifications.rows, p r = true → (f.set r).state ≠ r.state) :
    w.moved w' = (w.db.notifications.rows.filter p).map fun r => (r, f.set r) := by
  have made : ∀ r ∈ w.db.notifications.rows,
      ((w'.notification r.id).bind fun r' => if r'.state = r.state then none else some (r, r')) =
        (Option.guard (p ·) r).map fun r => (r, f.set r) := by
    intro r stored
    unfold World.notification Option.guard
    rw [after, Table.lookup_update, show w.db.notifications.lookup _ = _ from stored_self stored,
      Option.map_some, Option.bind_some]
    by_cases set : p r = true
    · rw [if_pos set, if_pos set, if_neg (moves r stored set)]
      rfl
    · rw [if_neg set, if_neg set, if_pos rfl]
      rfl
  unfold World.moved
  rw [List.filterMap_congr made, ← List.map_filterMap, List.filterMap_eq_filter]

end

/-! ## What a pass does -/

/-- The notifications that a statement has changed and answered. -/
def swept : (o : Op) → o.Ans → List NotificationRow
  | .sql (.notifications (.wakeSnoozed _)), .ok rows => rows
  | .sql (.notifications (.expireNotifications _)), .ok rows => rows
  | _, _ => []

/-- The operations that publish an event for each of some notifications. -/
def posting (event : NotificationRow → RealtimeEvent) (rows : List NotificationRow) : List Op :=
  rows.map fun r => .publish s!"rt.user.{r.recipientUserId}.state" (event r)

/-- A pass has run its statement, and then published an event for each notification answered. -/
def Sweeps (q : Db.Notifications.Query) (event : NotificationRow → RealtimeEvent) (h : Record) :
    Prop :=
  ∃ a h', h = ⟨.sql (.notifications q), a⟩ :: h' ∧
    h'.map Sigma.fst = posting event (swept (.sql (.notifications q)) a)

/-- The event of a notification that wakes. -/
def wokenEvent (r : NotificationRow) : RealtimeEvent :=
  stateChangeEvent r (some "snoozed") (some "unread")

/-- The event of a notification that expires. -/
def expiredEvent (r : NotificationRow) : RealtimeEvent := stateChangeEvent r none (some "expired")

/-- What a pass has done when it ends. -/
def Call.Passed : Call → Record → Prop
  | .snoozeWake, h => Sweeps (.wakeSnoozed batchSize) wokenEvent h
  | .ttlExpiry, h => Sweeps (.expireNotifications batchSize) expiredEvent h
  | _, _ => True

theorem announce_records {event : NotificationRow → RealtimeEvent} {E : Record → String → Prop}
    {Q : Record → Unit → Prop} (rows : List NotificationRow) (h : Record)
    (returns : ∀ h', h'.map Sigma.fst = posting event rows → Q (h ++ h') ()) :
    (forM rows fun r => publishStateChange r.recipientUserId (event r)).Obeys
      (.recording fun _ _ => True) E Q h := by
  refine Prog.obeys_forM
    (fun todo s => ∃ h', s = h ++ h' ∧ h'.map Sigma.fst ++ posting event todo = posting event rows)
    _ _ ?_ ?_ ⟨[], (List.append_nil h).symm, rfl⟩
  · rintro r todo _ ⟨h', rfl, same⟩
    refine ⟨trivial, fun a => ⟨h' ++ [⟨_, a⟩], List.append_assoc .., ?_⟩⟩
    rw [List.map_append, List.append_assoc]
    exact same
  · rintro _ ⟨h', rfl, same⟩
    exact returns h' ((List.append_nil _).symm.trans same)

theorem body_passed (ext : Ext) (c : Call) :
    ((system ext).body c).Obeys (.recording fun _ _ => True) (fun h _ => c.Passed h)
      (fun h _ => c.Passed h) [] := by
  cases c with
  | snoozeWake =>
    simp only [system, Call.body, Prog.obeys_bind, Prog.obeys_mapErr]
    unfold runSnoozeWake
    rw [Prog.obeys_bind]
    refine (obeys_run ext _).2 ⟨trivial, fun e => ⟨.error e, [], rfl, rfl⟩, fun woken => ?_⟩
    exact announce_records woken _ fun h' same => ⟨.ok woken, h', rfl, same⟩
  | ttlExpiry =>
    simp only [system, Call.body, Prog.obeys_bind, Prog.obeys_mapErr]
    unfold runTtlExpiry
    rw [Prog.obeys_bind]
    refine (obeys_run ext _).2 ⟨trivial, fun e => ⟨.error e, [], rfl, rfl⟩, fun expired => ?_⟩
    exact announce_records expired _ fun h' same => ⟨.ok expired, h', rfl, same⟩
  | _ => exact Prog.obeys_of_forall (fun _ _ => trivial) _ _

/-! ## What the statements of a pass change -/

section

variable {ext : Ext} {x : Choice} {w w' : World}

/-- The UPDATE of a batch answers the notifications that it changes, as they are then. -/
theorem updateBatch_moved {env : Env} {due : NotificationRow → Bool}
    {time : NotificationRow → Option Time} {size : Int64} {rows : List NotificationRow}
    {f : Assign NotificationRow} (picked : Db.Notifications.batch env due time size w.db = .ok rows)
    (moves : ∀ r, due r = true → (f.set r).state ≠ r.state) (same : ∀ r, (f.set r).id = r.id)
    (after : w'.db = (Db.Notifications.updateBatch env rows f w.db).2) :
    (Db.Notifications.updateBatch env rows f w.db).1.Perm ((w.moved w').map Prod.snd) ∧
      (∀ c ∈ w.moved w', due c.1 = true ∧ c.2 = f.set c.1) ∧
      ((Db.Notifications.updateBatch env rows f w.db).1 = [] → rows = []) := by
  have due_of_mem : ∀ r ∈ w.db.notifications.rows, decide (r.id ∈ rows.map (·.id)) = true →
      due r = true := fun r stored mem =>
    Db.Notifications.due_of_mem_ids picked stored (of_decide_eq_true mem)
  have table : w'.db.notifications =
      (Db.Notifications.updateBatch env rows f w.db).2.notifications := congrArg _ after
  have moved := moved_of_update table fun r stored mem => moves r (due_of_mem r stored mem)
  rw [moved]
  refine ⟨?_, ?_, ?_⟩
  · refine (sortOn_perm ..).trans (.of_eq ?_)
    rw [Table.select_update fun r => by rw [same], List.map_map]
    refine List.map_congr_left fun r mem => ?_
    rw [if_pos (List.mem_filter.1 mem).2]
    rfl
  · intro c mem
    obtain ⟨r, listed, rfl⟩ := List.mem_map.1 mem
    obtain ⟨stored, picked⟩ := List.mem_filter.1 listed
    exact ⟨due_of_mem r stored picked, rfl⟩
  · intro none
    refine List.eq_nil_iff_forall_not_mem.2 fun r mem => ?_
    have stored := (Db.Notifications.mem_batch picked mem).1
    have there : f.set r ∈ (Db.Notifications.updateBatch env rows f w.db).1 := by
      refine mem_sortOn.2 ?_
      rw [Table.select_update fun r => by rw [same]]
      have picked : decide (r.id ∈ rows.map (·.id)) = true :=
        decide_eq_true (List.mem_map_of_mem mem)
      exact List.mem_map.2 ⟨r, Table.mem_select.2 ⟨stored, picked⟩, if_pos picked⟩
    rw [none] at there
    cases there

theorem snoozed_of_over {now : Time} {r : NotificationRow}
    (late : Db.Notifications.snoozeOver now r = true) : r.state = "snoozed" :=
  of_decide_eq_true (Bool.and_eq_true_iff.1 late).1

/-- The statement that wakes notifications answers those that it wakes. -/
theorem woken_moved (ext : Ext) (x : Choice) (size : Int64) (w : World) :
    let o : Op := .sql (.notifications (.wakeSnoozed size))
    (swept o (exec ext x o w).1).Perm ((w.moved (exec ext x o w).2).map Prod.snd) ∧
      ∀ c ∈ w.moved (exec ext x o w).2, c.1.state = "snoozed" ∧ c.2.state = "unread" := by
  intro o
  rcases execSql_cases ext x (.notifications (.wakeSnoozed size)) w with
    ⟨e, failed⟩ | ⟨a, db, ok, answered⟩
  · show (swept o (execSql ext x _ w).1).Perm ((w.moved (execSql ext x _ w).2).map _) ∧
      ∀ c ∈ w.moved (execSql ext x _ w).2, _
    rw [failed, moved_of_kept (w := w) rfl]
    exact ⟨.nil, fun c mem => nomatch mem⟩
  · show (swept o (execSql ext x _ w).1).Perm ((w.moved (execSql ext x _ w).2).map _) ∧
      ∀ c ∈ w.moved (execSql ext x _ w).2, _
    rw [answered]
    obtain ⟨rows, picked, same⟩ := map_eq_ok.1 ok
    have moves : ∀ r, Db.Notifications.snoozeOver x.now r = true →
        ((Db.Notifications.wake x.now).set r).state ≠ r.state := by
      intro r late
      rw [snoozed_of_over late]
      exact (by decide : "unread" ≠ "snoozed")
    have after : ({ w with db := db } : World).db = _ := (congrArg Prod.snd same).symm
    obtain ⟨perm, moved, -⟩ := updateBatch_moved picked moves (fun _ => rfl) after
    rw [show a = _ from (congrArg Prod.fst same).symm]
    refine ⟨perm, fun c mem => ?_⟩
    obtain ⟨late, set⟩ := moved c mem
    exact ⟨snoozed_of_over late, congrArg _ set⟩

theorem not_expired_of_over {now : Time} {r : NotificationRow}
    (late : Db.Notifications.ttlOver now r = true) : r.state ≠ "expired" := by
  have live := of_decide_eq_true (Bool.and_eq_true_iff.1 late).2
  intro expired
  rw [expired] at live
  exact absurd live (by decide)

theorem batch_expiry (env : Env) (db : Db) : ∃ rows,
    Db.Notifications.batch env (Db.Notifications.ttlOver env.now) (·.expiresAt) batchSize db =
        .ok rows ∧
      (rows = [] → ∀ r ∈ db.notifications.rows, Db.Notifications.ttlOver env.now r = false) := by
  refine ⟨_, rfl, fun none r stored => ?_⟩
  by_contra late
  have due : r ∈ db.notifications.select (Db.Notifications.ttlOver env.now) :=
    Table.mem_select.2 ⟨stored, (Bool.not_eq_false _).mp late⟩
  have listed : r ∈ sortOn (fun r : NotificationRow => r.expiresAt.getD 0)
    (fun r => env.rank r.id) (db.notifications.select (Db.Notifications.ttlOver env.now)) :=
    mem_sortOn.2 due
  have empty : sortOn (fun r : NotificationRow => r.expiresAt.getD 0) (fun r => env.rank r.id)
      (db.notifications.select (Db.Notifications.ttlOver env.now)) = [] :=
    (List.take_eq_nil_iff.1 none).resolve_left (by decide)
  rw [empty] at listed
  cases listed

/-- The statement that expires notifications answers those that it expires, and there are none only
if it fails or finds none that is past its TTL. -/
theorem expired_moved (ext : Ext) (x : Choice) (w : World) :
    let o : Op := .sql (.notifications (.expireNotifications batchSize))
    (swept o (exec ext x o w).1).Perm ((w.moved (exec ext x o w).2).map Prod.snd) ∧
      (swept o (exec ext x o w).1 = [] ↔
        (x.failure = none → ∀ r ∈ w.db.notifications.rows,
          Db.Notifications.ttlOver x.now r = false)) := by
  intro o
  show (swept o (execSql ext x _ w).1).Perm ((w.moved (execSql ext x _ w).2).map _) ∧
    (swept o (execSql ext x _ w).1 = [] ↔ _)
  cases failure : x.failure with
  | some e =>
    rw [execSql_of_failure failure, moved_of_kept (w := w) rfl]
    exact ⟨.nil, fun _ works => (nomatch works), fun _ => rfl⟩
  | none =>
    obtain ⟨rows, picked, least⟩ := batch_expiry (x.env ext) w.db
    have ok : (Sql.notifications (.expireNotifications batchSize)).exec (x.env ext) w.db = .ok
        (Db.Notifications.updateBatch (x.env ext) rows (Db.Notifications.expire x.now) w.db) := by
      show Db.Notifications.expireNotifications (x.env ext) batchSize w.db = _
      unfold Db.Notifications.expireNotifications
      rw [picked]
      rfl
    rw [execSql_of_ok failure rfl ok]
    have moves : ∀ r, Db.Notifications.ttlOver x.now r = true →
        ((Db.Notifications.expire x.now).set r).state ≠ r.state :=
      fun r late => (not_expired_of_over late).symm
    have after : ({ w with db := (Db.Notifications.updateBatch (x.env ext) rows
      (Db.Notifications.expire x.now) w.db).2 } : World).db = _ := rfl
    obtain ⟨perm, moved, all⟩ := updateBatch_moved picked moves (fun _ => rfl) after
    refine ⟨perm, fun none _ => least (all none), fun none => ?_⟩
    refine List.eq_nil_iff_forall_not_mem.2 fun r mem => ?_
    obtain ⟨c, moved', -⟩ := List.mem_map.1 (perm.mem_iff.1 mem)
    obtain ⟨stored, -, -⟩ := mem_moved.1 moved'
    exact Bool.eq_false_iff.1 (none rfl _ stored) (moved c moved').1

/-- What `resurfaceNotification` does to the table if it does not fail. -/
theorem resurface_exec {ext : Ext} {x : Choice} {w : World} (id : Uuid) (works : x.failure = none) :
    (exec ext x (.sql (.notifications (.resurfaceNotification id))) w).2.db.notifications =
      w.db.notifications.update (fun r => r.id = id)
        (Db.Notifications.resurfaceNotification x.now id).set := by
  show (execSql ..).2.db.notifications = _
  rw [execSql_of_ok works rfl rfl]
  rfl

end

/-- A statement whose changes the pass does not report changes no state: it fails, or finds no
notification past its TTL, or the one that it resurfaces is unseen. -/
def Harmless (x : Choice) (w : World) : Op → Prop
  | .sql (.notifications (.expireNotifications _)) => x.failure = none →
    ∀ r ∈ w.db.notifications.rows, Db.Notifications.ttlOver x.now r = false
  | .sql (.notifications (.resurfaceNotification id)) => x.failure = none →
    ∀ r, w.notification id = some r → r.state = "unseen"
  | _ => True

theorem works_of_ran {ext : Ext} {x : Choice} {o : Op} {w : World} {q : Db.Notifications.Query}
    (hq : ran o (exec ext x o w).1 = some q) : x.failure = none := by
  obtain rfl := op_of_ran hq
  cases failure : x.failure with
  | none => rfl
  | some e =>
    have failed : (exec ext x (.sql (.notifications q)) w).1 = .error e := by
      show (execSql ..).1 = _
      rw [execSql_of_failure failure]
    rw [failed] at hq
    cases hq

/-- An escalation pass neither expires notifications nor publishes. -/
theorem escalation_permitted {s : Phase} {o : Op} (permitted : escalationMonitor.may s o) :
    (∀ size, o ≠ .sql (.notifications (.expireNotifications size))) ∧ o.posts = none := by
  simp only [escalationMonitor] at permitted
  split at permitted
  next => exact ⟨by simp, rfl⟩
  next => exact ⟨by simp, rfl⟩
  next => exact ⟨by simp, rfl⟩
  next => exact ⟨by simp, rfl⟩
  next r type todo q =>
    refine ⟨fun size same => ?_, rfl⟩
    cases same
    rcases escalationQuery_cases (escalationAction type) r.id with action | action
    · cases permitted.trans action
    · cases permitted.trans action
  next => exact permitted.elim

/-- An operation of an escalation pass changes a state only by resurfacing. -/
theorem escalated_moved (ext : Ext) (x : Choice) (w : World) {s : Phase} {o : Op}
    (permitted : escalationMonitor.may s o) :
    w.moved (exec ext x o w).2 = [] ↔ Harmless x w o := by
  have step := escalation_step permitted (exec ext x o w).1
  have unseen : ∀ id, o = .sql (.notifications (.resurfaceNotification id)) → x.failure = none →
      ∀ r, w.notification id = some r →
        ∃ r', (exec ext x o w).2.notification id = some r' ∧ r'.state = "unseen" := by
    rintro id rfl works r stored
    refine ⟨(Db.Notifications.resurfaceNotification x.now id).set.set r, ?_, rfl⟩
    unfold World.notification at stored ⊢
    rw [resurface_exec id works, Table.lookup_update, stored, Option.map_some]
    exact congrArg some (if_pos (decide_eq_true (World.id_of stored)))
  rw [moved_eq_nil]
  constructor
  · intro same
    unfold Harmless
    split
    next size =>
      exact absurd rfl ((escalation_permitted permitted).1 size)
    next id =>
      intro works r stored
      obtain ⟨r', after, state⟩ := unseen id rfl works r stored
      obtain rfl := World.id_of stored
      rw [← same r (Table.mem_of_lookup stored) r' after]
      exact state
    next => trivial
  · intro harmless r stored r' after
    rcases notification_cases ext x o w r.id with
      ⟨r₁, stored₁, r₂, after₂, same | ⟨q, hq, rewritten⟩⟩ | ⟨absent, _⟩
    · cases stored₁.symm.trans (stored_self stored)
      cases after.symm.trans after₂
      rw [same]
    · cases stored₁.symm.trans (stored_self stored)
      cases after.symm.trans after₂
      rcases step.rewrite_state hq r with same | ⟨rfl, _⟩
      · rw [rewritten]
        exact same
      · -- the notification is resurfaced, and was unseen before
        have works := works_of_ran hq
        obtain rfl := op_of_ran hq
        obtain ⟨r₃, after₃, state⟩ := unseen r.id rfl works r stored₁
        cases after.symm.trans after₃
        rw [state]
        exact (harmless works r stored₁).symm
    · cases absent.symm.trans (stored_self stored)

/-! ## Passes -/

section

variable {ext : Ext} {w₀ : World} {es : History} {p : State} {i : ℕ} {c : Call}
  {k : Prog Op Op.Ans Failure Outcome}

theorem movedBy_append (es es' : History) (i : ℕ) :
    movedBy (es ++ es') i = movedBy es i ++ movedBy es' i := by
  unfold movedBy
  rw [List.filter_append, List.flatMap_append]

theorem movedBy_eq_nil : movedBy es i = [] ↔
    ∀ e ∈ es, e.tid = i → e.before.moved e.after = [] := by
  unfold movedBy
  rw [List.flatMap_eq_nil_iff]
  constructor
  · intro none e he own
    exact none e (List.mem_filter.2 ⟨he, decide_eq_true own⟩)
  · intro none e he
    obtain ⟨he, own⟩ := List.mem_filter.1 he
    exact none e he (of_decide_eq_true own)

theorem moved_of_publish (run : (system ext).Run (Pool.idle w₀) es p)
    {e : Event Call Op Op.Ans World Choice} (he : e ∈ es) {subject : String} {event : RealtimeEvent}
    (op : e.op = .publish subject event) : e.before.moved e.after = [] := by
  obtain ⟨_, _, o, x, w, rfl⟩ := performed run e he
  obtain rfl : o = .publish subject event := op
  exact moved_of_kept (congrArg Db.notifications (exec_db_of_not_sql fun q same => by cases same))

/-- A pass that has ended has run one statement, and the rest of what it has done is the events of
what the statement answered. -/
theorem sweep_of_passed (run : (system ext).Run (Pool.idle w₀) es p) {q : Db.Notifications.Query}
    {event : NotificationRow → RealtimeEvent} (passed : Sweeps q event (doneBy es i)) :
    ∃ e ∈ es, e.tid = i ∧ e.op = .sql (.notifications q) ∧
      movedBy es i = e.before.moved e.after ∧
      publishedBy es i =
        (swept e.op e.ans).map (fun r => (s!"rt.user.{r.recipientUserId}.state", event r)) ∧
      ∀ e' ∈ es, e'.tid = i → e' = e ∨ ∃ subject event, e'.op = .publish subject event := by
  obtain ⟨a, h', same, posts⟩ := passed
  obtain ⟨pre, e, post, rfl, own, done, first, rest⟩ := doneBy_split (h := []) same
  have none : ∀ e' ∈ pre, e'.tid ≠ i := by
    intro e' he own'
    have mem : e'.done ∈ doneBy pre i := mem_doneBy.2 ⟨e', he, own', rfl⟩
    rw [first] at mem
    cases mem
  have publishes : ∀ e' ∈ post, e'.tid = i → ∃ subject event, e'.op = .publish subject event := by
    intro e' he own'
    have mem : e'.done ∈ h' := rest ▸ mem_doneBy.2 ⟨e', he, own', rfl⟩
    have listed : e'.op ∈ posting event (swept (.sql (.notifications q)) a) :=
      posts ▸ List.mem_map_of_mem mem
    obtain ⟨r, _, op⟩ := List.mem_map.1 listed
    exact ⟨_, _, op.symm⟩
  refine ⟨e, by simp, own, congrArg Sigma.fst done, ?_, ?_, ?_⟩
  · have before : movedBy pre i = [] := movedBy_eq_nil.2 fun e' he own' => absurd own' (none e' he)
    have after : movedBy post i = [] := movedBy_eq_nil.2 fun e' he own' => by
      obtain ⟨_, _, op⟩ := publishes e' he own'
      exact moved_of_publish run (by simp [he]) op
    have now : movedBy [e] i = e.before.moved e.after := by
      simp [movedBy, own]
    rw [movedBy_append, before, List.nil_append, show e :: post = [e] ++ post from rfl,
      movedBy_append, now, after, List.append_nil]
  · have answer : swept e.op e.ans = swept (.sql (.notifications q)) a :=
      congrArg (fun d : Σ o, Op.Ans o => swept d.1 d.2) done
    have only : (h'.map Sigma.fst).filterMap Op.posts = h'.filterMap fun d => d.1.posts :=
      List.filterMap_map
    unfold publishedBy
    rw [same, List.filterMap_cons_none rfl, ← only, posts, answer]
    unfold posting
    rw [List.filterMap_map]
    exact congrFun List.filterMap_eq_map _
  · intro e' he own'
    rcases List.mem_append.1 he with he | he
    · exact absurd own' (none e' he)
    · rcases List.mem_cons.1 he with rfl | he
      · exact .inl rfl
      · exact .inr (publishes e' he own')

theorem stateToProto_ne_zero (s : NotificationState) :
    StreamingService.stateToProto (some s.asDbStr) ≠ 0 := by
  unfold StreamingService.stateToProto
  rw [Option.getD_some, NotificationState.fromDbStr_asDbStr]
  cases s <;> decide

/-- The pass that wakes snoozed notifications reports what it changes. -/
theorem snoozeWake_mirrors (run : (system ext).Run (Pool.idle w₀) es p)
    (passed : Call.snoozeWake.Passed (doneBy es i)) : Mirrors es i := by
  obtain ⟨e, he, own, op, moved, posts, -⟩ := sweep_of_passed run passed
  obtain ⟨perm, states⟩ : (swept e.op e.ans).Perm ((e.before.moved e.after).map Prod.snd) ∧
      ∀ c ∈ e.before.moved e.after, c.1.state = "snoozed" ∧ c.2.state = "unread" := by
    obtain ⟨_, _, o, x, w, rfl⟩ := performed run e he
    obtain rfl : o = _ := op
    exact woken_moved ext x batchSize w
  have reports : (e.before.moved e.after).map reportOf =
      ((e.before.moved e.after).map Prod.snd).map fun r =>
        (s!"rt.user.{r.recipientUserId}.state", wokenEvent r) := by
    rw [List.map_map]
    refine List.map_congr_left fun c mem => ?_
    obtain ⟨snoozed, unread⟩ := states c mem
    show (_, stateChangeEvent _ _ _) = (_, stateChangeEvent _ _ _)
    rw [snoozed, unread]
  constructor
  · rw [posts, moved]
    exact (perm.map _).trans (.of_eq reports.symm)
  · intro post mem
    rw [posts] at mem
    obtain ⟨r, _, rfl⟩ := List.mem_map.1 mem
    exact ⟨stateToProto_ne_zero .snoozed, stateToProto_ne_zero .unread⟩

/-- The pass that expires notifications reports what it changes exactly if it changes nothing. -/
theorem ttlExpiry_mirrors (run : (system ext).Run (Pool.idle w₀) es p)
    (passed : Call.ttlExpiry.Passed (doneBy es i)) :
    Mirrors es i ↔ ∀ e ∈ es, e.tid = i → Harmless e.choice e.before e.op := by
  obtain ⟨e, he, own, op, moved, posts, others⟩ := sweep_of_passed run passed
  have alone : (∀ e ∈ es, e.tid = i → Harmless e.choice e.before e.op) ↔
      Harmless e.choice e.before e.op := by
    constructor
    · exact fun all => all e he own
    · intro harmless e' he' own'
      rcases others e' he' own' with rfl | ⟨_, _, op'⟩
      · exact harmless
      · rw [op']
        trivial
  rw [alone]
  obtain ⟨perm, harmless⟩ : (swept e.op e.ans).Perm ((e.before.moved e.after).map Prod.snd) ∧
      (swept e.op e.ans = [] ↔ Harmless e.choice e.before e.op) := by
    obtain ⟨_, _, o, x, w, rfl⟩ := performed run e he
    obtain rfl : o = _ := op
    exact expired_moved ext x w
  refine Iff.trans ?_ harmless
  constructor
  · intro mirrors
    refine List.eq_nil_iff_forall_not_mem.2 fun r mem => ?_
    have listed := List.mem_map_of_mem (f := fun r : NotificationRow =>
      (s!"rt.user.{r.recipientUserId}.state", expiredEvent r)) mem
    have told := mirrors.specified _ (posts ▸ listed)
    exact told.1 rfl
  · intro none
    have unmoved : e.before.moved e.after = [] := by
      rw [none] at perm
      exact List.map_eq_nil_iff.1 perm.nil_eq.symm
    have silent : publishedBy es i = [] := by
      rw [posts, none]
      rfl
    constructor
    · rw [silent, moved, unmoved]
      exact .nil
    · rw [silent]
      exact fun _ mem => nomatch mem

/-- A pass that escalates publishes nothing, and each of its operations changes a state only by
resurfacing. -/
theorem moved_of_escalation (run : (system ext).Run (Pool.idle w₀) es p)
    {e : Event Call Op Op.Ans World Choice} (he : e ∈ es) (call : e.call = .escalation) :
    e.op.posts = none ∧
      (e.before.moved e.after = [] ↔ Harmless e.choice e.before e.op) := by
  obtain ⟨g, watched, _⟩ := phased run
  obtain ⟨_, c, s, o, x, w, rfl, permitted⟩ := watched.permitted e he
  obtain rfl : c = .escalation := call
  refine ⟨?_, escalated_moved ext x w permitted⟩
  exact (escalation_permitted permitted).2

/-- The pass that escalates reports what it changes exactly if it changes nothing. -/
theorem escalation_mirrors (run : (system ext).Run (Pool.idle w₀) es p)
    (thread : p.threads i = some (.escalation, k)) :
    Mirrors es i ↔ ∀ e ∈ es, e.tid = i → Harmless e.choice e.before e.op := by
  have passes : ∀ e ∈ es, e.tid = i → e.op.posts = none ∧
      (e.before.moved e.after = [] ↔ Harmless e.choice e.before e.op) :=
    fun e he own => moved_of_escalation run he (call_of_thread run thread he own)
  have silent : publishedBy es i = [] := by
    refine List.filterMap_eq_nil_iff.2 fun d mem => ?_
    obtain ⟨e, he, own, rfl⟩ := mem_doneBy.1 mem
    exact (passes e he own).1
  constructor
  · intro mirrors e he own
    have nothing := mirrors.one_for_one
    rw [silent] at nothing
    have unmoved := movedBy_eq_nil.1 (List.map_eq_nil_iff.1 nothing.nil_eq.symm)
    exact (passes e he own).2.1 (unmoved e he own)
  · intro harmless
    have unmoved : movedBy es i = [] :=
      movedBy_eq_nil.2 fun e he own => (passes e he own).2.2 (harmless e he own)
    constructor
    · rw [silent, unmoved]
      exact .nil
    · rw [silent]
      exact fun _ mem => nomatch mem

/-- A pass of the scheduler that has ended has published one event for each change of state that it
has made, with both states, if and only if no statement that expires or resurfaces has changed a
state. -/
theorem mirrors_iff (run : (system ext).Run (Pool.idle w₀) es p)
    (thread : p.threads i = some (c, k)) (done : k.Done)
    (loop : c = .snoozeWake ∨ c = .ttlExpiry ∨ c = .escalation) :
    Mirrors es i ↔ ∀ e ∈ es, e.tid = i → Harmless e.choice e.before e.op := by
  have passed : c.Passed (doneBy es i) := by
    have ended := (run.recorded (body_passed ext)).2.2 i c k thread
    cases k with
    | ret a => exact ended
    | fail e => exact ended
    | call o k => exact done.elim
  rcases loop with rfl | rfl | rfl
  · refine iff_of_true (snoozeWake_mirrors run passed) fun e he own => ?_
    obtain ⟨e', _, _, op, _, _, others⟩ := sweep_of_passed run passed
    rcases others e he own with rfl | ⟨_, _, op⟩
    · rw [op]
      trivial
    · rw [op]
      trivial
  · exact ttlExpiry_mirrors run passed
  · exact escalation_mirrors run thread

end

namespace Sample

/-- A notification that wakes at time 1 is woken. -/
def woken : State × History :=
  played (world (.single { notification "snoozed" with snoozedUntil := some 1 } rfl) [])
    (.start 0 .snoozeWake :: List.replicate 2 (.step 0 choice))

/-- A notification that has been seen is resurfaced. -/
def resurfaced : State × History :=
  played (world (.single (notification "unread") check_unread) [])
    (.start 0 .escalation :: List.replicate 4 (.step 0 choice))

end Sample

theorem mirrors_iff_woken : Mirrors Sample.woken.2 0 ↔
    ∀ e ∈ Sample.woken.2, e.tid = 0 → Harmless e.choice e.before e.op :=
  mirrors_iff (k := .ret none) (Sample.run_played rfl) rfl trivial (.inl rfl)

/-- Nothing is published of a notification that is resurfaced. -/
theorem not_mirrors : ¬ ∀ (ext : Ext) (w₀ : World) (es : History) (p : State) (i : ℕ) (c : Call)
    (k : Prog Op Op.Ans Failure Outcome), (system ext).Run (Pool.idle w₀) es p →
      p.threads i = some (c, k) → k.Done → (c = .snoozeWake ∨ c = .ttlExpiry ∨ c = .escalation) →
        Mirrors es i := by
  intro mirrors
  have mirrored : Mirrors Sample.resurfaced.2 0 :=
    mirrors _ _ _ _ 0 .escalation (.ret none) (Sample.run_played rfl) rfl trivial (.inr (.inr rfl))
  have counts : 0 = 1 := mirrored.one_for_one.length_eq
  cases counts

end Estafeta
