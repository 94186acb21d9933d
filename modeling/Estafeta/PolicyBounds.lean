import Estafeta.CacheKeys
import Estafeta.Rows

/-!
# The bounds of the global policy

The policy bounds the TTL of a notification and the number of its escalations, but neither the
processor nor the scheduler reads it: what bounds them is the type. A notification expires as its
type says, counted from a clock that its processor has read, and a pass counts no further than some
registration of the type allows. So the bounds of the policy hold where the registrations keep them.
-/

open Relational Atomic

namespace Estafeta

open Db.Preferences (firstPolicy)

/-! ## Registrations -/

/-- The row is a registration of the type at some moment of the history. -/
def Registered (typeId : Uuid) (es : History) (nt : NotificationTypeRow) : Prop :=
  ∃ e ∈ es, e.before.db.notificationTypes.lookup (.id typeId) = some nt

/-- Every update of the count of a notification writes at most `bound`. -/
def EscalatedWithin (es : History) (id : Uuid) (bound : Int32) : Prop :=
  ∀ e ∈ es, ∀ count next, ran e.op e.ans = some (.updateEscalation id count next) → count ≤ bound

/-- What a processor has done before it stores a notification. -/
def Call.Resolves : Call → Record → Op → Prop
  | .processor inst seq, h, .sql (.notifications (.insertNotification n)) =>
    Estafeta.Resolves inst seq h n
  | _, _, _ => True

theorem body_resolves (ext : Ext) (c : Call) :
    ((system ext).body c).Obeys (.recording c.Resolves) (fun _ _ => True) (fun _ _ => True) [] := by
  cases c with
  | processor inst seq =>
    simp only [system, Call.body, Prog.obeys_bind, Prog.obeys_mapErr]
    refine (processorRun_obeys_recording ?_ ⟨fun _ _ resolves => resolves, fun _ _ _ _ => trivial⟩).mono
      (fun _ _ _ => trivial) fun _ _ _ => trivial
    intro h o other _
    unfold Call.Resolves
    split
    next => cases other
    next => trivial
  | _ => exact Prog.obeys_of_forall (fun _ _ => trivial) _ _

section

variable {ext : Ext} {w₀ w : World} {es pre post : History} {p : State}
  {g : ℕ → Option (Call × Phase)} {e : Event Call Op Op.Ans World Choice}
  {n : Db.Notifications.InsertNotification}

theorem resolves_of_op (run : (system ext).Run (Pool.idle w₀) es p) (split : es = pre ++ e :: post)
    (op : e.op = .sql (.notifications (.insertNotification n))) :
    ∃ inst seq, e.call = .processor inst seq ∧ Resolves inst seq (doneBy pre e.tid) n := by
  obtain ⟨inst, seq, call, _⟩ := justified_of_stores run split (by rw [op]; rfl)
  have resolves : e.call.Resolves (doneBy pre e.tid) e.op :=
    (run.recorded (body_resolves ext)).1 pre e post split
  rw [call, op] at resolves
  exact ⟨inst, seq, call, resolves⟩

theorem registered_of_got (run : (system ext).Run (Pool.idle w₀) es p)
    (cold : ∀ inst c key, w₀.caches inst c key = none) {inst i : ℕ} {key : String}
    {v : CachedNotificationType} (got : Got inst .notificationTypes key v (doneBy es i)) :
    ∃ nt, Registered v.id es nt ∧ v = cachedNotificationType nt := by
  obtain ⟨pre, d, post, split, put⟩ := got_origin run cold got
  obtain ⟨before, r, after, m, service, nt, rfl, loaded⟩ := type_loaded run split put
  refine ⟨nt, ⟨r, by simp [split], ?_⟩, loaded.value⟩
  rw [loaded.value]
  exact Table.lookup_of_mem (Table.mem_of_lookup loaded.typed) (.head _)

/-- What a notification is stored with: its message, the type of the message as the processor has got
it, and the clock from which it expires. -/
structure StoredWith (inst seq : ℕ) (es : History) (h : Record)
    (n : Db.Notifications.InsertNotification) (m : IngestMessage) (nt : NotificationTypeRow)
    (t : Time) : Prop where
  received : Received seq m h
  got : Got inst .notificationTypes (notificationTypeKey m.serviceSlug m.notificationType)
    (cachedNotificationType nt) h
  registered : Registered n.notificationTypeId es nt
  clock : ⟨.utcNow, t⟩ ∈ h
  expires : n.expiresAt = nt.defaultTtlSeconds.map (fun ttl => t + Duration.seconds ttl)
  armed : n.nextEscalationAt ≠ none → nt.escalationIntervalSeconds ≠ none ∧ 0 < nt.maxEscalations

theorem exists_storedWith (run : (system ext).Run (Pool.idle w₀) es p)
    (cold : ∀ inst c key, w₀.caches inst c key = none) (split : es = pre ++ e :: post)
    (ins : inserted e.op e.ans = some n) :
    ∃ inst seq m nt t, e.call = .processor inst seq ∧
      StoredWith inst seq es (doneBy pre e.tid) n m nt t := by
  obtain ⟨inst, seq, call, resolves⟩ := resolves_of_op run split (op_of_ran (inserted_eq_some.1 ins))
  have longer : doneBy pre e.tid <+: doneBy es e.tid := by
    rw [split, doneBy_append]
    exact List.prefix_append ..
  generalize doneBy pre e.tid = h at resolves longer ⊢
  cases resolves with
  | mk received typed _ _ _ clock dated due =>
    obtain ⟨nt, registered, rfl⟩ := registered_of_got run cold (typed.mono longer)
    generalize expires : (cachedNotificationType nt).defaultTtlSeconds = ttl at dated
    have expires : nt.defaultTtlSeconds = ttl := expires
    cases dated with
    | none =>
      exact ⟨inst, seq, _, nt, _, call, received, typed, registered, clock, by rw [expires]; rfl,
        due.armed⟩
    | @after s t read =>
      exact ⟨inst, seq, _, nt, t, call, received, typed, registered, read, by rw [expires]; rfl,
        due.armed⟩

/-! ## Escalations -/

/-- What a run may read of the types, and how it may store notifications, under an assumption about
registrations. -/
structure Admits (R : Uuid → NotificationTypeRow → Prop)
    (e : Event Call Op Op.Ans World Choice) : Prop where
  types : ∀ typeId nt, e.before.db.notificationTypes.lookup (.id typeId) = some nt → R typeId nt
  armed : ∀ n, inserted e.op e.ans = some n → n.nextEscalationAt ≠ none →
    ∃ nt, R n.notificationTypeId nt ∧ nt.escalationIntervalSeconds ≠ none ∧ 0 < nt.maxEscalations

/-- A notification that is due again has a type with an interval, and a registration of it allows one
more escalation. -/
def NotificationRow.Armed (R : Uuid → NotificationTypeRow → Prop) (r : NotificationRow) : Prop :=
  r.nextEscalationAt ≠ none →
    (∃ nt, R r.notificationTypeId nt ∧ nt.escalationIntervalSeconds ≠ none) ∧
      ∃ nt, R r.notificationTypeId nt ∧ r.escalationCount < nt.maxEscalations

theorem pass_armed {R : Uuid → NotificationTypeRow → Prop} (run : Phased ext w₀ es w g)
    (empty : w₀.db.notifications = .empty) (admits : ∀ e ∈ es, Admits R e) {i : ℕ} {c : Call}
    {s : Phase} {o : Op} {x : Choice} (at_call : g i = some (c, s)) (permitted : c.monitor.may s o)
    (earlier : ∀ es' w' g', es' <+: es → Phased ext w₀ es' w' g' →
      ∀ r ∈ w'.db.notifications.rows, r.Armed R)
    {id : Uuid} {count : Int32} {next : Option Time}
    (updates : ran o (exec ext x o w).1 = some (.updateEscalation id count next)) :
    ∃ r, w.notification id = some r ∧
      (∃ nt, R r.notificationTypeId nt ∧ nt.escalationIntervalSeconds ≠ none) ∧
      (∃ nt, R r.notificationTypeId nt ∧ count ≤ nt.maxEscalations ∧ 0 < nt.maxEscalations) ∧
      (next ≠ none → ∃ nt, R r.notificationTypeId nt ∧ count < nt.maxEscalations) := by
  obtain ⟨_, due, type, todo, next', rfl, sameId, same, armed⟩ :=
    update_step (i := i) (w := w) permitted (recounts_iff.2 ⟨count, next, updates⟩)
  cases same.symm.trans updates
  have typed := read_type run (fun typeId type => ∀ nt, type = some nt → R typeId nt)
    (fun e he typeId nt found => (admits e he).types typeId nt found) i c _ at_call due type todo rfl
  obtain ⟨pre, scan, mid, rfl, _, found⟩ := scanned run i c _ at_call due (.head _)
  obtain ⟨g', _, _, _, _, _, w', rfl, run', _, _, joined⟩ := run.at
  obtain ⟨unchanged, stored, isDue⟩ := found_exec found
  have first := stored_iff.1 stored
  rw [← unchanged] at first
  obtain ⟨r, stored', keeps⟩ := keeps_between run
    (fun e he => List.mem_append_right _ (.tail _ he)) joined first
  have again : due.nextEscalationAt ≠ none := armed_of_due isDue
  obtain ⟨interval, nt, registered, below⟩ :=
    earlier pre w' g' (List.prefix_append ..) run' due stored again
  have nonneg := (sound run' empty due stored).counts.nonneg
  have below := Int32.lt_iff_toInt_lt.1 below
  have succ := toInt_succ nonneg below
  refine ⟨r, sameId ▸ stored', ?_⟩
  rw [keeps.notificationTypeId]
  refine ⟨interval, ⟨nt, registered, ?_, ?_⟩, fun again => ?_⟩
  · rw [Int32.le_iff_toInt_le]
    omega
  · rw [Int32.lt_iff_toInt_lt]
    exact lt_of_le_of_lt nonneg below
  · obtain ⟨nt', read, below'⟩ := armed again
    exact ⟨nt', typed nt' read, below'⟩

theorem armed_invariant {R : Uuid → NotificationTypeRow → Prop} (run : Phased ext w₀ es w g)
    (empty : w₀.db.notifications = .empty) :
    ∀ r ∈ w.db.notifications.rows, (∀ e ∈ es, Admits R e) → r.Armed R := by
  refine rows_invariant (fun es r => (∀ e ∈ es, Admits R e) → r.Armed R) ?_ ?_ ?_ ?_ run
  · rw [empty]
    intro r stored
    cases stored
  · exact fun es e r h admits => h fun e' he' => admits e' (List.mem_append_left _ he')
  · intro es e payload n ins _ admits again
    obtain ⟨nt, registered, interval, positive⟩ := (admits e (by simp)).armed n ins again
    exact ⟨⟨nt, registered, interval⟩, nt, registered, positive⟩
  · intro es w g i c s o x q r run at_call permitted hq stored before earlier admits
    have admits' := fun e he => admits e (List.mem_append_left _ he)
    by_cases counts : ∃ count next, q = .updateEscalation r.id count next
    · obtain ⟨count, next, rfl⟩ := counts
      obtain ⟨r', stored', interval, -, more⟩ := pass_armed run empty admits' at_call permitted
        (fun es' w' g' le run' r stored =>
          earlier es' w' g' le run' r stored fun e he => admits' e (le.subset he)) hq
      cases stored'.symm.trans (stored_iff.1 stored)
      obtain ⟨newCount, newNext⟩ := rewrite_update (x.env ext) count next stored rfl
      intro again
      rw [newNext] at again
      rw [Db.Notifications.rewrite_typeId, newCount]
      exact ⟨interval, more again⟩
    · obtain ⟨sameCount, sameNext⟩ := rewrite_count (x.env ext) w.db
        fun count next same => counts ⟨count, next, same⟩
      unfold NotificationRow.Armed
      rw [sameCount, sameNext, Db.Notifications.rewrite_typeId]
      exact before admits'

theorem admits_registered (run : (system ext).Run (Pool.idle w₀) es p)
    (cold : ∀ inst c key, w₀.caches inst c key = none) :
    ∀ e ∈ es, Admits (fun typeId nt => Registered typeId es nt) e := by
  intro e he
  refine ⟨fun typeId nt found => ⟨e, he, found⟩, fun n ins again => ?_⟩
  obtain ⟨pre, post, split⟩ := List.append_of_mem he
  obtain ⟨inst, seq, m, nt, t, -, settled⟩ := exists_storedWith run cold split ins
  exact ⟨nt, settled.registered, settled.armed again⟩

theorem update_allowed (run : (system ext).Run (Pool.idle w₀) es p)
    (empty : w₀.db.notifications = .empty) (cold : ∀ inst c key, w₀.caches inst c key = none)
    (he : e ∈ es) {id : Uuid} {count : Int32} {next : Option Time}
    (updates : ran e.op e.ans = some (.updateEscalation id count next)) :
    ∃ r, e.before.notification id = some r ∧
      (∃ nt, Registered r.notificationTypeId es nt ∧ nt.escalationIntervalSeconds ≠ none) ∧
      ∃ nt, Registered r.notificationTypeId es nt ∧ count ≤ nt.maxEscalations ∧
        0 < nt.maxEscalations := by
  have admits := admits_registered run cold
  obtain ⟨g, watched, _⟩ := phased run
  obtain ⟨pre, post, rfl⟩ := List.append_of_mem he
  obtain ⟨g', i, c, s, o, x, w', rfl, run', at_call, permitted, _⟩ := watched.at
  obtain ⟨r, stored, interval, allowed, -⟩ := pass_armed run' empty
    (fun e he => admits e (List.mem_append_left _ he)) at_call permitted
    (fun es' w' g' le run' r stored => armed_invariant run' empty r stored fun e he =>
      admits e (List.mem_append_left _ (le.subset he))) updates
  exact ⟨r, stored, interval, allowed⟩

/-- A notification that an event stores has its type whenever its count is updated. -/
theorem type_at_update (run : Phased ext w₀ es w g) (split : es = pre ++ e :: post)
    (ins : inserted e.op e.ans = some n) {e' : Event Call Op Op.Ans World Choice} (he' : e' ∈ es)
    (updates : recounts n.id e' = true) {r : NotificationRow}
    (stored : e'.before.notification n.id = some r) :
    r.notificationTypeId = n.notificationTypeId := by
  obtain ⟨pre', post', split'⟩ := List.append_of_mem he'
  rcases split_cases (split.symm.trans split') with ⟨mid, rfl, rfl⟩ | ⟨-, rfl, -⟩ | ⟨mid, rfl, rfl⟩
  · subst split
    have joined := run.between
    obtain ⟨_, _, _, o, x, w', rfl, _⟩ := run.permitted e (by simp)
    have first := stored_iff.1 ((Table.mem_insert (stored_of_inserted ins)).2 (.inr rfl))
    obtain ⟨r', later, keeps⟩ := keeps_between run (by simp +contextual) joined first
    cases stored.symm.trans later
    exact keeps.notificationTypeId
  · -- an insertion updates no count
    obtain ⟨count, next, same⟩ := recounts_iff.1 updates
    cases (inserted_eq_some.1 ins).symm.trans same
  · subst split'
    have absent := (unstored_before run ins).1
    cases stored.symm.trans absent

/-- The registrations of the type of a notification bound the updates of its count. -/
theorem escalatedWithin (run : (system ext).Run (Pool.idle w₀) es p)
    (empty : w₀.db.notifications = .empty) (cold : ∀ inst c key, w₀.caches inst c key = none)
    (split : es = pre ++ e :: post) (ins : inserted e.op e.ans = some n) {bound : Int32}
    (allowed : (∀ nt, Registered n.notificationTypeId es nt → nt.escalationIntervalSeconds = none) ∨
      ∀ nt, Registered n.notificationTypeId es nt → 0 < nt.maxEscalations →
        nt.maxEscalations ≤ bound) :
    EscalatedWithin es n.id bound := by
  intro e' he' count next updates
  obtain ⟨g, watched, _⟩ := phased run
  obtain ⟨r, stored, ⟨nt, registered, interval⟩, nt', registered', below, positive⟩ :=
    update_allowed run empty cold he' updates
  rw [type_at_update watched split ins he' (recounts_iff.2 ⟨count, next, updates⟩) stored]
    at registered registered'
  rcases allowed with none | bounded
  · exact absurd (none nt registered) interval
  · exact Int32.le_trans below (bounded nt' registered' positive)

theorem seconds_inj {s s' : Int32} {t : Time} :
    t + Duration.seconds s = t + Duration.seconds s' ↔ s = s' := by
  rw [Int.add_right_inj]
  unfold Duration.seconds
  rw [← Int32.toInt_inj]
  omega

theorem seconds_le {s s' : Int32} {t : Time} :
    t + Duration.seconds s ≤ t + Duration.seconds s' ↔ s ≤ s' := by
  unfold Duration.seconds
  rw [Int32.le_iff_toInt_le]
  constructor
  · intro later
    have := Int.le_of_add_le_add_left later
    omega
  · intro less
    apply Int.add_le_add_left
    omega

end

/-- A notification expires within the TTL of the policy that is in force when it is stored exactly if
the registration from which it expires has no TTL above it; and its count stays within the escalations
of the policy if no registration of its type that can escalate it allows more. Within those of the
type it stays in any case. -/
theorem policy_kept (ext : Ext) {w₀ : World} {es pre post : History} {p : State}
    {e : Event Call Op Op.Ans World Choice} {n : Db.Notifications.InsertNotification}
    {policy : GlobalPolicyRow} (run : (system ext).Run (Pool.idle w₀) es p)
    (empty : w₀.db.notifications = .empty) (cold : ∀ inst c key, w₀.caches inst c key = none)
    (split : es = pre ++ e :: post) (ins : inserted e.op e.ans = some n)
    (_ : firstPolicy (e.choice.env ext) e.before.db = some policy) :
    (∃ nt t, Registered n.notificationTypeId es nt ∧ ⟨.utcNow, t⟩ ∈ doneBy pre e.tid ∧
      n.expiresAt = nt.defaultTtlSeconds.map (fun ttl => t + Duration.seconds ttl) ∧
      ((∀ x, n.expiresAt = some x → x ≤ t + Duration.seconds policy.maxTtlSeconds) ↔
        ∀ ttl, nt.defaultTtlSeconds = some ttl → ttl ≤ policy.maxTtlSeconds)) ∧
    (∀ bound, (∀ nt, Registered n.notificationTypeId es nt → nt.maxEscalations ≤ bound) →
      EscalatedWithin es n.id bound) ∧
    (((∀ nt, Registered n.notificationTypeId es nt → nt.escalationIntervalSeconds = none) ∨
        ∀ nt, Registered n.notificationTypeId es nt → 0 < nt.maxEscalations →
          nt.maxEscalations ≤ policy.maxEscalations) →
      EscalatedWithin es n.id policy.maxEscalations) := by
  refine ⟨?_, fun bound allowed => ?_, escalatedWithin run empty cold split ins⟩
  · obtain ⟨inst, seq, m, nt, t, -, settled⟩ := exists_storedWith run cold split ins
    refine ⟨nt, t, settled.registered, settled.clock, settled.expires, ?_⟩
    rw [settled.expires]
    cases nt.defaultTtlSeconds with
    | none => exact ⟨fun _ _ => nofun, fun _ _ => nofun⟩
    | some ttl =>
      constructor
      · rintro within _ ⟨⟩
        exact seconds_le.1 (within _ rfl)
      · rintro below _ ⟨⟩
        exact seconds_le.2 (below _ rfl)
  · exact escalatedWithin run empty cold split ins (.inr fun nt registered _ => allowed nt registered)

namespace Sample

/-- A policy of one minute and three escalations. -/
def policy : GlobalPolicyRow where
  id := 1
  maxNotificationsPerUserPerHour := 100
  maxTtlSeconds := 60
  maxEscalations := 3
  rateLimitPerServicePerSecond := 10
  createdAt := 0
  updatedAt := 0

/-- One message of a type with a TTL, under the policy. -/
def governed (ttl : Int32) : World :=
  { world .empty [.ok message] with
    db :=
      { db .empty with
        notificationTypes := .single { notificationType with defaultTtlSeconds := some ttl } rfl
        globalPolicies := .single policy rfl } }

/-- The message is processed, and escalated once. -/
def governedRun (ttl : Int32) : State × History :=
  played (governed ttl) (.start 0 (.processor 0 0) :: (List.replicate 17 (.step 0 choice) ++
    .start 1 .escalation :: List.replicate 4 (.step 1 { choice with now := 100000000 })))

theorem registered_governed {nt : NotificationTypeRow}
    (registered : Registered 2 (governedRun 60).2 nt) : nt.maxEscalations = 1 := by
  obtain ⟨e, he, found⟩ := registered
  have one : ((governedRun 60).2.all fun e =>
    (e.before.db.notificationTypes.lookup (.id 2)).all fun nt => nt.maxEscalations = 1) = true := rfl
  have one := List.all_eq_true.1 one e he
  rw [found] at one
  exact of_decide_eq_true one

/-- Where a record has read one time only, a clock that it has read is at that time. -/
theorem eq_of_clock {h : Record} {t c : Time}
    (early : (h.all fun a => match a with
      | ⟨.utcNow, t⟩ => decide (t = c)
      | _ => true) = true) (clock : ⟨.utcNow, t⟩ ∈ h) : t = c :=
  of_decide_eq_true (List.all_eq_true.1 early _ clock)

end Sample

theorem policy_kept_governed : ∃ e ∈ (Sample.governedRun 60).2, ∃ n, inserted e.op e.ans = some n ∧
    EscalatedWithin (Sample.governedRun 60).2 n.id Sample.policy.maxEscalations ∧
    ∃ nt t, Registered n.notificationTypeId (Sample.governedRun 60).2 nt ∧
      ((∀ x, n.expiresAt = some x → x ≤ t + Duration.seconds Sample.policy.maxTtlSeconds) ↔
        ∀ ttl, nt.defaultTtlSeconds = some ttl → ttl ≤ Sample.policy.maxTtlSeconds) := by
  obtain ⟨e, post, n, split, ins, inForce, type⟩ :
      ∃ (e : Event Call Op Op.Ans World Choice) (post : History) (n : _),
      (Sample.governedRun 60).2 = (Sample.governedRun 60).2.take 14 ++ e :: post ∧
        inserted e.op e.ans = some n ∧
        firstPolicy (e.choice.env Sample.ext) e.before.db = some Sample.policy ∧
        n.notificationTypeId = 2 := ⟨_, _, _, rfl, rfl, rfl, rfl⟩
  obtain ⟨⟨nt, t, registered, _, _, expiry⟩, _, escalations⟩ := policy_kept Sample.ext
    (Sample.run_played rfl) rfl (fun _ _ _ => rfl) split ins inForce
  refine ⟨e, split ▸ by simp, n, ins, escalations (.inr fun nt registered _ => ?_), nt, t, registered,
    expiry⟩
  rw [Sample.registered_governed (type ▸ registered)]
  decide

/-- A type with a TTL above that of the policy is processed as it is. -/
theorem not_policy_kept : ¬ ∀ (ext : Ext) (w₀ : World) (es pre post : History) (p : State)
    (e : Event Call Op Op.Ans World Choice) (n : Db.Notifications.InsertNotification)
    (policy : GlobalPolicyRow), (system ext).Run (Pool.idle w₀) es p →
    w₀.db.notifications = .empty → (∀ inst c key, w₀.caches inst c key = none) →
    es = pre ++ e :: post → inserted e.op e.ans = some n →
    firstPolicy (e.choice.env ext) e.before.db = some policy →
    (∃ t, ⟨.utcNow, t⟩ ∈ doneBy pre e.tid ∧
      ∀ x, n.expiresAt = some x → x ≤ t + Duration.seconds policy.maxTtlSeconds) ∧
    ∀ bound, (∀ nt, Registered n.notificationTypeId es nt → nt.maxEscalations ≤ bound) →
      EscalatedWithin es n.id bound ∧ EscalatedWithin es n.id policy.maxEscalations := by
  intro kept
  obtain ⟨e, post, n, split, ins, inForce, tid, expires⟩ :
      ∃ (e : Event Call Op Op.Ans World Choice) (post : History) (n : _),
      (Sample.governedRun 3600).2 = (Sample.governedRun 3600).2.take 14 ++ e :: post ∧
        inserted e.op e.ans = some n ∧
        firstPolicy (e.choice.env Sample.ext) e.before.db = some Sample.policy ∧ e.tid = 0 ∧
        n.expiresAt = some 3600000007 := ⟨_, _, _, rfl, rfl, rfl, rfl, rfl⟩
  obtain ⟨⟨t, clock, within⟩, _⟩ := kept _ _ _ _ _ _ _ _ _ (Sample.run_played rfl) rfl
    (fun _ _ _ => rfl) split ins inForce
  have now : t = 7 := Sample.eq_of_clock rfl (tid ▸ clock)
  have late := within _ expires
  rw [now] at late
  exact absurd late (by decide)

end Estafeta
