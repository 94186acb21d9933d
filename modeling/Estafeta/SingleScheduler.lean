import Estafeta.Arming

/-!
# Escalations under one scheduler

When one instance runs the scheduler, its passes run one after another, so that none is overtaken
(`not_overtaken`), and the count of a notification is the number of its updates. It stays within the
type's bound, and a notification that has been armed is not found due before its interval is over
(`bounded_by_type`).
-/

open Relational Atomic

namespace Estafeta

/-- Passes run one at a time: between two operations of a pass no other pass does anything. -/
def PassesApart (es : History) : Prop :=
  ∀ pre d mid e post, es = pre ++ d :: (mid ++ e :: post) → d.call = .escalation → e.tid = d.tid →
    ∀ e' ∈ mid, e'.call = .escalation → e'.tid = d.tid

theorem Serial.passesApart {es : History} (serial : Serial es) : PassesApart es := by
  rintro pre d mid e post rfl _ same e' mem _
  have later := (List.pairwise_append.1 serial).2.1
  rw [List.pairwise_cons] at later
  have first : d.tid ≤ e'.tid := later.1 e' (List.mem_append_left _ mem)
  have last : e'.tid ≤ e.tid := (List.pairwise_append.1 later.2).2.2 e' mem e (.head _)
  omega

/-- One scheduler, under a clock that does not go back, and a type whose interval and bound do not
change, of a notification that is stored in the run. -/
structure OneScheduler (nt : NotificationTypeRow) (id : Uuid) (w₀ : World) (es : History) : Prop where
  cold : ∀ inst c key, w₀.caches inst c key = none
  absent : w₀.notification id = none
  ofType : ∀ e ∈ es, ∀ n, inserted e.op e.ans = some n → n.id = id → n.notificationTypeId = nt.id
  fixed : ∀ e ∈ es, ∀ nt', e.before.db.notificationTypes.lookup (.id nt.id) = some nt' →
    nt'.escalationIntervalSeconds = nt.escalationIntervalSeconds ∧
      nt'.maxEscalations = nt.maxEscalations
  apart : PassesApart es
  clock : es.Pairwise fun e e' => e.choice.now ≤ e'.choice.now

/-- The type with a bound that is not negative. -/
def NotificationTypeRow.floored (nt : NotificationTypeRow) : NotificationTypeRow :=
  { nt with maxEscalations := if nt.maxEscalations < 0 then 0 else nt.maxEscalations }

/-- A notification that the event arms for `t` is not found due until the interval of its type is over,
counted from the clock that the same thread has read just before. -/
def NotBefore (nt : NotificationTypeRow) (id : Uuid) (pre : History)
    (e : Event Call Op Op.Ans World Choice) (post : History) (t : Time) : Prop :=
  ∃ A clock M s, pre = A ++ clock :: M ∧ clock.op = .utcNow ∧ clock.tid = e.tid ∧
    doneBy M e.tid = [] ∧ nt.escalationIntervalSeconds = some s ∧
    t = clock.choice.now + Duration.seconds s ∧
    ∀ scan ∈ M ++ post, (∃ r ∈ found scan.op scan.ans, r.id = id) →
      clock.choice.now + Duration.seconds s ≤ scan.choice.now

section

variable {ext : Ext} {w₀ : World} {es pre post : History} {p : State} {id : Uuid} {t : Time}
  {nt : NotificationTypeRow} {r : NotificationRow} {e e' : Event Call Op Op.Ans World Choice}

theorem floored_toInt : nt.floored.maxEscalations.toInt = max 0 nt.maxEscalations.toInt := by
  have zero : (0 : Int32).toInt = 0 := rfl
  unfold NotificationTypeRow.floored
  dsimp only
  split
  next negative =>
    rw [Int32.lt_iff_toInt_lt, zero] at negative
    rw [zero]
    omega
  next other =>
    rw [Int32.lt_iff_toInt_lt, zero] at other
    omega

theorem floored_nonneg : 0 ≤ nt.floored.maxEscalations := by
  rw [Int32.le_iff_toInt_le, floored_toInt]
  exact le_max_left ..

theorem le_floored : nt.maxEscalations ≤ nt.floored.maxEscalations := by
  rw [Int32.le_iff_toInt_le, floored_toInt]
  exact le_max_right ..

theorem OneScheduler.initial (one : OneScheduler nt id w₀ es) (h : pre <+: es) :
    OneScheduler nt id w₀ pre where
  cold := one.cold
  absent := one.absent
  ofType e he := one.ofType e (h.subset he)
  fixed e he := one.fixed e (h.subset he)
  apart A d mid e B same := by
    obtain ⟨rest, rfl⟩ := h
    exact one.apart A d mid e (B ++ rest) (by simp [same])
  clock := one.clock.sublist h.sublist

/-! ## What the type allows -/

theorem OneScheduler.capped (one : OneScheduler nt id w₀ es)
    (run : (system ext).Run (Pool.idle w₀) es p) : Capped nt.floored id w₀ es where
  type e he nt' found := by
    rw [(one.fixed e he nt' found).2]
    exact le_floored
  stored r h := by
    rw [one.absent] at h
    cases h
  inserted e he n ins same := by
    have type := one.ofType e he n ins same
    obtain ⟨pre, post, split⟩ := List.append_of_mem he
    obtain ⟨inst, seq, m, nt', t, -, settled⟩ := exists_storedWith run one.cold split ins
    obtain ⟨d, hd, found⟩ := settled.registered
    rw [type] at found
    refine ⟨type, rfl, fun due => ?_⟩
    have positive := (settled.armed due).2
    rw [(one.fixed d hd nt' found).2] at positive
    exact Int32.lt_of_lt_of_le positive le_floored

theorem found_type (run : (system ext).Run (Pool.idle w₀) es p) (one : OneScheduler nt id w₀ es)
    (he : e ∈ es) (due : r ∈ found e.op e.ans) (same : r.id = id) : r.notificationTypeId = nt.id := by
  have capped := one.capped run
  obtain ⟨g, watched, _⟩ := phased run
  obtain ⟨_, stored, _⟩ := scan_found watched he due
  obtain ⟨pre, post, rfl⟩ := List.append_of_mem he
  obtain ⟨_, _, _, _, _, _, _, rfl, before, _⟩ := watched.at
  exact stored_type before (capped.initial (List.prefix_append ..)) r (same ▸ stored)

/-! ## The count -/

theorem call_of_tid (run : (system ext).Run (Pool.idle w₀) es p) (he : e ∈ es) (he' : e' ∈ es)
    (same : e.tid = e'.tid) : e.call = e'.call := by
  obtain ⟨k, thread⟩ := run.started e' he'
  exact call_of_thread run thread he same

theorem call_of_recounts (run : (system ext).Run (Pool.idle w₀) es p) (he : e ∈ es)
    (updates : recounts id e = true) : e.call = .escalation := by
  obtain ⟨count, next, updates⟩ := recounts_iff.1 updates
  obtain ⟨pre, post, split⟩ := List.append_of_mem he
  exact (count_anatomy run split updates).1

theorem not_overtaken (run : (system ext).Run (Pool.idle w₀) es p) (one : OneScheduler nt id w₀ es) :
    ¬ Overtaken es id := by
  rintro ⟨A, scan, mid, update, B, split, tid, ⟨r, due, -⟩, updates, e, he, overtakes⟩
  have call := call_of_recounts run (e := update) (by simp [split]) updates
  have scans : scan.call = .escalation :=
    (call_of_tid run (by simp [split]) (by simp [split]) tid).trans call
  have own : e.tid = scan.tid := by
    refine one.apart A scan mid update B split scans tid.symm e he ?_
    exact call_of_recounts run (by simp [split, he]) overtakes
  obtain ⟨count, next, updates⟩ := recounts_iff.1 updates
  have split' : es = (A ++ scan :: mid) ++ update :: B := by simp [split]
  obtain ⟨-, r', type, A', scan', B', read, C', place, handles, tid', -, -, -, quiet⟩ :=
    count_anatomy run split' updates
  obtain ⟨g, watched, _⟩ := phased run
  have place' : es = A' ++ scan' :: ((B' ++ read :: C') ++ update :: B) := by
    rw [split', place]
    simp
  have same := scan_unique watched split place' (tid.trans tid'.symm) (List.ne_nil_of_mem due)
    (List.ne_nil_of_mem handles.due)
  rw [List.append_cancel_right same] at he
  rw [quiet e he (own.trans tid)] at overtakes
  cases overtakes

theorem OneScheduler.counted (one : OneScheduler nt id w₀ es)
    (run : (system ext).Run (Pool.idle w₀) es p) :
    (∀ r, p.world.notification id = some r → Counted nt.floored id es r ∧
        r.escalationCount.toInt = es.countP (recounts id)) ∧
      (p.world.notification id = none → es.countP (recounts id) = 0) := by
  obtain ⟨g, watched, _⟩ := phased run
  obtain ⟨stored, absent⟩ := Estafeta.counted watched floored_nonneg (one.capped run)
  exact ⟨fun r h => ⟨stored r h, (stored r h).agrees.2 (not_overtaken run one)⟩, absent⟩

/-! ## When a notification is due again -/

theorem time_of_clock (run : (system ext).Run (Pool.idle w₀) es p) (he : e ∈ es)
    (done : e.done = ⟨.utcNow, t⟩) : e.op = .utcNow ∧ t = e.choice.now := by
  obtain ⟨_, _, _, _, _, rfl⟩ := performed run e he
  cases done
  exact ⟨rfl, rfl⟩

/-- The next time that a pass sets counts from the clock that the pass has read last. -/
theorem update_clock (run : (system ext).Run (Pool.idle w₀) es p) (one : OneScheduler nt id w₀ es)
    (split : es = pre ++ e :: post) {count : Int32}
    (updates : ran e.op e.ans = some (.updateEscalation id count (some t))) :
    ∃ A scan L clock M s, pre = A ++ scan :: (L ++ clock :: M) ∧ scan.tid = e.tid ∧
      (∃ r ∈ found scan.op scan.ans, r.id = id) ∧ clock.op = .utcNow ∧ clock.tid = e.tid ∧
      doneBy M e.tid = [] ∧ nt.escalationIntervalSeconds = some s ∧
      t = clock.choice.now + Duration.seconds s := by
  obtain ⟨-, r, type, A, scan, B, read, C, place, handles, tid, same, -, rearms, -⟩ :=
    count_anatomy run split updates
  have mem : ∀ d ∈ pre, d ∈ es := by simp +contextual [split]
  generalize rest : doneBy C e.tid = h at rearms
  cases rearms with
  | @again nt' s t₀ below interval =>
    obtain ⟨L, clock, M, rfl, clockOwn, clockDone, -, silent⟩ := doneBy_split (h := []) rest
    obtain ⟨isClock, now⟩ := time_of_clock run (mem clock (by simp [place])) clockDone
    have type := found_type run one (mem scan (by simp [place])) handles.due same
    have there := mem read (by simp [place])
    have found := handles.read_type run there
    rw [type] at found
    rw [(one.fixed read there nt' found.symm).1] at interval
    refine ⟨A, scan, B ++ read :: L, clock, M, s, by simp [place], tid, ⟨r, handles.due, same⟩,
      isClock, clockOwn, silent, interval, ?_⟩
    rw [now]

/-- The next time of a notification counts from the clock that the thread which sets it has read
last. -/
theorem arming_clock (run : (system ext).Run (Pool.idle w₀) es p) (one : OneScheduler nt id w₀ es)
    (split : es = pre ++ e :: post) (arms : Arms id t e) :
    ∃ A clock M s, pre = A ++ clock :: M ∧ clock.op = .utcNow ∧ clock.tid = e.tid ∧
      doneBy M e.tid = [] ∧ nt.escalationIntervalSeconds = some s ∧
      t = clock.choice.now + Duration.seconds s := by
  rcases arms with ⟨n, ins, same, next⟩ | ⟨count, updates⟩
  · have type := one.ofType e (by simp [split]) n ins same
    obtain ⟨inst, key, v, got, typed, due⟩ := insertion_due run split ins
    have longer : doneBy pre e.tid <+: doneBy es e.tid := by
      rw [split, doneBy_append]
      exact List.prefix_append ..
    obtain ⟨nt', ⟨d, hd, found⟩, rfl⟩ := registered_of_got run one.cold (got.mono longer)
    rw [← typed, type] at found
    have fixed := (one.fixed d hd nt' found).1
    rw [next] at due
    generalize past : doneBy pre e.tid = h at due
    cases due with
    | @after h s t₀ interval =>
      obtain ⟨A, clock, M, place, own, done, -, silent⟩ := doneBy_split past
      obtain ⟨isClock, now⟩ := time_of_clock run (by simp [split, place]) done
      exact ⟨A, clock, M, s, place, isClock, own, silent, fixed ▸ interval, by rw [now]⟩
  · obtain ⟨A, scan, L, clock, M, s, place, -, -, isClock, own, silent, interval, next⟩ :=
      update_clock run one split updates
    exact ⟨A ++ scan :: L, clock, M, s, by simp [place], isClock, own, silent, interval, next⟩

/-- A notification that an event arms is then stored with that time. -/
theorem stored_of_arms (run : (system ext).Run (Pool.idle w₀) es p) (he : e ∈ es)
    (arms : Arms id t e) : ∃ r, e.after.notification id = some r ∧ r.nextEscalationAt = some t := by
  obtain ⟨pre, post, split⟩ := List.append_of_mem he
  rcases arms with ⟨n, ins, rfl, next⟩ | ⟨count, updates⟩
  · obtain ⟨_, _, _, _, _, rfl⟩ := performed run e he
    exact ⟨_, stored_iff.1 ((Table.mem_insert (stored_of_inserted ins)).2 (.inr rfl)), next⟩
  · obtain ⟨-, r, _, A, scan, B, read, C, place, handles, -, rfl, -⟩ := count_anatomy run split updates
    have place : es = A ++ scan :: ((B ++ read :: C) ++ e :: post) := by
      rw [split, place]
      simp
    obtain ⟨r', stored, -⟩ := found_keeps run place handles.due
    obtain ⟨_, _, _, x, w, rfl⟩ := performed run e he
    refine ⟨_, notification_of_ran updates stored, ?_⟩
    exact (rewrite_update (x.env ext) count (some t) (Table.mem_of_lookup stored)
      (World.id_of stored)).2

/-- What has armed a notification before a pass updates its count did so before the pass found it. -/
theorem armed_before_scan (run : (system ext).Run (Pool.idle w₀) es p)
    (one : OneScheduler nt id w₀ es) {A M : History} {scan d : Event Call Op Op.Ans World Choice}
    (place : es = A ++ scan :: (M ++ e :: post)) (tid : scan.tid = e.tid)
    (due : ∃ r ∈ found scan.op scan.ans, r.id = id) (updates : recounts id e = true)
    (hd : d ∈ A ++ scan :: M) (arms : Arms id t d) : d ∈ A := by
  obtain ⟨r, found, same⟩ := due
  rcases List.mem_append.1 hd with hd | hd
  · exact hd
  rcases List.mem_cons.1 hd with rfl | hd
  · -- a scan arms nothing
    exfalso
    rcases arms with ⟨n, ins, -, -⟩ | ⟨count, ran'⟩
    · have op := op_of_ran (inserted_eq_some.1 ins)
      obtain ⟨_, _, _, _, _, _, _⟩ := d
      cases op
      cases found
    · have quiet : recounts id d = false := quiet_of_found found
      rw [recounts_iff.2 ⟨count, _, ran'⟩] at quiet
      cases quiet
  · exfalso
    rcases arms with ⟨n, ins, rfl, -⟩ | ⟨count, ran'⟩
    · obtain ⟨g, watched, _⟩ := phased run
      obtain ⟨-, stored, -⟩ := scan_found watched (by simp [place]) found
      obtain ⟨M₁, M₂, rfl⟩ := List.append_of_mem hd
      rw [place, List.append_assoc, List.cons_append] at watched
      have absent := (unstored_before watched ins).1
      cases (same ▸ stored).symm.trans absent
    · have overtakes : recounts id d = true := recounts_iff.2 ⟨count, _, ran'⟩
      exact not_overtaken run one
        ⟨A, scan, M, e, post, place, tid, ⟨r, found, same⟩, updates, d, hd, overtakes⟩

/-- The next time of a notification is no earlier than any that an event has set before. -/
theorem rearmed_later (run : (system ext).Run (Pool.idle w₀) es p) : OneScheduler nt id w₀ es →
    ∀ r t, p.world.notification id = some r → r.nextEscalationAt = some t →
      ∀ e ∈ es, ∀ t₀, Arms id t₀ e → t₀ ≤ t := by
  induction run with
  | init => exact fun _ _ _ _ _ e he => absurd he List.not_mem_nil
  | start c _ _ ih => exact ih
  | @step es p i c o k x run at_call ih =>
    intro one r' t stored' next d hd t₀ arms
    have run' := run.step x at_call
    have one' := one.initial (List.prefix_append ..)
    rcases List.mem_append.1 hd with hd | hd
    case inr =>
      obtain rfl := List.mem_singleton.1 hd
      obtain ⟨r, after, same⟩ := stored_of_arms run' (by simp) arms
      cases after.symm.trans stored'
      cases same.symm.trans next
      exact le_rfl
    rcases notification_cases ext x o p.world id with ⟨r, stored, -⟩ |
      ⟨absent, none | ⟨n, ins, rfl, -⟩⟩
    · obtain ⟨r₁, after, -, ⟨count, t', updates, -, newNext⟩ | ⟨-, -, sameNext⟩⟩ :=
        count_exec ext x o stored <;> cases after.symm.trans stored'
      · -- the clock of this update was read after the notification was found, so after the arming
        cases newNext.symm.trans next
        have last : es ++ [(system ext).event i c o x p.world] =
          es ++ (system ext).event i c o x p.world :: [] := rfl
        obtain ⟨A, scan, L, clock, M, s, place, tid, due, -, -, -, interval, time⟩ :=
          update_clock run' one last updates
        have before : d ∈ A := by
          have last : es ++ [(system ext).event i c o x p.world] =
            A ++ scan :: ((L ++ clock :: M) ++ (system ext).event i c o x p.world :: []) := by
            simp [place]
          refine armed_before_scan run' one last tid due (recounts_iff.2 ⟨count, _, updates⟩) ?_ arms
          rwa [← place]
        obtain ⟨A₁, A₂, rfl⟩ := List.append_of_mem before
        have place' : es = A₁ ++ d :: (A₂ ++ scan :: (L ++ clock :: M)) := by simp [place]
        obtain ⟨B, clock₀, N, s₀, place₀, -, -, -, interval₀, time₀⟩ :=
          arming_clock run one' place' arms
        cases interval.symm.trans interval₀
        have ordered := one'.clock
        rw [place, place₀] at ordered
        have earlier : clock₀.choice.now ≤ clock.choice.now := by
          refine (List.pairwise_append.1 ordered).2.2 clock₀ ?_ clock ?_ <;> simp
        rw [time, time₀]
        exact Int.add_le_add_right earlier _
      · exact ih one' r t stored (sameNext.symm.trans next) d hd t₀ arms
    · cases none.symm.trans stored'
    · -- nothing has armed the notification before it is stored
      obtain ⟨r, after, -⟩ := stored_of_arms run hd arms
      obtain ⟨A, B, rfl⟩ := List.append_of_mem hd
      obtain ⟨g, watched, _⟩ := phased run'
      rw [List.append_assoc, List.cons_append] at watched
      have absent := (unstored_before watched ins).2
      cases after.symm.trans absent

/-- A notification that has been armed is not found due before its interval is over. -/
theorem not_before (run : (system ext).Run (Pool.idle w₀) es p) (one : OneScheduler nt id w₀ es)
    (split : es = pre ++ e :: post) (arms : Arms id t e) : NotBefore nt id pre e post t := by
  obtain ⟨A, clock, M, s, place, isClock, own, silent, interval, time⟩ :=
    arming_clock run one split arms
  refine ⟨A, clock, M, s, place, isClock, own, silent, interval, time, ?_⟩
  rintro scan mem ⟨r, due, rfl⟩
  obtain ⟨g, watched, _⟩ := phased run
  rcases List.mem_append.1 mem with mem | mem
  · exfalso
    have there : scan ∈ es := by simp [split, place, mem]
    rcases arms with ⟨n, ins, same, -⟩ | ⟨count, updates⟩
    · -- it is not stored before it is armed
      obtain ⟨-, stored, -⟩ := scan_found watched there due
      obtain ⟨M₁, M₂, rfl⟩ := List.append_of_mem mem
      have place' : es = (A ++ clock :: M₁) ++ scan :: (M₂ ++ e :: post) := by simp [split, place]
      rw [place'] at watched
      have absent := (unstored_before watched ins).1
      cases (same ▸ stored).symm.trans absent
    · -- no other pass comes between the clock and the update
      have call := call_of_recounts run (e := e) (by simp [split])
        (recounts_iff.2 ⟨count, _, updates⟩)
      have clocks : clock.call = .escalation :=
        (call_of_tid run (by simp [split, place]) (by simp [split]) own).trans call
      have scans : scan.call = .escalation := by
        obtain ⟨_, _, _, _, _, _, rfl, permitted⟩ := watched.permitted scan there
        exact (scanning_of_found permitted (List.ne_nil_of_mem due)).1
      have place' : es = A ++ clock :: (M ++ e :: post) := by simp [split, place]
      have same := one.apart A clock M e post place' clocks own.symm scan mem scans
      have done : scan.done ∈ doneBy M e.tid := mem_doneBy.2 ⟨scan, mem, same.trans own, rfl⟩
      rw [silent] at done
      cases done
  · obtain ⟨B, C, rfl⟩ := List.append_of_mem mem
    have place' : es = (pre ++ e :: B) ++ scan :: C := by simp [split]
    obtain ⟨-, stored, due⟩ := scan_found watched (by simp [place']) due
    rw [place'] at run one
    obtain ⟨q, _, _, _, _, _, rfl, run', -⟩ := run.at
    obtain ⟨t', next, past⟩ := due_time due
    have later := rearmed_later run' (one.initial (List.prefix_append ..)) r t' stored next e
      (by simp) t arms
    rw [← time]
    exact le_trans later past

theorem count_step (run : (system ext).Run (Pool.idle w₀) es p) (one : OneScheduler nt id w₀ es)
    (he : e ∈ es) (stored : e.before.notification id = some r) :
    ∃ r', e.after.notification id = some r' ∧
      r'.escalationCount.toInt = r.escalationCount.toInt + (recounts id e).toNat := by
  obtain ⟨pre, post, rfl⟩ := List.append_of_mem he
  obtain ⟨q, i, c, o, k, x, rfl, run', at_call, -⟩ := run.at
  have step := run'.step x at_call
  have short : pre ++ [(system ext).event i c o x q.world] <+:
      pre ++ (system ext).event i c o x q.world :: post := ⟨post, by simp⟩
  have there : ((exec ext x o q.world).2.notification id).isSome = true :=
    stored_exec (Option.isSome_iff_exists.2 ⟨r, stored⟩)
  obtain ⟨r', after⟩ := Option.isSome_iff_exists.1 there
  have was := ((one.initial (List.prefix_append ..)).counted run').1 r stored
  have is := ((one.initial short).counted step).1 r' after
  refine ⟨r', after, ?_⟩
  rw [is.2, was.2, countP_snoc]
  push_cast
  rfl

theorem count_up (run : (system ext).Run (Pool.idle w₀) es p) (one : OneScheduler nt id w₀ es)
    (he : e ∈ es) (due : r ∈ found e.op e.ans) (same : r.id = id) :
    (r.escalationCount + 1).toInt = r.escalationCount.toInt + 1 := by
  obtain ⟨g, watched, _⟩ := phased run
  obtain ⟨-, stored, due⟩ := scan_found watched he due
  obtain ⟨pre, post, rfl⟩ := List.append_of_mem he
  obtain ⟨q, _, _, _, _, _, rfl, run', -⟩ := run.at
  have count := (((one.initial (List.prefix_append ..)).counted run').1 r (same ▸ stored)).1
  exact toInt_succ count.nonneg (count.armed (armed_of_due due))

/-- Passes resurface and bump a notification no more often than its type allows. -/
theorem escalates_le (run : (system ext).Run (Pool.idle w₀) es p) (one : OneScheduler nt id w₀ es) :
    (es.countP (escalates id) : ℤ) ≤ max 0 nt.maxEscalations.toInt := by
  obtain ⟨g, watched, _⟩ := phased run
  have fewer : es.countP (escalates id) ≤ es.countP (recounts id) :=
    watched.countP_le fun i c s thread =>
      le_trans (Nat.le_add_right ..) (acted_le watched i c s thread)
  obtain ⟨stored, absent⟩ := one.counted run
  rcases there : p.world.notification id with _ | r
  · rw [absent there] at fewer
    omega
  · obtain ⟨count, same⟩ := stored r there
    have bound := count.bound
    rw [floored_toInt] at bound
    omega

/-- Under one scheduler and a type that is not changed, a notification that is due again can be
escalated once more, its count is within the bound of its type, never decreases and never overflows,
it is escalated no more often than that, and is not found due before its interval is over. -/
theorem bounded_by_type (run : (system ext).Run (Pool.idle w₀) es p)
    (one : OneScheduler nt id w₀ es) :
    (∀ r, p.world.notification id = some r →
      (r.nextEscalationAt ≠ none → r.escalationCount < nt.maxEscalations) ∧
        0 ≤ r.escalationCount.toInt ∧ r.escalationCount.toInt ≤ max 0 nt.maxEscalations.toInt) ∧
    (∀ e ∈ es, ∀ r, e.before.notification id = some r → ∃ r', e.after.notification id = some r' ∧
      r'.escalationCount.toInt = r.escalationCount.toInt + (recounts id e).toNat) ∧
    (∀ e ∈ es, ∀ r ∈ found e.op e.ans, r.id = id →
      (r.escalationCount + 1).toInt = r.escalationCount.toInt + 1) ∧
    (es.countP (escalates id) : ℤ) ≤ max 0 nt.maxEscalations.toInt ∧
    ∀ pre e post t, es = pre ++ e :: post → Arms id t e → NotBefore nt id pre e post t := by
  refine ⟨fun r stored => ?_, fun e he r => count_step run one he, fun e he r => count_up run one he,
    escalates_le run one, fun pre e post t => not_before run one⟩
  have count := ((one.counted run).1 r stored).1
  have bound := count.bound
  rw [floored_toInt] at bound
  refine ⟨fun armed => ?_, count.nonneg, bound⟩
  have below := count.armed armed
  have nonneg := count.nonneg
  rw [floored_toInt] at below
  rw [Int32.lt_iff_toInt_lt]
  omega

end

namespace Sample

/-- A type that allows two escalations. -/
def twoAllowed : NotificationTypeRow := { notificationType with maxEscalations := 2 }

/-- One message of the type. -/
def oneOfTwoAllowed : World :=
  { world .empty [.ok message] with
    db := { db .empty with notificationTypes := .single twoAllowed rfl } }

/-- The message is processed, and the notification escalated in two passes. -/
def twicePassed : State × History :=
  played oneOfTwoAllowed (.start 0 (.processor 0 0) :: (List.replicate 16 (.step 0 choice) ++
    .start 1 .escalation :: (List.replicate 5 (.step 1 { choice with now := 100000000 }) ++
      .start 2 .escalation :: List.replicate 4 (.step 2 { choice with now := 200000000 }))))

theorem oneScheduler_twicePassed : OneScheduler twoAllowed 3 oneOfTwoAllowed twicePassed.2 where
  cold _ _ _ := rfl
  absent := rfl
  ofType e he n ins _ := by
    have own : (twicePassed.2.all fun e =>
      (inserted e.op e.ans).all fun n => n.notificationTypeId = 2) = true := rfl
    have own := List.all_eq_true.1 own e he
    rw [ins] at own
    exact of_decide_eq_true own
  fixed e he nt' found := by
    have same : (twicePassed.2.all fun e =>
      (e.before.db.notificationTypes.lookup (.id 2)).all fun nt =>
        nt.escalationIntervalSeconds = some 60 ∧ nt.maxEscalations = 2) = true := rfl
    have same := List.all_eq_true.1 same e he
    have found : e.before.db.notificationTypes.lookup (.id 2) = some nt' := found
    rw [found] at same
    exact of_decide_eq_true same
  apart := by
    have tids : twicePassed.2.map (·.tid) =
      List.replicate 16 0 ++ (List.replicate 5 1 ++ List.replicate 4 2) := rfl
    apply Serial.passesApart
    apply List.pairwise_map.1
    rw [tids]
    decide
  clock := by
    have times : twicePassed.2.map (·.choice.now) =
      List.replicate 16 7 ++ (List.replicate 5 100000000 ++ List.replicate 4 200000000) := rfl
    apply List.pairwise_map.1
    rw [times]
    decide

end Sample

theorem bounded_by_type_twicePassed :
    ∃ r, Sample.twicePassed.1.world.notification 3 = some r ∧ r.escalationCount = 2 ∧
      r.escalationCount.toInt ≤ max 0 Sample.twoAllowed.maxEscalations.toInt ∧
      Sample.twicePassed.2.countP (escalates 3) = 2 ∧
      (Sample.twicePassed.2.countP (escalates 3) : ℤ) ≤ max 0 Sample.twoAllowed.maxEscalations.toInt ∧
      ∃ pre e post, Sample.twicePassed.2 = pre ++ e :: post ∧
        NotBefore Sample.twoAllowed 3 pre e post 160000000 := by
  have run : (system Sample.ext).Run (Pool.idle Sample.oneOfTwoAllowed) Sample.twicePassed.2
      Sample.twicePassed.1 := Sample.run_played rfl
  obtain ⟨counts, -, -, bound, armed⟩ := bounded_by_type run Sample.oneScheduler_twicePassed
  obtain ⟨r, stored, two⟩ : ∃ r, Sample.twicePassed.1.world.notification 3 = some r ∧
    r.escalationCount = 2 := ⟨_, rfl, rfl⟩
  obtain ⟨e, post, split, updates⟩ : ∃ (e : Event Call Op Op.Ans World Choice) (post : History),
      Sample.twicePassed.2 = Sample.twicePassed.2.take 19 ++ e :: post ∧
        ran e.op e.ans = some (.updateEscalation 3 1 (some 160000000)) := ⟨_, _, rfl, rfl⟩
  exact ⟨r, stored, two, (counts r stored).2.2, rfl, bound, _, e, post, split,
    armed _ e post _ split (.inr ⟨1, updates⟩)⟩

end Estafeta
