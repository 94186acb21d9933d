import Estafeta.MuteRules

/-!
# The timestamps of requests

A protobuf timestamp may be any pair of an `i64` and an `i32`. `snooze` and `createMuteRule` decode
it in the same way; the one refuses what is no instant, the other takes it for no end. An instant that
the database has no value for fails the statement of either.
-/

open Relational Atomic

namespace Estafeta

/-! ## Instants of timestamps -/

/-- The instant that a timestamp stands for, to the microsecond. -/
def Timestamp.instant (t : Timestamp) : Time := t.seconds.toInt * 1000000 + t.nanos.toInt / 1000

/-- A timestamp is an instant: its seconds are in range, and its nanoseconds are those of a second,
or of a leap second. -/
def Timestamp.Valid (lo hi : ℤ) (t : Timestamp) : Prop :=
  lo ≤ t.seconds.toInt ∧ t.seconds.toInt ≤ hi ∧ 0 ≤ t.nanos.toInt ∧
    (t.nanos.toInt < 1000000000 ∨ t.nanos.toInt < 2000000000 ∧ t.seconds.toInt % 60 = 59)

/-- `DateTime::from_timestamp` is `None` exactly when the seconds are out of range, or the
nanoseconds are not those of a second or a leap second. -/
def Ext.Chrono (ext : Ext) (lo hi : ℤ) : Prop := ∀ (s : Int64) (n : UInt32),
  ext.fromTimestamp s n =
    if lo ≤ s.toInt ∧ s.toInt ≤ hi ∧
      (n.toNat < 1000000000 ∨ n.toNat < 2000000000 ∧ s.toInt % 60 = 59) then
      some (s.toInt * 1000000 + n.toNat / 1000) else none

section

variable {ext : Ext} {lo hi : ℤ} {t : Timestamp}

/-- As a `u32`, a negative `i32` is far above the nanoseconds of a second. -/
theorem toNat_toUInt32 (n : Int32) :
    (n.toUInt32.toNat : ℤ) = if 0 ≤ n.toInt then n.toInt else n.toInt + 2 ^ 32 := by
  have signed : n.toInt = n.toBitVec.toInt := rfl
  have unsigned : n.toUInt32.toNat = n.toBitVec.toNat := rfl
  have bits := n.toBitVec.isLt
  rw [signed, unsigned, BitVec.toInt_eq_toNat_cond]
  split <;> split <;> omega

instance : Decidable (t.Valid lo hi) := inferInstanceAs (Decidable (_ ∧ _ ∧ _ ∧ _))

theorem decode_eq (chrono : ext.Chrono lo hi) (t : Timestamp) :
    t.decode ext = if t.Valid lo hi then some t.instant else none := by
  have unsigned := toNat_toUInt32 t.nanos
  have := t.nanos.le_toInt
  have := t.nanos.toInt_lt
  unfold Timestamp.decode Timestamp.Valid Timestamp.instant
  rw [chrono]
  by_cases positive : 0 ≤ t.nanos.toInt
  · rw [if_pos positive] at unsigned
    exact if_congr (by omega) (congrArg some (by omega)) rfl
  · rw [if_neg positive] at unsigned
    exact (if_neg (by omega)).trans (if_neg (by omega)).symm

theorem decode_eq_some (chrono : ext.Chrono lo hi) {u : Time} (decoded : t.decode ext = some u) :
    t.Valid lo hi ∧ u = t.instant := by
  rw [decode_eq chrono] at decoded
  split at decoded
  next valid =>
    cases decoded
    exact ⟨valid, rfl⟩
  next => cases decoded

theorem bind_decode (chrono : ext.Chrono lo hi) {given : Option Timestamp} (sent : given = some t) :
    (given.bind fun t => t.decode ext) = if t.Valid lo hi then some t.instant else none := by
  rw [sent]
  exact decode_eq chrono t

theorem toTimestamp_instant (valid : t.Valid lo hi) :
    (toTimestamp t.instant).map Timestamp.instant = some t.instant := by
  obtain ⟨_, _, nonneg, range⟩ := valid
  have := t.seconds.le_toInt
  have := t.seconds.toInt_lt
  -- the second after a leap second cannot be the first one beyond the range of an `i64`
  have seconds : (Int64.ofInt (t.instant / 1000000)).toInt = t.instant / 1000000 := by
    apply Int64.toInt_ofInt_of_le <;> unfold Timestamp.instant <;> omega
  have nanos : (Int32.ofInt (t.instant % 1000000 * 1000)).toInt = t.instant % 1000000 * 1000 := by
    apply Int32.toInt_ofInt_of_le <;> omega
  refine congrArg some ?_
  show (Int64.ofInt _).toInt * 1000000 + (Int32.ofInt _).toInt / 1000 = _
  rw [seconds, nanos]
  omega

end

/-! ## What is stored -/

/-- An event gives a notification or a rule an end, or none. -/
inductive Sets (e : Event Call Op Op.Ans World Choice) : Option Time → Prop where
  | notification {r : NotificationRow} : r ∈ e.after.db.notifications.rows →
    r ∉ e.before.db.notifications.rows → Sets e r.snoozedUntil
  | rule {r : MuteRuleRow} : r ∈ e.after.db.muteRules.rows → r ∉ e.before.db.muteRules.rows →
    Sets e r.mutedUntil

/-- The ends that an event stores are the instant of a timestamp, and are read back as it. -/
def Keeps (t : Timestamp) (e : Event Call Op Op.Ans World Choice) : Prop :=
  ∀ u, Sets e u → u = some t.instant ∧ (optTimestamp u).map Timestamp.instant = some t.instant

/-- For a thread, the database runs all statements but those that bind an instant which it has no
value for. -/
def DatabaseRuns (es : History) (i : ℕ) : Prop :=
  ∀ (q : Sql) (e : DbError), ⟨.sql q, .error e⟩ ∈ doneBy es i → q.instants.all inTimestamptz = false

/-- The call of a thread has treated a timestamp well: it has been refused as an invalid argument and
has written nothing, or it has returned, and has stored the instant. -/
def Treated (es : History) (i : ℕ) (k : Program Failure Outcome) (t : Timestamp) : Prop :=
  (∃ s, k = .fail (.status s) ∧ s.code = .invalidArgument ∧
    ∀ e ∈ es, e.tid = i → e.after.db = e.before.db) ∨
  (∃ a, k = .ret a) ∧ Binding (doneBy es i) [t.instant] ∧ ∀ e ∈ es, e.tid = i → Keeps t e

section

variable {ext : Ext} {lo hi : ℤ} {t : Timestamp} {w₀ : World} {es : History} {p : State}
  {e : Event Call Op Op.Ans World Choice} {i : ℕ}

theorem snooze_exec (ext : Ext) (x : Choice) (w : World) (userId : String) (id : Uuid)
    (until_ : Time) :
    let after := (exec ext x (.sql (.notifications (.snooze userId id until_))) w).2.db
    after.muteRules = w.db.muteRules ∧
      ∀ r ∈ after.notifications.rows, r ∈ w.db.notifications.rows ∨ r.snoozedUntil = some until_ := by
  intro after
  rcases execSql_cases ext x (.notifications (.snooze userId id until_)) w with
    ⟨e, failed⟩ | ⟨a, db, ok, done⟩
  · have same : after = w.db := congrArg (fun r => r.2.db) failed
    rw [same]
    exact ⟨rfl, fun r mem => .inl mem⟩
  · have same : after = db := congrArg (fun r => r.2.db) done
    rw [same]
    cases ok
    refine ⟨rfl, fun r mem => ?_⟩
    obtain ⟨s, stored, rfl⟩ := List.mem_map.1 mem
    by_cases snoozed : (Db.Notifications.snooze x.now userId id until_).where_ s = true
    · exact .inr (by rw [show (x.env ext).now = x.now from rfl, if_pos snoozed]; rfl)
    · exact .inl (by rwa [show (x.env ext).now = x.now from rfl, if_neg snoozed])

theorem registry_kept {q : Sql} {env : Env} {db db' : Db} {a : q.Resp} (reads : q.registry = true)
    (ok : q.exec env db = .ok (a, db')) : db' = db := by
  unfold Sql.registry at reads
  split at reads
  · cases ok
    rfl
  · cases ok
    rfl
  · cases reads

theorem Unwritten.kept (run : (system ext).Run (Pool.idle w₀) es p)
    (unwritten : Unwritten (doneBy es i)) (he : e ∈ es) (own : e.tid = i) :
    e.after.db = e.before.db := by
  have mem : e.done ∈ doneBy es i := mem_doneBy.2 ⟨e, he, own, rfl⟩
  obtain ⟨i, c, o, x, w, rfl⟩ := performed run e he
  rcases exec_db_cases ext x o w with same | ⟨q, a, rfl, answered, ok⟩
  · exact same
  · have answer : ((system ext).event i c (.sql q) x w).done = ⟨.sql q, .ok a⟩ :=
      congrArg (Sigma.mk (Op.sql q)) answered
    exact registry_kept (unwritten q a (answer ▸ mem)) ok

theorem keeps_snoozed (chrono : ext.Chrono lo hi) (run : (system ext).Run (Pool.idle w₀) es p)
    (he : e ∈ es) {inst : ℕ} {extensions : Option AuthClaims} {req : SnoozeRequest}
    (call : e.call = .rpc inst extensions (.snooze req)) (given : req.snoozeUntil = some t) :
    t.Valid lo hi ∧ Keeps t e := by
  obtain ⟨pre, post, split⟩ := List.append_of_mem he
  have decoding : e.call.Decoding ext (doneBy pre e.tid) e.op :=
    (run.recorded (body_decodes ext)).1 pre e post split
  obtain ⟨i, c, o, x, w, rfl⟩ := performed run e he
  change c = _ at call
  subst call
  cases decoding with
  | @mk userId id t' until_ given' decoded =>
    obtain rfl := Option.some.inj (given.symm.trans given')
    obtain ⟨valid, rfl⟩ := decode_eq_some chrono decoded
    obtain ⟨rules, rows⟩ := snooze_exec ext x w userId id t.instant
    refine ⟨valid, ?_⟩
    rintro u (⟨stored, fresh⟩ | ⟨stored, fresh⟩)
    · rw [(rows _ stored).resolve_left fresh]
      exact ⟨rfl, toTimestamp_instant valid⟩
    · exact absurd (rules ▸ stored) fresh

theorem refused_snooze (chrono : ext.Chrono lo hi) (run : (system ext).Run (Pool.idle w₀) es p)
    {inst : ℕ} {claims : AuthClaims} {req : SnoozeRequest} {k : Program Failure Outcome}
    (thread : p.threads i = some (.rpc inst (some claims) (.snooze req), k))
    (given : req.snoozeUntil = some t) (invalid : ¬ t.Valid lo hi) :
    ∃ s, k = .fail (.status s) ∧ s.code = .invalidArgument := by
  have none := (bind_decode chrono given).trans (if_neg invalid)
  have left := (run.recorded (body_decodes ext)).2.2 i _ k thread
  cases k with
  | ret a =>
    obtain ⟨u, decoded, -⟩ := left
    cases none.symm.trans decoded
  | fail f =>
    cases f with
    | status s =>
      obtain ⟨code, -⟩ | ⟨-, -, -, valid⟩ := left.1 (Option.some_ne_none _)
      · exact ⟨s, rfl, code⟩
      · exact absurd none valid
    | error e => exact left.elim
  | call o k =>
    cases left.1 with
    | mk given' decoded =>
      rw [given', Option.bind_some, decoded] at none
      cases none

/-- The end of a rule that has been stored is what its timestamp has been decoded into. -/
theorem keeps_muted (chrono : ext.Chrono lo hi) (run : (system ext).Run (Pool.idle w₀) es p)
    (he : e ∈ es) {req : CreateMuteRuleRequest} {row : MuteRuleRow} (stores : StoresRule req e row)
    (given : req.mutedUntil = some t) :
    (Keeps t e ↔ t.Valid lo hi) ∧ (¬ t.Valid lo hi → row.mutedUntil = none) := by
  obtain ⟨pre, post, split⟩ := List.append_of_mem he
  obtain ⟨-, end_, notifications, rows⟩ := stores.decodes run split
  rw [given, Option.bind_some, decode_eq chrono] at end_
  have stored : row ∈ e.after.db.muteRules.rows := by simp [rows]
  have fresh : row ∉ e.before.db.muteRules.rows := by
    intro mem
    have distinct := rows ▸ e.after.db.muteRules.unique
    exact (List.pairwise_append.1 distinct).2.2 row mem row (List.mem_singleton_self _) row.id
      (.head _) (.head _)
  refine ⟨⟨fun keeps => ?_, fun valid => ?_⟩, fun invalid => by rw [end_, if_neg invalid]⟩
  · by_contra invalid
    obtain ⟨same, -⟩ := keeps _ (.rule stored fresh)
    rw [end_, if_neg invalid] at same
    cases same
  · rintro u (⟨stored', fresh'⟩ | ⟨stored', fresh'⟩)
    · exact absurd (notifications ▸ stored') fresh'
    · rw [rows] at stored'
      rcases List.mem_append.1 stored' with old | new
      · exact absurd old fresh'
      · rw [List.mem_singleton.1 new, end_, if_pos valid]
        exact ⟨rfl, toTimestamp_instant valid⟩

theorem keeps_of_kept (same : e.after.db = e.before.db) : Keeps t e := by
  rintro u (⟨stored, fresh⟩ | ⟨stored, fresh⟩)
  · exact absurd (same ▸ stored) fresh
  · exact absurd (same ▸ stored) fresh

theorem keeps_creating (chrono : ext.Chrono lo hi) (run : (system ext).Run (Pool.idle w₀) es p)
    (he : e ∈ es) {inst : ℕ} {extensions : Option AuthClaims} {req : CreateMuteRuleRequest}
    (call : e.call = .rpc inst extensions (.createMuteRule req)) (given : req.mutedUntil = some t)
    (valid : t.Valid lo hi) : Keeps t e := by
  obtain ⟨pre, post, split⟩ := List.append_of_mem he
  have decoding : e.call.Decoding ext (doneBy pre e.tid) e.op :=
    (run.recorded (body_decodes ext)).1 pre e post split
  obtain ⟨i, c, o, x, w, rfl⟩ := performed run e he
  change c = _ at call
  subst call
  rcases exec_db_cases ext x o w with same | ⟨q, a, rfl, answered, ok⟩
  · exact keeps_of_kept same
  · cases decoding with
    | reads registry => exact keeps_of_kept (registry_kept registry ok)
    | stores decodes =>
      have stores : StoresRule req ((system ext).event i _ _ x w) a :=
        ⟨inst, extensions, _, _, _, _, rfl, congrArg (Sigma.mk (Op.sql _)) answered⟩
      exact ((keeps_muted chrono run he stores given).1).2 valid

/-- The call is one that decodes a timestamp. -/
def Call.stamped : Call → Bool
  | .rpc _ _ (.snooze _) => true
  | .rpc _ _ (.createMuteRule _) => true
  | _ => false

/-- A statement that is answered binds no instant which the database has no value for. -/
theorem Binding.bound {instants : List Time} (run : (system ext).Run (Pool.idle w₀) es p)
    (binding : Binding (doneBy es i) instants) : instants.all inTimestamptz = true := by
  obtain ⟨q, a, mem, rfl⟩ := binding
  obtain ⟨e, he, -, done⟩ := mem_doneBy.1 mem
  obtain ⟨j, c, o, x, w, rfl⟩ := performed run e he
  obtain rfl : o = .sql q := congrArg Sigma.fst done
  obtain ⟨-, answer⟩ := Sigma.mk.inj done
  have answer : (execSql ext x q w).1 = .ok a := eq_of_heq answer
  cases bound : q.instants.all inTimestamptz with
  | true => rfl
  | false =>
    unfold execSql at answer
    rw [bound] at answer
    split at answer <;> cases answer

theorem refused_kept {c : Call} {f : Failure} (run : (system ext).Run (Pool.idle w₀) es p)
    (thread : p.threads i = some (c, .fail f)) (stamped : c.stamped = true) (he : e ∈ es)
    (own : e.tid = i) : e.after.db = e.before.db := by
  have refused := (run.recorded (body_decodes ext)).2.2 i c _ thread
  have unwritten : Unwritten (doneBy es i) := by
    unfold Call.stamped at stamped
    split at stamped
    · cases f with
      | status s => exact refused.2
      | error e => exact refused.elim
    · cases f with
      | status s => exact refused.2
      | error e => exact refused.elim
    · cases stamped
  exact unwritten.kept run he own

/-- What a thread has performed is what its call decodes its request for. -/
theorem decoding_of_done {c : Call} {k : Program Failure Outcome} {o : Op} {a : o.Ans}
    (run : (system ext).Run (Pool.idle w₀) es p) (thread : p.threads i = some (c, k))
    (mem : ⟨o, a⟩ ∈ doneBy es i) : ∃ h, c.Decoding ext h o := by
  obtain ⟨e, he, own, done⟩ := mem_doneBy.1 mem
  obtain ⟨pre, post, split⟩ := List.append_of_mem he
  have decoding : e.call.Decoding ext (doneBy pre e.tid) e.op :=
    (run.recorded (body_decodes ext)).1 pre e post split
  rw [call_of_thread run thread he own, show e.op = o from congrArg Sigma.fst done] at decoding
  exact ⟨_, decoding⟩

theorem Snoozing.binds {req : SnoozeRequest} {h : Record} {q : Sql}
    (snoozing : Snoozing ext req h (.sql q)) :
    q.instants = (req.snoozeUntil.bind fun t => t.decode ext).toList := by
  cases snoozing with
  | mk given decoded =>
    rw [given, Option.bind_some, decoded]
    rfl

theorem Creating.binds {req : CreateMuteRuleRequest} {h : Record} {q : Sql}
    (creating : Creating ext req h (.sql q)) :
    q.instants = [] ∨ q.instants = (req.mutedUntil.bind fun t => t.decode ext).toList := by
  cases creating with
  | reads registry =>
    unfold Sql.registry at registry
    split at registry
    · exact .inl rfl
    · exact .inl rfl
    · cases registry
  | stores => exact .inr rfl

theorem not_treated {s : Status} (other : s.code ≠ .invalidArgument) :
    ¬ Treated es i (.fail (.status s)) t := by
  rintro (⟨s', same, code, -⟩ | ⟨⟨a, same⟩, -⟩)
  · cases same
    exact other code
  · cases same

theorem all_inTimestamptz {u : Time} : [u].all inTimestamptz = true ↔ inTimestamptz u = true := by
  rw [List.all_cons, List.all_nil, Bool.and_true]

theorem treated_snooze (chrono : ext.Chrono lo hi) (run : (system ext).Run (Pool.idle w₀) es p)
    {inst : ℕ} {claims : AuthClaims} {req : SnoozeRequest} {k : Program Failure Outcome}
    (thread : p.threads i = some (.rpc inst (some claims) (.snooze req), k)) (ended : k.Done)
    (given : req.snoozeUntil = some t) (runs : DatabaseRuns es i) :
    Treated es i k t ↔ ext.parseUuid req.notificationId = none ∨ ¬ t.Valid lo hi ∨
      inTimestamptz t.instant = true := by
  have left := (run.recorded (body_decodes ext)).2.2 i _ k thread
  have decoding := bind_decode chrono given
  cases k with
  | call o k => exact ended.elim
  | ret a =>
    obtain ⟨u, decoded, binding⟩ := left
    rw [decoding] at decoded
    split at decoded
    next valid =>
      cases decoded
      have bound := (all_inTimestamptz).1 (binding.bound run)
      refine iff_of_true (.inr ⟨⟨a, rfl⟩, binding, fun e he own => ?_⟩) (.inr (.inr bound))
      exact (keeps_snoozed chrono run he (call_of_thread run thread he own) given).2
    next => cases decoded
  | fail f =>
    cases f with
    | error e => exact left.elim
    | status s =>
      have kept : ∀ e ∈ es, e.tid = i → e.after.db = e.before.db := fun e he own =>
        refused_kept run thread rfl he own
      obtain ⟨code, invalid⟩ | ⟨code, ⟨q, e, failed⟩, parsed, valid⟩ :=
        left.1 (Option.some_ne_none _)
      · refine iff_of_true (.inl ⟨s, rfl, code, kept⟩) ?_
        rw [decoding] at invalid
        by_cases valid : t.Valid lo hi
        · rw [if_pos valid] at invalid
          exact .inl (not_not.1 fun parsed => invalid ⟨parsed, Option.some_ne_none _⟩)
        · exact .inr (.inl valid)
      · rw [decoding] at valid
        have instant : t.Valid lo hi := by
          by_contra invalid
          exact valid (if_neg invalid)
        obtain ⟨h, snoozing⟩ := decoding_of_done run thread failed
        have binds := snoozing.binds
        rw [decoding, if_pos instant] at binds
        have beyond : ¬ inTimestamptz t.instant = true := by
          rw [← all_inTimestamptz, ← Option.toList_some, ← binds, runs q e failed]
          exact Bool.false_ne_true
        refine iff_of_false (not_treated (code ▸ nofun)) ?_
        rintro (unparsed | invalid | inside)
        · exact parsed unparsed
        · exact invalid instant
        · exact beyond inside

theorem treated_mute (chrono : ext.Chrono lo hi) (run : (system ext).Run (Pool.idle w₀) es p)
    {inst : ℕ} {claims : AuthClaims} {req : CreateMuteRuleRequest} {k : Program Failure Outcome}
    (thread : p.threads i = some (.rpc inst (some claims) (.createMuteRule req), k)) (ended : k.Done)
    (given : req.mutedUntil = some t) (runs : DatabaseRuns es i)
    (found : ∀ s, k = .fail (.status s) → s.code ≠ .notFound) :
    Treated es i k t ↔ t.Valid lo hi ∧ inTimestamptz t.instant = true := by
  have left := (run.recorded (body_decodes ext)).2.2 i _ k thread
  have decoding := bind_decode chrono given
  -- whatever binds the instant is the statement that stores the rule
  have stores : ∀ (q : Sql) (a : Except DbError q.Resp), ⟨.sql q, a⟩ ∈ doneBy es i →
      q.instants ≠ [] → t.Valid lo hi ∧ q.instants = [t.instant] := by
    intro q a mem binds
    obtain ⟨h, creating⟩ := decoding_of_done run thread mem
    have decoded := creating.binds.resolve_left binds
    rw [decoding] at decoded
    split at decoded
    next valid => exact ⟨valid, decoded⟩
    next => exact absurd decoded binds
  cases k with
  | call o k => exact ended.elim
  | ret a =>
    refine ⟨fun treated => ?_, fun ⟨valid, inside⟩ => .inr ⟨⟨a, rfl⟩, ?_, fun e he own => ?_⟩⟩
    · obtain ⟨s, same, -⟩ | ⟨-, binding, -⟩ := treated
      · cases same
      · obtain ⟨q, b, mem, binds⟩ := id binding
        have valid := (stores q _ mem (binds ▸ List.cons_ne_nil _ _)).1
        exact ⟨valid, (all_inTimestamptz).1 (binding.bound run)⟩
    · have binding : Binding (doneBy es i) _ := left
      rw [decoding, if_pos valid] at binding
      exact binding
    · exact keeps_creating chrono run he (call_of_thread run thread he own) given valid
  | fail f =>
    cases f with
    | error e => exact left.elim
    | status s =>
      obtain missing | ⟨code, ⟨q, e, failed⟩⟩ := left.1 (Option.some_ne_none _)
      · exact absurd missing (found s rfl)
      · refine iff_of_false (not_treated (code ▸ nofun)) fun ⟨valid, inside⟩ => ?_
        have beyond := runs q e failed
        by_cases binds : q.instants = []
        · rw [binds] at beyond
          cases beyond
        · rw [(stores q _ failed binds).2, all_inTimestamptz.2 inside] at beyond
          cases beyond

/-- A snoozed notification carries the instant that was given, and a timestamp that is none is
refused. A mute rule carries the instant that was given just if it is one; otherwise it has no end. A
request that is refused writes nothing. If the database runs the statements, a snooze treats its
timestamp well unless that is an instant which the database has no value for, and a mute rule only if
it is an instant that the database has a value for. -/
theorem deadlines_kept (chrono : ext.Chrono lo hi) (run : (system ext).Run (Pool.idle w₀) es p) :
    (∀ e ∈ es, ∀ inst extensions req t, e.call = .rpc inst extensions (.snooze req) →
      req.snoozeUntil = some t → t.Valid lo hi ∧ Keeps t e) ∧
    (∀ i inst claims req t k, p.threads i = some (.rpc inst (some claims) (.snooze req), k) →
      req.snoozeUntil = some t → ¬ t.Valid lo hi →
      ∃ s, k = .fail (.status s) ∧ s.code = .invalidArgument) ∧
    (∀ e ∈ es, ∀ req row t, StoresRule req e row → req.mutedUntil = some t →
      (Keeps t e ↔ t.Valid lo hi) ∧ (¬ t.Valid lo hi → row.mutedUntil = none)) ∧
    (∀ i c f, p.threads i = some (c, .fail f) → c.stamped = true → ∀ e ∈ es, e.tid = i →
      e.after.db = e.before.db) ∧
    (∀ i inst claims req t k, p.threads i = some (.rpc inst (some claims) (.snooze req), k) → k.Done →
      req.snoozeUntil = some t → DatabaseRuns es i → (Treated es i k t ↔
        ext.parseUuid req.notificationId = none ∨ ¬ t.Valid lo hi ∨ inTimestamptz t.instant = true)) ∧
    ∀ i inst claims req t k, p.threads i = some (.rpc inst (some claims) (.createMuteRule req), k) →
      k.Done → req.mutedUntil = some t → DatabaseRuns es i →
      (∀ s, k = .fail (.status s) → s.code ≠ .notFound) →
      (Treated es i k t ↔ t.Valid lo hi ∧ inTimestamptz t.instant = true) :=
  ⟨fun _ he _ _ _ _ call given => keeps_snoozed chrono run he call given,
    fun _ _ _ _ _ _ thread given invalid => refused_snooze chrono run thread given invalid,
    fun _ he _ _ _ stores given => keeps_muted chrono run he stores given,
    fun _ _ _ thread stamped _ he own => refused_kept run thread stamped he own,
    fun _ _ _ _ _ _ thread ended given runs =>
      treated_snooze chrono run thread ended given runs,
    fun _ _ _ _ _ _ thread ended given runs found =>
      treated_mute chrono run thread ended given runs found⟩

end

namespace Sample

/-- Third-party functions with the `DateTime::from_timestamp` of `chrono`. -/
def chronoExt : Ext :=
  { ext with
    fromTimestamp := fun s n =>
      if -8334601228800 ≤ s.toInt ∧ s.toInt ≤ 8210266876799 ∧
        (n.toNat < 1000000000 ∨ n.toNat < 2000000000 ∧ s.toInt % 60 = 59) then
        some (s.toInt * 1000000 + n.toNat / 1000) else none }

theorem chrono_chronoExt : chronoExt.Chrono (-8334601228800) 8210266876799 := fun _ _ => rfl

/-- `ann` mutes everything until a timestamp. -/
def mutesUntil (t : Timestamp) : List (Action Call Choice) :=
  [.start 0 (.rpc 0 (some ann) (.createMuteRule ⟨"", "", some t⟩)), .step 0 choice]

/-- Perform this. -/
def mutedUntil (t : Timestamp) : State × History :=
  ((system chronoExt).perform (Pool.idle (world .empty [])) (mutesUntil t)).getD
    (Pool.idle (world .empty []), [])

theorem run_mutedUntil (t : Timestamp) : (system chronoExt).Run (Pool.idle (world .empty []))
    (mutedUntil t).2 (mutedUntil t).1 := by
  have performed : (system chronoExt).perform (Pool.idle (world .empty [])) (mutesUntil t) =
      some (mutedUntil t) := rfl
  exact System.run_of_perform performed

/-- The rule that is stored. -/
def ruleUntil (t : Timestamp) : MuteRuleRow := { everyRule with mutedUntil := t.decode chronoExt }

theorem stores_mutedUntil {t : Timestamp}
    (bound : (t.decode chronoExt).toList.all inTimestamptz = true) :
    ∃ e ∈ (mutedUntil t).2, StoresRule ⟨"", "", some t⟩ e (ruleUntil t) :=
  ⟨_, .head _, 0, some ann, "ann", none, none, t.decode chronoExt, rfl,
    congrArg (Sigma.mk (Op.sql _)) (congrArg Prod.fst (execSql_of_ok (q := .muteRules
      (.insertMuteRule "ann" none none (t.decode chronoExt))) rfl bound rfl))⟩

end Sample

theorem deadlines_kept_muted :
    (∃ e ∈ (Sample.mutedUntil ⟨60, 500⟩).2, Keeps ⟨60, 500⟩ e) ∧
      (∃ c k, (Sample.mutedUntil ⟨60, 500⟩).1.threads 0 = some (c, k) ∧
        Treated (Sample.mutedUntil ⟨60, 500⟩).2 0 k ⟨60, 500⟩) ∧
      ∃ c k, (Sample.mutedUntil ⟨-300000000000, 0⟩).1.threads 0 = some (c, k) ∧
        ¬ Treated (Sample.mutedUntil ⟨-300000000000, 0⟩).2 0 k ⟨-300000000000, 0⟩ := by
  obtain ⟨e, he, stores⟩ := Sample.stores_mutedUntil (t := ⟨60, 500⟩) rfl
  obtain ⟨-, -, rules, -, -, treats⟩ :=
    deadlines_kept Sample.chrono_chronoExt (Sample.run_mutedUntil ⟨60, 500⟩)
  obtain ⟨-, -, -, -, -, treats'⟩ :=
    deadlines_kept Sample.chrono_chronoExt (Sample.run_mutedUntil ⟨-300000000000, 0⟩)
  refine ⟨⟨e, he, (rules e he _ _ ⟨60, 500⟩ stores rfl).1.2 (by decide)⟩, ⟨_, _, rfl, ?_⟩, _, _, rfl,
    ?_⟩
  · refine (treats 0 0 Sample.ann _ ⟨60, 500⟩ _ rfl trivial rfl (fun q e failed => ?_)
      fun s same => by cases same).2 (by decide)
    obtain ⟨same, answer⟩ := Sigma.mk.inj (List.mem_singleton.1 failed)
    cases same
    cases answer
  · refine fun treated => absurd ((treats' 0 0 Sample.ann _ ⟨-300000000000, 0⟩ _ rfl trivial rfl
      (fun q e failed => ?_) fun s same => ?_).1 treated) (by decide)
    · obtain ⟨same, -⟩ := Sigma.mk.inj (List.mem_singleton.1 failed)
      cases same
      rfl
    · cases same
      exact Code.noConfusion

/-- A timestamp with negative nanoseconds makes a rule without an end. -/
theorem not_deadlines_kept : ¬ ∀ (ext : Ext) (lo hi : ℤ) (w₀ : World) (es : History) (p : State)
    (e : Event Call Op Op.Ans World Choice) (req : CreateMuteRuleRequest) (row : MuteRuleRow)
    (t : Timestamp), ext.Chrono lo hi → (system ext).Run (Pool.idle w₀) es p → e ∈ es →
    StoresRule req e row → req.mutedUntil = some t → Keeps t e ∧ row.mutedUntil ≠ none := by
  intro kept
  obtain ⟨e, he, stores⟩ := Sample.stores_mutedUntil (t := ⟨60, -1⟩) rfl
  obtain ⟨-, ends⟩ := kept _ _ _ _ _ _ e _ _ ⟨60, -1⟩ Sample.chrono_chronoExt
    (Sample.run_mutedUntil ⟨60, -1⟩) he stores rfl
  exact ends (by decide)

end Estafeta
