import Estafeta.Delivery
import Estafeta.Ownership

/-!
# Authorization

Every change that a handler makes is either one of rows of its caller, or was allowed by Keto's last
answer to this very call, which nothing else has used.
-/

open Relational Atomic

namespace Estafeta

/-- Keto's reply has a successful status and a body whose `allowed` is true. -/
def KetoReply.Allows (reply : KetoReply) : Prop :=
  ∃ status body, reply = .reply status (some body) ∧ 200 ≤ status ∧ status < 300 ∧
    body.get? "allowed" = some (.bool true)

theorem allowed_iff {reply : KetoReply} : Keto.allowed reply = .ok true ↔ reply.Allows := by
  have asBool : ∀ v : Option Json, (v.bind Json.asBool?).getD false = true ↔ v = some (.bool true) := by
    intro v
    rcases v with _ | v
    · simp
    · cases v <;> simp [Json.asBool?]
  rcases reply with _ | ⟨status, body⟩
  · simp [Keto.allowed, KetoReply.Allows]
  · simp only [Keto.allowed, KetoReply.Allows, KetoReply.reply.injEq]
    by_cases success : isSuccess status = true
    · have bounds : 200 ≤ status ∧ status < 300 := by simpa [isSuccess] using success
      rcases body with _ | body
      · simp [success]
      · simp only [success, if_true, Except.ok.injEq, asBool]
        exact ⟨fun h => ⟨status, body, ⟨rfl, rfl⟩, bounds.1, bounds.2, h⟩,
          fun ⟨_, _, ⟨_, same⟩, _, _, h⟩ => by cases same; exact h⟩
    · have bounds : ¬ (200 ≤ status ∧ status < 300) := by simpa [isSuccess] using success
      rw [if_neg success]
      refine iff_of_false (fun h => ?_) ?_
      · split at h <;> cases h
      · rintro ⟨_, _, ⟨rfl, _⟩, low, high, _⟩
        exact bounds ⟨low, high⟩

/-- The operation asks Keto. -/
def Op.asks : Op → Bool
  | .keto _ => true
  | _ => false

/-- The operation can change neither a table nor the stream. -/
def Op.harmless : Op → Bool
  | .sql q => q.reads
  | .publishIngest .. => false
  | _ => true

/-- The operation asks Keto the question, and the answer allows it. -/
def Allowed (check : CheckRequest) : (o : Op) → o.Ans → Prop
  | .keto req, reply => req = check ∧ reply.Allows
  | _, _ => False

/-- The event publishes an ingest message, or has changed a table or the stream. -/
def Writes (e : Event Call Op Op.Ans World Choice) : Prop :=
  (∃ subject msg, e.op = .publishIngest subject msg) ∨ e.after.db ≠ e.before.db ∨
    e.after.stream ≠ e.before.stream

/-- The last answer of Keto to the thread was to this question, and allowed it; the thread has not
changed anything since. -/
def Granted (es : History) (tid : ℕ) (check : CheckRequest) : Prop :=
  ∃ pre k post, es = pre ++ k :: post ∧ k.tid = tid ∧ Allowed check k.op k.ans ∧
    ∀ e ∈ post, e.tid = tid → e.op.asks = false ∧ ¬ Writes e

section Granted

variable {es : History} {tid : ℕ} {check : CheckRequest} {e : Event Call Op Op.Ans World Choice}

theorem Granted.snoc (h : Granted es tid check)
    (quiet : e.tid = tid → e.op.asks = false ∧ ¬ Writes e) : Granted (es ++ [e]) tid check := by
  obtain ⟨pre, k, post, rfl, same, allowed, since⟩ := h
  refine ⟨pre, k, post ++ [e], by simp, same, allowed, fun e' he => ?_⟩
  rcases List.mem_append.1 he with he | he
  · exact since e' he
  · obtain rfl := List.mem_singleton.1 he
    exact quiet

theorem granted_now (same : e.tid = tid) (allowed : Allowed check e.op e.ans) :
    Granted (es ++ [e]) tid check :=
  ⟨es, e, [], rfl, same, allowed, by simp⟩

/-- After an answer that does not allow what was asked, nothing is granted. -/
theorem not_granted {pre mid : History} {k : Event Call Op Op.Ans World Choice}
    (same : k.tid = tid) (asks : k.op.asks = true) (refused : ∀ check, ¬ Allowed check k.op k.ans)
    (since : ∀ e ∈ mid, e.tid = tid → e.op.asks = false) :
    ¬ Granted (pre ++ k :: mid) tid check := by
  rintro ⟨pre', k', post, split, same', allowed, quiet⟩
  have asks' : k'.op.asks = true := by
    unfold Allowed at allowed
    split at allowed
    next h _ => rw [h]; rfl
    next => exact allowed.elim
  rcases List.append_eq_append_iff.1 split with ⟨l, rfl, h⟩ | ⟨l, rfl, h⟩
  · rcases l with _ | ⟨e, l⟩
    · cases h
      exact refused check allowed
    · cases h
      have := since k' (by simp) same'
      rw [asks'] at this
      cases this
  · rcases l with _ | ⟨e, l⟩
    · cases h
      exact refused check allowed
    · cases h
      have := (quiet k (by simp) same).1
      rw [asks] at this
      cases this

end Granted

/-! ## One operation -/

section

variable {ext : Ext} {x : Choice} {w : World}

theorem execSql_reads {q : Sql} (reads : q.reads = true) : (execSql ext x q w).2 = w := by
  rcases execSql_cases ext x q w with ⟨e, failed⟩ | ⟨a, db, ok, answered⟩
  · rw [failed]
  · rw [answered, reads_exec reads ok]

theorem execSql_owner {q : Sql} {userId : String} (owned : q.owner = some userId) :
    w.db.OnlyRowsOf userId (execSql ext x q w).2.db := by
  rcases execSql_cases ext x q w with ⟨e, failed⟩ | ⟨a, db, ok, answered⟩
  · rw [failed]
    exact .refl _ _
  · rw [answered]
    exact owner_exec owned ok

theorem not_writes {i : ℕ} {c : Call} {o : Op} (harmless : o.harmless = true) :
    ¬ Writes ((system ext).event i c o x w) := by
  have same : (exec ext x o w).2.db = w.db ∧ (exec ext x o w).2.stream = w.stream := by
    cases o with
    | sql q =>
      have unchanged : (exec ext x (.sql q) w).2 = w := execSql_reads harmless
      exact ⟨by rw [unchanged], by rw [unchanged]⟩
    | publishIngest => cases harmless
    | publish | ack =>
      simp only [exec]
      split <;> exact ⟨rfl, rfl⟩
    | _ => exact ⟨rfl, rfl⟩
  rintro (⟨subject, msg, h⟩ | changed | changed)
  · cases h
    cases harmless
  · exact changed same.1
  · exact changed same.2

end

/-! ## Runs -/

theorem rpc_of_phase {c : Call} {s : Phase} {o : Op} {a : o.Ans} {granted : Option CheckRequest}
    (permitted : c.monitor.may s o) (h : c.monitor.next s o a = .rpc granted) :
    ∃ inst extensions r before, c = .rpc inst extensions r ∧ s = .rpc before ∧
      granted = Rpc.next before o a := by
  cases c with
  | rpc inst extensions r =>
    cases s with
    | rpc before =>
      cases h
      exact ⟨inst, extensions, r, before, rfl, rfl, rfl⟩
    | _ => exact permitted.elim
  | processor inst seq =>
    have step := processor_step permitted a
    simp only [Call.monitor] at h
    rw [h] at step
    rcases step with ⟨_, _, _, _, h⟩ | ⟨_, _, _, _, _, h⟩ | ⟨_, _, _, _, _, _, _, h⟩ |
      ⟨_, _, _, _, _, _, _, h⟩ | ⟨_, _, _, h⟩ | ⟨_, _, _, h⟩ <;> cases h
  | snoozeWake | ttlExpiry =>
    simp only [Call.monitor, sweepMonitor] at h
    split at h <;> cases h
  | escalation =>
    simp only [Call.monitor, escalationMonitor] at h
    split at h <;> cases h

/-- What is granted after an operation has just been answered, or was granted before and is still
unused. -/
theorem granted_next {before : Option CheckRequest} {check : CheckRequest} {o : Op} {a : o.Ans}
    (h : Rpc.next before o a = some check) :
    Allowed check o a ∨ before = some check ∧ o.asks = false ∧ o.harmless = true := by
  cases o with
  | keto req =>
    simp only [Rpc.next] at h
    split at h
    next allowed =>
      cases h
      exact .inl ⟨rfl, allowed_iff.1 allowed⟩
    next => cases h
  | sql q =>
    simp only [Rpc.next] at h
    split at h
    next reads => exact .inr ⟨h, rfl, reads⟩
    next => cases h
  | publishIngest => cases h
  | _ => exact .inr ⟨h, rfl, rfl⟩

variable {ext : Ext} {w₀ w : World} {es : History} {p : State} {g : ℕ → Option (Call × Phase)}

/-- What a handler holds as granted was granted to its thread. -/
theorem granted_of_phase (run : Phased ext w₀ es w g) : ∀ i c s, g i = some (c, s) →
    ∀ check, s = .rpc (some check) → Granted es i check := by
  refine run.local (fun es _ i _ s => ∀ check, s = .rpc (some check) → Granted es i check)
    ?_ ?_ ?_
  · rintro es w g i c _ _ check h
    cases c <;> cases h
  · intro es w g i c s o x _ _ permitted held check h
    obtain ⟨inst, extensions, r, before, rfl, rfl, after⟩ := rpc_of_phase permitted h
    rcases granted_next after.symm with allowed | ⟨rfl, silent, harmless⟩
    · exact granted_now rfl allowed
    · exact (held check rfl).snoc fun _ => ⟨silent, not_writes harmless⟩
  · intro es w g i c s j c' s' o x _ _ apart _ _ held check h
    exact (held check h).snoc fun same => absurd same apart

theorem not_personal_of_asks {inst : ℕ} {extensions : Option AuthClaims} {r : Rpc} {s : Phase}
    {o : Op} (permitted : (Call.rpc inst extensions r).monitor.may s o) (asks : o.asks = true) :
    r.personal = false := by
  cases s with
  | rpc granted =>
    rcases permitted with ⟨q, rfl, _⟩ | ⟨_, q, c, rfl, _⟩ | ⟨other, _⟩
    · cases asks
    · cases asks
    · exact other
  | _ => exact permitted.elim

/-- What a handler writes is its caller's, or was granted to it by Keto. -/
theorem written (run : Phased ext w₀ es w g) {pre post : History}
    {e : Event Call Op Op.Ans World Choice} (split : es = pre ++ e :: post) {inst : ℕ}
    {extensions : Option AuthClaims} {r : Rpc} (call : e.call = .rpc inst extensions r)
    (writes : Writes e) :
    ∃ c, extensions = some c ∧
      (r.personal = true ∧ (∃ q, e.op = .sql q) ∧ e.before.db.OnlyRowsOf c.subject e.after.db ∨
        ∃ check, Rpc.Privileged c.subject r e.op check ∧ Granted pre e.tid check) := by
  subst split
  obtain ⟨g', i, c, s, o, x, w', rfl, run', at_call, permitted, _⟩ := run.at
  cases call
  have harmful : ¬ o.harmless = true := fun harmless => not_writes harmless writes
  cases s with
  | rpc granted =>
    rcases permitted with ⟨q, rfl, registry⟩ | ⟨mine, q, c, rfl, subject, owned⟩ |
      ⟨_, ⟨q, rfl, reads⟩ | rfl | ⟨_, _, _, rfl⟩ | ⟨_, rfl⟩ | ⟨c, check, subject, privileged, rfl⟩⟩
    · exact absurd (Rpc.registry_reads registry) harmful
    · exact ⟨c, subject, .inl ⟨mine, ⟨q, rfl⟩, execSql_owner owned⟩⟩
    · exact absurd reads harmful
    · exact absurd rfl harmful
    · exact absurd rfl harmful
    · exact absurd rfl harmful
    · exact ⟨c, subject, .inr ⟨check, privileged, granted_of_phase run' i _ _ at_call check rfl⟩⟩
  | _ => exact permitted.elim

/-- A handler changes only rows of its caller, or what Keto's last answer to this very call has
allowed. -/
def Authorized (es : History) : Prop :=
  ∀ pre e post inst extensions r, es = pre ++ e :: post → e.call = .rpc inst extensions r →
    Writes e → ∃ c, extensions = some c ∧
      ((∃ q, e.op = .sql q) ∧ e.before.db.OnlyRowsOf c.subject e.after.db ∨
        ∃ check, Rpc.Privileged c.subject r e.op check ∧ Granted pre e.tid check)

/-- After an answer of Keto that does not allow what was asked, a handler changes nothing until it
has asked again. -/
def FailsClosed (es : History) : Prop :=
  ∀ pre k mid e post inst extensions r, es = pre ++ k :: (mid ++ e :: post) →
    e.call = .rpc inst extensions r → k.tid = e.tid → k.op.asks = true →
    (∀ check, ¬ Allowed check k.op k.ans) →
    (∀ e' ∈ mid, e'.tid = e.tid → e'.op.asks = false) → ¬ Writes e

/-- In every run, and whatever Keto answers, authorization is complete and fails closed. -/
theorem authorized (run : (system ext).Run (Pool.idle w₀) es p) :
    Authorized es ∧ FailsClosed es := by
  obtain ⟨g, run, _⟩ := phased run
  constructor
  · intro pre e post inst extensions r split call writes
    obtain ⟨c, subject, ⟨_, statement, own⟩ | privileged⟩ := written run split call writes
    · exact ⟨c, subject, .inl ⟨statement, own⟩⟩
    · exact ⟨c, subject, .inr privileged⟩
  · intro pre k mid e post inst extensions r split call same asks refused since writes
    have asked : es = pre ++ k :: mid ++ e :: post := by simp [split]
    obtain ⟨c, _, ⟨personal, _⟩ | ⟨check, _, granted⟩⟩ := written run asked call writes
    · have started : e.call = k.call := by
        obtain ⟨s, hs⟩ := run.started e (by simp [split])
        obtain ⟨s', hs'⟩ := run.started k (by simp [split])
        rw [same, hs] at hs'
        exact congrArg Prod.fst (Option.some.inj hs')
      subst split
      obtain ⟨_, _, c', _, _, _, _, rfl, _, _, permitted, _⟩ := run.at
      rw [call] at started
      obtain rfl : Call.rpc inst extensions r = c' := started
      rw [not_personal_of_asks permitted asks] at personal
      cases personal
    · exact not_granted same asks refused since granted

/-- `ann` marks a notification of `mail` as read, as a producer of `mail`. -/
def Sample.producing : State × History :=
  Sample.played (Sample.world (.single (Sample.notification "unread") Sample.check_unread) [])
    (.start 0 (.rpc 0 (some Sample.ann) (.producerMarkRead ⟨"mail", ["3"], "ann"⟩)) ::
      List.replicate 2 (.step 0 Sample.choice))

theorem authorized_producing : Authorized Sample.producing.2 ∧ FailsClosed Sample.producing.2 :=
  authorized (Sample.run_played rfl)

end Estafeta
