import Estafeta.Auth.Jwks
import Estafeta.Lib.History
import Estafeta.Lib.Refresh

/-!
# Key rotation

Refreshes of the key cache run side by side: the periodic one, and one for each token whose key is
not cached. A refresh that is slow may replace the keys of a newer version by those of an older one
(`not_staysNew`). The cache goes on from one version to a newer one exactly if no refresh is
overtaken by another between its fetch and its installation (`keyRotation`).
-/

open Atomic Refresh

namespace Estafeta

/-- A history of the client and the endpoint. -/
abbrev JwksHistory (Key : Type) :=
  List (Event JwksCall (JwksOp Key) JwksOp.Ans (JwksWorld Key) (Option String))

/-- A state of the client and the endpoint. -/
abbrev JwksState (Key : Type) :=
  Pool JwksCall (JwksOp Key) JwksOp.Ans (JwksWorld Key) JwksFailure (Option AuthClaims)

/-- What a thread has done. -/
abbrev JwksRecord (Key : Type) := List (Σ o : JwksOp Key, o.Ans)

namespace Jwks

section

variable {Key : Type} {jwt : Jwt Key} {issuer : Option String} {versions : ℕ → JwksResponse}
  {w₀ : JwksWorld Key} {es : JwksHistory Key} {p : JwksState Key}

/-! ## What a thread does -/

/-- A thread fetches a key set once, and installs the keys of what it has fetched. -/
def Permits (jwt : Jwt Key) (h : JwksRecord Key) : JwksOp Key → Prop
  | .get => ∀ d ∈ h, d.1 ≠ .get
  | .writeKeys keys => ∃ resp, ⟨.get, .ok resp⟩ ∈ h ∧ keys = JwksClient.keysOf jwt resp
  | _ => True

/-- The key of the token's `kid` verifies the token. -/
def Verifies (jwt : Jwt Key) (issuer : Option String) (token : String) (keys : Keys Key)
    (claims : AuthClaims) : Prop :=
  ∃ kid key json, jwt.decodeHeader token = .ok (some kid) ∧ keys kid = some key ∧
    jwt.decode token key (JwksClient.validation issuer) = .ok json ∧
    claims = AuthClaims.ofJson json

/-- A token is accepted only with keys that have been read. -/
def Accepts (jwt : Jwt Key) (issuer : Option String) (c : JwksCall) (h : JwksRecord Key)
    (a : Option AuthClaims) : Prop :=
  ∀ token claims, c = .validateToken token → a = some claims →
    ∃ keys, ⟨.readKeys, keys⟩ ∈ h ∧ Verifies jwt issuer token keys claims

theorem refresh_permitted {E : JwksRecord Key → String → Prop} {Q : JwksRecord Key → Unit → Prop}
    {h : JwksRecord Key} (first : ∀ d ∈ h, d.1 ≠ .get) (fails : ∀ h e, E h e)
    (returns : ∀ h, Q h ()) :
    (JwksClient.refresh jwt).Obeys (.recording (Permits jwt)) E Q h := by
  refine ⟨first, fun a => ?_⟩
  cases a with
  | error e => exact fails _ e
  | ok resp =>
    exact ⟨⟨resp, List.mem_append_right _ (.head _), rfl⟩, fun _ => returns _⟩

theorem validateToken_permitted (token : String) :
    (JwksClient.validateToken jwt issuer token).Obeys (.recording (Permits jwt))
      (fun _ _ => True) (fun h claims =>
        ∃ keys, ⟨.readKeys, keys⟩ ∈ h ∧ Verifies jwt issuer token keys claims) [] := by
  -- a key that has been read under the `kid`
  have verify : ∀ (h : JwksRecord Key) kid key keys, jwt.decodeHeader token = .ok (some kid) →
      ⟨.readKeys, keys⟩ ∈ h → keys kid = some key →
      (Prog.ofExcept ((jwt.decode token key (JwksClient.validation issuer)).mapError fun e =>
          Status.unauthenticated s!"token validation failed: {e}") >>= fun claims =>
        (.ret (AuthClaims.ofJson claims) : JwksProgram Key Status AuthClaims)).Obeys
        (.recording (Permits jwt)) (fun _ _ => True) (fun h claims =>
          ∃ keys, ⟨.readKeys, keys⟩ ∈ h ∧ Verifies jwt issuer token keys claims) h := by
    intro h kid key keys header read found
    cases verified : jwt.decode token key (JwksClient.validation issuer) with
    | error e => trivial
    | ok json => exact ⟨keys, read, kid, key, json, header, found, verified, rfl⟩
  unfold JwksClient.validateToken
  cases header : jwt.decodeHeader token with
  | error e => trivial
  | ok kid =>
    cases kid with
    | none => trivial
    | some kid =>
      refine ⟨trivial, fun cached => ?_⟩
      have read : ⟨.readKeys, cached⟩ ∈
          (Monitor.recording (Permits jwt)).next [] .readKeys cached :=
        List.mem_append_right _ (.head _)
      dsimp only [Prog.bind]
      cases found : cached kid with
      | some key => exact verify _ kid key cached header read found
      | none =>
        refine (Prog.obeys_bind ..).2 ((Prog.obeys_mapErr ..).2 ?_)
        refine refresh_permitted (by simp [Monitor.recording]) (fun _ _ => trivial) fun h => ?_
        refine ⟨trivial, fun keys => ?_⟩
        dsimp only [Prog.bind]
        cases found : keys kid with
        | none => trivial
        | some key => exact verify _ kid key keys header (List.mem_append_right _ (.head _)) found

theorem body_permitted (c : JwksCall) :
    ((jwksSystem jwt issuer versions).body c).Obeys (.recording (Permits jwt)) (fun _ _ => True)
      (Accepts jwt issuer c) [] := by
  cases c with
  | startup =>
    refine (Prog.obeys_bind ..).2 ((Prog.obeys_mapErr ..).2 ?_)
    exact refresh_permitted (by simp) (fun _ _ => trivial) fun _ _ _ => nofun
  | periodic =>
    refine (Prog.obeys_bind ..).2 ((Prog.obeys_attempt ..).2 ?_)
    exact refresh_permitted (by simp) (fun _ _ _ _ => nofun) fun _ _ _ => nofun
  | validateToken token =>
    refine (Prog.obeys_bind ..).2 ((Prog.obeys_mapErr ..).2 ?_)
    refine (validateToken_permitted token).mono (fun _ _ _ => trivial) ?_
    rintro h claims verified _ _ same same'
    cases same
    cases same'
    exact verified
  | rotate => exact ⟨trivial, fun _ _ _ => nofun⟩

/-! ## Fetches and installations -/

/-- What an event is to the cache: a fetch that has succeeded, or an installation. -/
def stepOf (e : Event JwksCall (JwksOp Key) JwksOp.Ans (JwksWorld Key) (Option String)) :
    Option Step :=
  match e.op, e.ans with
  | .get, .ok _ => some (.fetch e.tid e.before.version)
  | .writeKeys _, _ => some (.install e.tid)
  | _, _ => none

/-- The fetches and installations of a history. -/
def steps (es : JwksHistory Key) : List Step := es.filterMap stepOf

/-- A thread has installed the version that it has fetched. -/
def Installed (es : JwksHistory Key) (n : ℕ) : Prop :=
  ∃ i, .fetch i n ∈ steps es ∧ .install i ∈ steps es

/-- Once a version has been installed, the cached keys are those of it or of a newer one; and a
token whose validation starts then is accepted only with a key of such a version. -/
structure StaysNew (jwt : Jwt Key) (issuer : Option String) (versions : ℕ → JwksResponse)
    (es : JwksHistory Key) (p : JwksState Key) : Prop where
  keys : ∀ pre mid post, es = pre ++ mid ++ post → ∀ n, Installed pre n →
    ∃ m, n ≤ m ∧ (worldAt es p.world (pre ++ mid).length).keys = JwksClient.keysOf jwt (versions m)
  accepts : ∀ pre post, es = pre ++ post → ∀ n, Installed pre n →
    ∀ i token claims, (∀ e ∈ pre, e.tid ≠ i) →
      p.threads i = some (.validateToken token, .ret (some claims)) →
        ∃ m, n ≤ m ∧ Verifies jwt issuer token (JwksClient.keysOf jwt (versions m)) claims

theorem steps_append (es es' : JwksHistory Key) : steps (es ++ es') = steps es ++ steps es' :=
  List.filterMap_append

theorem stepOf_fetch {e : Event JwksCall (JwksOp Key) JwksOp.Ans (JwksWorld Key) (Option String)}
    {i n : ℕ} : stepOf e = some (.fetch i n) ↔
      e.tid = i ∧ e.before.version = n ∧ ∃ resp, e.done = ⟨.get, .ok resp⟩ := by
  obtain ⟨tid, call, op, choice, ans, before, after⟩ := e
  cases op with
  | get =>
    cases ans with
    | error => simp [stepOf, Event.done]
    | ok resp => simp [stepOf, Event.done]
  | _ => simp [stepOf, Event.done]

theorem stepOf_install {e : Event JwksCall (JwksOp Key) JwksOp.Ans (JwksWorld Key) (Option String)}
    {i : ℕ} : stepOf e = some (.install i) ↔ e.tid = i ∧ ∃ keys, e.op = .writeKeys keys := by
  obtain ⟨tid, call, op, choice, ans, before, after⟩ := e
  cases op with
  | get => cases ans <;> simp [stepOf]
  | _ => simp [stepOf]

theorem steps_cons {e : Event JwksCall (JwksOp Key) JwksOp.Ans (JwksWorld Key) (Option String)}
    {s : Step} (step : stepOf e = some s) : steps (e :: es) = s :: steps es :=
  List.filterMap_cons_some step

theorem mem_steps {s : Step} : s ∈ steps es ↔ ∃ e ∈ es, stepOf e = some s := List.mem_filterMap

/-- A step of a history is that of an event, between those before and after it. -/
theorem steps_split {a b : List Step} {s : Step} (split : steps es = a ++ s :: b) :
    ∃ pre e post, es = pre ++ e :: post ∧ steps pre = a ∧ stepOf e = some s ∧ steps post = b := by
  obtain ⟨x, y, rfl, first, rest⟩ := List.filterMap_eq_append_iff.1 split
  obtain ⟨y₁, e, y₂, rfl, none, step, after⟩ := List.filterMap_eq_cons_iff.1 rest
  have skipped : steps y₁ = [] := List.filterMap_eq_nil_iff.2 none
  refine ⟨x ++ y₁, e, y₂, (List.append_assoc ..).symm, ?_, step, after⟩
  rw [steps_append, skipped, List.append_nil]
  exact first

section

variable (run : (jwksSystem jwt issuer versions).Run (Pool.idle w₀) es p)

include run

theorem permitted {pre post : JwksHistory Key} {e}
    (split : es = pre ++ e :: post) : Permits jwt (doneBy pre e.tid) e.op :=
  (run.recorded body_permitted).1 pre e post split

/-- A key set that has been fetched is that of the version that the endpoint had. -/
theorem fetched_version {e} (he : e ∈ es) {resp : JwksResponse} (done : e.done = ⟨.get, .ok resp⟩) :
    resp = versions e.before.version := by
  obtain ⟨pre, post, rfl⟩ := List.append_of_mem he
  obtain ⟨q, i, c, o, k, x, rfl, _⟩ := run.at
  cases o with
  | get =>
    cases x with
    | none =>
      cases done
      rfl
    | some e => cases done
  | _ => cases done

/-- The keys that a thread has read are those that were cached then. -/
theorem read_keys {e} (he : e ∈ es) {keys : Keys Key} (done : e.done = ⟨.readKeys, keys⟩) :
    keys = e.before.keys := by
  obtain ⟨pre, post, rfl⟩ := List.append_of_mem he
  obtain ⟨q, i, c, o, k, x, rfl, _⟩ := run.at
  cases o with
  | readKeys =>
    cases done
    rfl
  | _ => cases done

theorem fetch_of_install {pre post : JwksHistory Key} {e} (split : es = pre ++ e :: post)
    {keys : Keys Key} (op : e.op = .writeKeys keys) :
    ∃ f ∈ pre, stepOf f = some (.fetch e.tid f.before.version) ∧
      keys = JwksClient.keysOf jwt (versions f.before.version) := by
  have permits := permitted run split
  rw [op] at permits
  obtain ⟨resp, received, rfl⟩ := permits
  obtain ⟨f, hf, own, done⟩ := mem_doneBy.1 received
  refine ⟨f, hf, stepOf_fetch.2 ⟨own, rfl, resp, done⟩, ?_⟩
  rw [fetched_version run (split ▸ List.mem_append_left _ hf) done]

theorem fetches_once {e e'} (he : e ∈ es) (he' : e' ∈ es) (own : e.tid = e'.tid) (op : e.op = .get)
    (op' : e'.op = .get) : e = e' := by
  have never : ∀ {a b c : JwksHistory Key} {e e'}, es = a ++ e :: b ++ e' :: c → e.tid = e'.tid →
      e.op = .get → e'.op ≠ .get := by
    intro a b c e e' split own op op'
    have permits := permitted run split
    rw [op'] at permits
    exact permits e.done (mem_doneBy.2 ⟨e, by simp, own, rfl⟩) op
  obtain ⟨a, b, split⟩ := List.append_of_mem he
  rw [split] at he'
  rcases List.mem_append.1 he' with before | after
  · obtain ⟨a₁, a₂, rfl⟩ := List.append_of_mem before
    exact absurd op (never split own.symm op')
  · rcases List.mem_cons.1 after with same | after
    · exact same.symm
    · obtain ⟨b₁, b₂, rfl⟩ := List.append_of_mem after
      have later : es = a ++ e :: b₁ ++ e' :: b₂ := by
        rw [split]
        simp
      exact absurd op' (never later own op)

theorem version_mono {a b c : JwksHistory Key} {e e'} (split : es = a ++ e :: b ++ e' :: c) :
    e.before.version ≤ e'.before.version := by
  subst split
  obtain ⟨q, i, d, o, k, x, rfl, first, _⟩ := run.at
  refine first.since (K := fun w => e.before.version ≤ w.version) ?_ (Nat.le_refl _)
  intro x o w le
  cases o with
  | rotate => exact Nat.le_succ_of_le le
  | _ => exact le

theorem valid_steps : Valid (steps es) where
  forward := by
    intro a i m b j n c split
    obtain ⟨xy, e', z, rfl, first, later, rest⟩ := steps_split split
    obtain ⟨x, e, y, rfl, -, earlier, -⟩ := steps_split first
    obtain ⟨-, rfl, -⟩ := stepOf_fetch.1 earlier
    obtain ⟨-, rfl, -⟩ := stepOf_fetch.1 later
    exact version_mono run rfl
  once := by
    intro i m n first second
    obtain ⟨e, he, step⟩ := mem_steps.1 first
    obtain ⟨e', he', step'⟩ := mem_steps.1 second
    obtain ⟨own, rfl, _, done⟩ := stepOf_fetch.1 step
    obtain ⟨own', rfl, _, done'⟩ := stepOf_fetch.1 step'
    have same : e = e' := fetches_once run he he' (own.trans own'.symm) (congrArg Sigma.fst done)
      (congrArg Sigma.fst done')
    rw [same]
  fetched := by
    intro a i b split
    obtain ⟨x, e, y, rfl, rfl, step, -⟩ := steps_split split
    obtain ⟨rfl, keys, op⟩ := stepOf_install.1 step
    obtain ⟨f, hf, fetch, -⟩ := fetch_of_install run rfl op
    exact ⟨_, mem_steps.2 ⟨f, hf, fetch⟩⟩

/-- The cached keys are those that have been written last, if any have. -/
theorem keys_of_run : (∀ e ∈ es, ∀ keys, e.op ≠ .writeKeys keys) ∨
    ∃ pre e post, es = pre ++ e :: post ∧ e.op = .writeKeys p.world.keys ∧
      ∀ e' ∈ post, ∀ keys, e'.op ≠ .writeKeys keys := by
  induction run with
  | init => exact .inl (by simp)
  | start _ _ _ ih => exact ih
  | @step es p i c o k x run at_call ih =>
    by_cases writes : ∃ keys, o = .writeKeys keys
    · obtain ⟨keys, rfl⟩ := writes
      exact .inr ⟨es, _, [], rfl, rfl, by simp⟩
    · have kept : ((jwksSystem jwt issuer versions).exec x o p.world).2.keys = p.world.keys := by
        cases o with
        | writeKeys keys => exact absurd ⟨keys, rfl⟩ writes
        | _ => rfl
      have other : ∀ keys, ((jwksSystem jwt issuer versions).event i c o x p.world).op ≠
          .writeKeys keys := fun keys same => writes ⟨keys, same⟩
      rcases ih with none | ⟨pre, e, post, rfl, op, none⟩
      · refine .inl fun e he => ?_
        rcases List.mem_append.1 he with he | he
        · exact none e he
        · exact List.mem_singleton.1 he ▸ other
      · refine .inr ⟨pre, e, post ++ [_], List.append_assoc .., op.trans (congrArg _ kept.symm),
          fun e he => ?_⟩
        rcases List.mem_append.1 he with he | he
        · exact none e he
        · exact List.mem_singleton.1 he ▸ other

theorem keys_of_last {pre : JwksHistory Key} {e} {keys : Keys Key}
    (last : es = pre ++ [e]) (op : e.op = .writeKeys keys) : p.world.keys = keys := by
  rcases keys_of_run run with none | ⟨pre', e', post, split, op', none⟩
  · exact absurd op (none e (last ▸ by simp) keys)
  · rcases List.eq_nil_or_concat post with rfl | ⟨post, e'', rfl⟩
    · obtain ⟨rfl, same⟩ := List.append_inj' (last.symm.trans split) rfl
      cases same
      exact (JwksOp.writeKeys.inj (op'.symm.trans op))
    · rw [List.concat_eq_append, ← List.cons_append, ← List.append_assoc] at split
      obtain ⟨_, same⟩ := List.append_inj' (last.symm.trans split) rfl
      cases same
      exact absurd op (none e (by simp) keys)

/-- Where versions are installed in order, the cached keys are those of a version that is not older
than one that has been installed. -/
theorem keys_of_inOrder (ordered : InOrder (steps es)) {n : ℕ} (installed : Installed es n) :
    ∃ m, n ≤ m ∧ p.world.keys = JwksClient.keysOf jwt (versions m) := by
  obtain ⟨i, fetched, written⟩ := installed
  obtain ⟨d, hd, step⟩ := mem_steps.1 written
  obtain ⟨own, keys, op⟩ := stepOf_install.1 step
  rcases keys_of_run run with none | ⟨pre, e, post, split, last, none⟩
  · exact absurd op (none d hd keys)
  · obtain ⟨f, hf, fetch, same⟩ := fetch_of_install run split last
    refine ⟨_, ?_, same⟩
    have newest : Step.fetch e.tid f.before.version ∈ steps es :=
      mem_steps.2 ⟨f, by simp [split, hf], fetch⟩
    have install : stepOf e = some (.install e.tid) := stepOf_install.2 ⟨rfl, _, last⟩
    rw [split] at hd
    rcases List.mem_append.1 hd with before | after
    · obtain ⟨a, b, rfl⟩ := List.append_of_mem before
      refine ordered (steps a) i (steps b) e.tid (steps post) ?_ _ _ fetched newest
      rw [split, steps_append, steps_append, steps_cons step, steps_cons install]
    · rcases List.mem_cons.1 after with rfl | after
      · exact Nat.le_of_eq ((valid_steps run).once i n _ fetched (own ▸ newest))
      · exact absurd op (none d after keys)

theorem reached {pre post : JwksHistory Key} (split : es = pre ++ post) :
    ∃ q, (jwksSystem jwt issuer versions).Run (Pool.idle w₀) pre q ∧
      worldAt es p.world pre.length = q.world := by
  subst split
  cases post with
  | nil =>
    rw [List.append_nil] at run
    refine ⟨p, run, ?_⟩
    unfold worldAt
    rw [List.append_nil, List.getElem?_eq_none (Nat.le_refl _)]
    rfl
  | cons e post =>
    obtain ⟨q, i, c, o, k, x, rfl, run, _⟩ := run.at
    exact ⟨q, run, worldAt_of_getElem? (e := (jwksSystem jwt issuer versions).event i c o x q.world)
      (by simp)⟩

theorem staysNew_of_inOrder (ordered : InOrder (steps es)) :
    StaysNew jwt issuer versions es p := by
  have keys : ∀ pre mid post, es = pre ++ mid ++ post → ∀ n, Installed pre n → ∃ m, n ≤ m ∧
      (worldAt es p.world (pre ++ mid).length).keys = JwksClient.keysOf jwt (versions m) := by
    rintro pre mid post split n ⟨i, fetched, written⟩
    obtain ⟨q, run', same⟩ := reached run split
    rw [same]
    refine keys_of_inOrder run' ?_ ⟨i, ?_, ?_⟩
    · rw [split, steps_append] at ordered
      exact ordered.append_left
    · rw [steps_append]
      exact List.mem_append_left _ fetched
    · rw [steps_append]
      exact List.mem_append_left _ written
  refine ⟨keys, ?_⟩
  intro pre post split n installed i token claims late thread
  have accepted := (run.recorded body_permitted).2.2 i _ _ thread
  obtain ⟨read, done, verified⟩ := accepted token claims rfl rfl
  obtain ⟨r, hr, own, answer⟩ := mem_doneBy.1 done
  rw [split] at hr
  have after := (List.mem_append.1 hr).resolve_left fun before => late r before own
  obtain ⟨b, c, rfl⟩ := List.append_of_mem after
  have split : es = pre ++ b ++ r :: c := by
    rw [split, List.append_assoc]
  obtain ⟨m, le, same⟩ := keys pre b (r :: c) split n installed
  refine ⟨m, le, ?_⟩
  have place : worldAt es p.world (pre ++ b).length = r.before := by
    rw [split]
    exact worldAt_of_getElem? (by simp)
  rw [← same, place, ← read_keys run (split ▸ by simp) answer]
  exact verified

/-- Where versions have different keys, what stays new has been installed in order. -/
theorem inOrder_of_staysNew
    (distinct : Function.Injective fun n => JwksClient.keysOf jwt (versions n))
    (stays : StaysNew jwt issuer versions es p) : InOrder (steps es) := by
  intro a i b j c split m n first second
  obtain ⟨xy, e, z, rfl, before, step', -⟩ := steps_split split
  obtain ⟨x, d, y, rfl, earlier, step, -⟩ := steps_split before
  obtain ⟨own, keys, op⟩ := stepOf_install.1 step
  obtain ⟨own', keys', op'⟩ := stepOf_install.1 step'
  have installed : Installed (x ++ [d]) m := by
    obtain ⟨m', fetched⟩ :=
      (valid_steps run).fetched a i (b ++ .install j :: c) (split.trans (by simp))
    have same : m' = m := (valid_steps run).once i m' m (split ▸ by simp [fetched]) first
    refine ⟨i, ?_, ?_⟩
    · rw [steps_append, earlier, ← same]
      exact List.mem_append_left _ fetched
    · rw [steps_append, steps_cons step]
      exact List.mem_append_right _ (.head _)
  obtain ⟨m', le, cached⟩ := stays.keys (x ++ [d]) (y ++ [e]) z (by simp) m installed
  obtain ⟨f, hf, fetch, same⟩ := fetch_of_install run rfl op'
  have newest : f.before.version = n :=
    (valid_steps run).once j _ n (mem_steps.2 ⟨f, List.mem_append_left _ hf, own' ▸ fetch⟩) second
  have reordered : x ++ d :: y ++ e :: z = (x ++ [d] ++ (y ++ [e])) ++ z := by simp
  obtain ⟨q, run', place⟩ := reached run reordered
  have last : x ++ [d] ++ (y ++ [e]) = (x ++ [d] ++ y) ++ [e] := (List.append_assoc ..).symm
  have written : q.world.keys = keys' := keys_of_last run' last op'
  rw [place, written, same, newest] at cached
  rw [distinct cached]
  exact le

/-- A thread whose refresh has failed leaves the cached keys as they are. -/
theorem kept_of_failed {i : ℕ} {e : String} (failed : ⟨.get, .error e⟩ ∈ doneBy es i) :
    ∀ d ∈ es, d.tid = i → d.after.keys = d.before.keys := by
  intro d hd own
  obtain ⟨f, hf, own', done⟩ := mem_doneBy.1 failed
  have unwritten : ∀ keys, d.op ≠ .writeKeys keys := by
    intro keys op
    obtain ⟨pre, post, split⟩ := List.append_of_mem hd
    obtain ⟨g, hg, fetch, -⟩ := fetch_of_install run split op
    obtain ⟨own'', -, resp, done'⟩ := stepOf_fetch.1 fetch
    have same : f = g := fetches_once run hf (split ▸ List.mem_append_left _ hg)
      (own'.trans (own''.trans own).symm) (congrArg Sigma.fst done) (congrArg Sigma.fst done')
    subst same
    cases done.symm.trans done'
  obtain ⟨pre, post, rfl⟩ := List.append_of_mem hd
  obtain ⟨q, j, c, o, k, x, rfl, _⟩ := run.at
  cases o with
  | writeKeys keys => exact absurd rfl (unwritten keys)
  | _ => rfl

end

/-- Once a refresh has installed a version, the cached keys are never again those of an older one,
if no refresh is overtaken between its fetch and its installation by one that installs a newer
version, and, where the versions have different keys, only then; and a refresh that fails changes
nothing. -/
theorem keyRotation (run : (jwksSystem jwt issuer versions).Run (Pool.idle w₀) es p) :
    (NotOvertaken (steps es) → StaysNew jwt issuer versions es p) ∧
    (Function.Injective (fun n => JwksClient.keysOf jwt (versions n)) →
      StaysNew jwt issuer versions es p → NotOvertaken (steps es)) ∧
    ∀ i e, ⟨.get, .error e⟩ ∈ doneBy es i → ∀ d ∈ es, d.tid = i → d.after.keys = d.before.keys := by
  have order := inOrder_iff (valid_steps run)
  refine ⟨fun alone => ?_, fun distinct stays => ?_, fun i e failed => ?_⟩
  · exact staysNew_of_inOrder run (order.2 alone)
  · exact order.1 (inOrder_of_staysNew run distinct stays)
  · exact kept_of_failed run failed

end

namespace Sample

/-- Tokens name the key that verifies them. -/
def jwt : Jwt String where
  decodeHeader token := .ok (some token)
  fromRsaComponents n _ := .ok n
  decode token key _ :=
    if token = key then .ok (.object [("sub", .string "ann")]) else .error "InvalidSignature"

/-- The endpoint replaces the key `old` by the key `new`. -/
def versions : ℕ → JwksResponse
  | 0 => ⟨[⟨"old", "RSA", none, some "old", some "AQAB"⟩]⟩
  | _ => ⟨[⟨"new", "RSA", none, some "new", some "AQAB"⟩]⟩

/-- Perform a schedule, before which nothing is cached. -/
def played (as : List (Action JwksCall (Option String))) : JwksState String × JwksHistory String :=
  ((jwksSystem jwt none versions).perform (Pool.idle ⟨0, fun _ => none⟩) as).getD
    (Pool.idle ⟨0, fun _ => none⟩, [])

theorem run_played (as : List (Action JwksCall (Option String)))
    (possible : ((jwksSystem jwt none versions).perform (Pool.idle ⟨0, fun _ => none⟩) as).isSome =
      true) :
    (jwksSystem jwt none versions).Run (Pool.idle ⟨0, fun _ => none⟩) (played as).2
      (played as).1 := by
  obtain ⟨⟨p, es⟩, h⟩ := Option.isSome_iff_exists.1 possible
  apply System.run_of_perform
  rw [played, h]
  rfl

/-- The periodic refresh fetches `old`, a token of `new` forces a refresh, and then the periodic one
goes on. -/
def overtaken : List (Action JwksCall (Option String)) :=
  [.start 0 .periodic, .step 0 none, .start 1 .rotate, .step 1 none,
    .start 2 (.validateToken "new"), .step 2 none, .step 2 none, .step 2 none, .step 0 none]

/-- The periodic refresh installs `old`, a token of `new` forces a refresh, and is accepted, and the
next periodic refresh fails. -/
def rotated : List (Action JwksCall (Option String)) :=
  [.start 0 .periodic, .step 0 none, .step 0 none, .start 1 .rotate, .step 1 none,
    .start 2 (.validateToken "new"), .step 2 none, .step 2 none, .step 2 none, .step 2 none,
    .start 3 .periodic, .step 3 (some "connection refused")]

theorem notOvertaken_rotated : NotOvertaken (steps (played rotated).2) := by
  have two : steps (played rotated).2 =
      [.fetch 0 0, .install 0, .fetch 2 1, .install 2] := rfl
  rw [two]
  rintro a i m b c split j n between -
  -- each thread installs right after its fetch
  have overtaking : [Step.fetch i m, .install j, .install i].Sublist
      [.fetch 0 0, .install 0, .fetch 2 1, .install 2] := by
    rw [split, List.append_assoc, List.cons_append]
    refine (List.Sublist.cons_cons _ ?_).trans (List.sublist_append_right ..)
    exact (List.singleton_sublist.2 between).append (List.singleton_sublist.2 (.head _))
  have never : ¬ ([Step.fetch i m, .install j, .install i].Sublist
      [.fetch 0 0, .install 0, .fetch 2 1, .install 2]) := by
    simp only [List.cons_sublist_cons', List.sublist_nil, Step.fetch.injEq, Step.install.injEq,
      reduceCtorEq, false_and, and_false, or_false, false_or]
    omega
  exact absurd overtaking never

end Sample

/-- Two versions are installed one after the other, and then a refresh fails. -/
theorem keyRotation_rotated :
    StaysNew Sample.jwt none Sample.versions (Sample.played Sample.rotated).2
        (Sample.played Sample.rotated).1 ∧
      Installed ((Sample.played Sample.rotated).2.take 2) 0 ∧
      Installed ((Sample.played Sample.rotated).2.take 6) 1 ∧
      (∀ d ∈ (Sample.played Sample.rotated).2, d.tid = 3 → d.after.keys = d.before.keys) ∧
      ∃ claims, (Sample.played Sample.rotated).1.threads 2 =
        some (.validateToken "new", .ret (some claims)) := by
  obtain ⟨stays, -, failing⟩ := keyRotation (Sample.run_played Sample.rotated rfl)
  refine ⟨stays Sample.notOvertaken_rotated, ⟨0, .head _, .tail _ (.head _)⟩,
    ⟨2, .tail _ (.tail _ (.head _)), .tail _ (.tail _ (.tail _ (.head _)))⟩, ?_, _, rfl⟩
  exact failing 3 "connection refused" (.head _)

/-- The key `old`, which the endpoint has dropped and the cache too, is cached again. -/
theorem not_staysNew : ¬ ∀ (Key : Type) (jwt : Jwt Key) issuer versions w₀ es p,
    (jwksSystem jwt issuer versions).Run (Pool.idle w₀) es p →
      StaysNew jwt issuer versions es p := by
  intro stays
  have stays := stays String Sample.jwt none Sample.versions _ _ _
    (Sample.run_played Sample.overtaken rfl)
  have installed : Installed ((Sample.played Sample.overtaken).2.take 5) 1 :=
    ⟨2, .tail _ (.head _), .tail _ (.tail _ (.head _))⟩
  obtain ⟨m, newer, same⟩ := stays.keys _ ((Sample.played Sample.overtaken).2.drop 5) []
    (by simp) 1 installed
  have cached := congrFun same "old"
  cases m with
  | zero => cases newer
  | succ m => cases cached

end Jwks

end Estafeta
