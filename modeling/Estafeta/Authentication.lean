import Estafeta.Auth.Interceptor
import Estafeta.KeyRotation

/-!
# Authentication

The handlers take the claims that they find in the extensions of a request. On the server these are
never made up: a run of the server is a run of the system in which every call has the claims of the
bearer token that its request came with, a token that a key verifies which the endpoint has served;
and a request that has not got so far has done nothing but fetch and read keys (`authenticated`).
-/

open Atomic

namespace Estafeta

open Jwks (Permits Verifies)

section

variable {Key : Type} {jwt : Jwt Key} {toStr : List UInt8 → Option String} {issuer : Option String}
  {versions : ℕ → JwksResponse}

/-! ## What the entrance lets in -/

/-- The monitor that records what a call does with the client, on any instance. -/
def entranceMonitor (jwt : Jwt Key) : Monitor (InstanceOp Key) InstanceOp.Ans (JwksRecord Key) where
  may h o := Permits jwt h o.2
  next h o a := h ++ [⟨o.2, a⟩]

/-- A call of a request has the claims of its token, which keys verify that have been read. -/
inductive Arrival.Admits (jwt : Jwt Key) (toStr : List UInt8 → Option String)
    (issuer : Option String) : Arrival → JwksRecord Key → Outcome ⊕ Call → Prop where
  | ended {d h a} : Admits jwt toStr issuer d h (.inl a)
  | request {inst metadata r h token keys claims} :
    AuthInterceptor.bearerToken toStr metadata = some token → ⟨.readKeys, keys⟩ ∈ h →
    Verifies jwt issuer token keys claims →
    Admits jwt toStr issuer (.request inst metadata r) h (.inr (.rpc inst (some claims) r))
  | processor {inst seq h} :
    Admits jwt toStr issuer (.processor inst seq) h (.inr (.processor inst seq))
  | snoozeWake {h} : Admits jwt toStr issuer .snoozeWake h (.inr .snoozeWake)
  | ttlExpiry {h} : Admits jwt toStr issuer .ttlExpiry h (.inr .ttlExpiry)
  | escalation {h} : Admits jwt toStr issuer .escalation h (.inr .escalation)

theorem obeys_on {ε α : Type} {E : JwksRecord Key → ε → Prop} {Q : JwksRecord Key → α → Prop}
    {inst : ℕ} {p : JwksProgram Key ε α} {h : JwksRecord Key} :
    (JwksClient.on inst p).Obeys (entranceMonitor jwt) E Q h ↔
      p.Obeys (.recording (Permits jwt)) E Q h :=
  Prog.obeys_relabel (fun o => (inst, o)) (entranceMonitor jwt) p h

theorem enter_permitted (d : Arrival) :
    (d.enter jwt toStr issuer).Obeys (entranceMonitor jwt) (fun _ _ => True)
      (d.Admits jwt toStr issuer) [] := by
  cases d with
  | request inst metadata r =>
    refine (Prog.obeys_bind ..).2 (obeys_on.2 ((Prog.obeys_mapErr ..).2 ((Prog.obeys_bind ..).2 ?_)))
    refine (Prog.obeys_okOr ..).2 ⟨fun _ => trivial, fun token found => ?_⟩
    refine (Jwks.validateToken_permitted token).mono (fun _ _ _ => trivial) ?_
    rintro h claims ⟨keys, read, verifies⟩
    exact .request found read verifies
  | processor inst seq => exact .processor
  | snoozeWake => exact .snoozeWake
  | ttlExpiry => exact .ttlExpiry
  | escalation => exact .escalation
  | startup inst =>
    refine (Prog.obeys_bind ..).2 (obeys_on.2 ((Prog.obeys_mapErr ..).2 ?_))
    exact Jwks.refresh_permitted (by simp) (fun _ _ => trivial) fun _ => .ended
  | periodic inst =>
    refine (Prog.obeys_bind ..).2 (obeys_on.2 ((Prog.obeys_attempt ..).2 ?_))
    exact Jwks.refresh_permitted (by simp) (fun _ _ => .ended) fun _ => .ended
  | rotate => exact ⟨trivial, fun _ => .ended⟩

/-! ## Where keys come from -/

/-- The keys of a version that the endpoint has served, or none. -/
def Obtained (jwt : Jwt Key) (versions : ℕ → JwksResponse) (n : ℕ) (keys : Keys Key) : Prop :=
  keys = (fun _ => none) ∨ ∃ m ≤ n, keys = JwksClient.keysOf jwt (versions m)

/-- What a thread has fetched, and has read, is what the endpoint has served. -/
structure Grounded (jwt : Jwt Key) (versions : ℕ → JwksResponse) (n : ℕ) (h : JwksRecord Key) :
    Prop where
  fetched : ∀ resp, ⟨.get, .ok resp⟩ ∈ h → ∃ m ≤ n, resp = versions m
  read : ∀ keys, ⟨.readKeys, keys⟩ ∈ h → Obtained jwt versions n keys

section

variable {n n' : ℕ} {keys : Keys Key} {h : JwksRecord Key} {v₀ v : KeysWorld Key}

theorem Obtained.mono (served : Obtained jwt versions n keys) (le : n ≤ n') :
    Obtained jwt versions n' keys :=
  served.imp_right fun ⟨m, before, same⟩ => ⟨m, before.trans le, same⟩

theorem Grounded.mono (grounded : Grounded jwt versions n h) (le : n ≤ n') :
    Grounded jwt versions n' h where
  fetched resp mem := by
    obtain ⟨m, before, same⟩ := grounded.fetched resp mem
    exact ⟨m, before.trans le, same⟩
  read keys mem := (grounded.read keys mem).mono le

/-- Keys that are cached, and what threads know, come from the endpoint. -/
structure KeysWorld.Sound (jwt : Jwt Key) (versions : ℕ → JwksResponse) (v : KeysWorld Key)
    (g : ℕ → Option (Arrival × JwksRecord Key)) : Prop where
  served : ∀ inst, Obtained jwt versions v.version (v.keys inst)
  grounded : ∀ i d h, g i = some (d, h) → Grounded jwt versions v.version h

theorem version_exec (versions : ℕ → JwksResponse) (x : Option String) (o : InstanceOp Key)
    (v : KeysWorld Key) :
    v.version ≤ (InstanceOp.exec versions x o v).2.version := by
  obtain ⟨inst, o⟩ := o
  cases o with
  | rotate => exact Nat.le_succ _
  | _ => exact le_rfl

theorem Grounded.snoc {d : Σ o : JwksOp Key, o.Ans} (grounded : Grounded jwt versions n h)
    (fetched : ∀ resp, d = ⟨.get, .ok resp⟩ → ∃ m ≤ n, resp = versions m)
    (read : ∀ keys, d = ⟨.readKeys, keys⟩ → Obtained jwt versions n keys) :
    Grounded jwt versions n (h ++ [d]) where
  fetched resp mem := (List.mem_append.1 mem).elim (grounded.fetched resp) fun last =>
    fetched resp (List.mem_singleton.1 last).symm
  read keys mem := (List.mem_append.1 mem).elim (grounded.read keys) fun last =>
    read keys (List.mem_singleton.1 last).symm

theorem grounded_exec {x : Option String} {o : InstanceOp Key}
    (served : ∀ inst, Obtained jwt versions v.version (v.keys inst))
    (grounded : Grounded jwt versions v.version h) :
    Grounded jwt versions (InstanceOp.exec versions x o v).2.version
      (h ++ [⟨o.2, (InstanceOp.exec versions x o v).1⟩]) := by
  have later := grounded.mono (version_exec versions x o v)
  obtain ⟨inst, o⟩ := o
  cases o with
  | get =>
    cases x with
    | none =>
      refine later.snoc (fun resp same => ⟨v.version, le_rfl, ?_⟩) fun keys same => ?_
      · cases same
        rfl
      · cases same
    | some e => exact later.snoc (fun _ same => by cases same) fun _ same => by cases same
  | readKeys =>
    refine later.snoc (fun _ same => by cases same) fun keys same => ?_
    cases same
    exact served inst
  | writeKeys keys | rotate =>
    exact later.snoc (fun _ same => by cases same) fun _ same => by cases same

/-- What an operation leaves in the caches comes from the endpoint. -/
theorem served_exec {x : Option String} {o : InstanceOp Key}
    (served : ∀ inst, Obtained jwt versions v.version (v.keys inst))
    (grounded : Grounded jwt versions v.version h) (permitted : Permits jwt h o.2) (inst : ℕ) :
    Obtained jwt versions (InstanceOp.exec versions x o v).2.version
      ((InstanceOp.exec versions x o v).2.keys inst) := by
  have later := (served inst).mono (version_exec versions x o v)
  obtain ⟨inst', o⟩ := o
  by_cases same : inst = inst'
  · subst same
    have written : (InstanceOp.exec versions x (inst, o) v).2.keys inst =
        (JwksOp.exec versions x o ⟨v.version, v.keys inst⟩).2.keys := Function.update_self ..
    rw [written]
    cases o with
    | writeKeys keys =>
      obtain ⟨resp, fetched, rfl⟩ := permitted
      obtain ⟨m, before, rfl⟩ := grounded.fetched resp fetched
      exact .inr ⟨m, before, rfl⟩
    | _ => exact later
  · have kept : (InstanceOp.exec versions x (inst', o) v).2.keys inst = v.keys inst :=
      Function.update_of_ne same ..
    rwa [kept]

/-- Keys that are cached, and what threads know, come from the endpoint. -/
theorem sound_of_watched {es} {g : ℕ → Option (Arrival × JwksRecord Key)}
    (run : Watched (entrance jwt toStr issuer versions) (fun _ => entranceMonitor jwt) (fun _ => [])
      v₀ es v g) (cold : ∀ inst, v₀.keys inst = fun _ => none) : v.Sound jwt versions g := by
  induction run with
  | init => exact ⟨fun inst => .inl (cold inst), fun i d h at_call => by cases at_call⟩
  | @start es v g i d _ free ih =>
    refine ⟨ih.served, fun j d' h at_call => ?_⟩
    by_cases same : j = i
    · subst same
      cases (Function.update_self ..).symm.trans at_call
      exact ⟨fun _ mem => (List.not_mem_nil mem).elim, fun _ mem => (List.not_mem_nil mem).elim⟩
    · exact ih.grounded j d' h ((Function.update_of_ne same ..).symm.trans at_call)
  | @step es v g i d h o x _ at_call permitted ih =>
    have grounded := ih.grounded i d h at_call
    refine ⟨served_exec ih.served grounded permitted, fun j d' h' at_call' => ?_⟩
    by_cases same : j = i
    · subst same
      cases (Function.update_self ..).symm.trans at_call'
      exact grounded_exec ih.served grounded
    · exact (ih.grounded j d' h' ((Function.update_of_ne same ..).symm.trans at_call')).mono
        (version_exec versions x o v)

end

/-! ## Runs of the server -/

variable {ext : Ext} {v₀ : KeysWorld Key} {w₀ : World}

/-- The token of a request, and the claims that a key of the endpoint verifies. -/
def Authenticates (jwt : Jwt Key) (toStr : List UInt8 → Option String) (issuer : Option String)
    (versions : ℕ → JwksResponse) (n : ℕ) (metadata : MetadataMap) (claims : AuthClaims) : Prop :=
  ∃ token, AuthInterceptor.bearerToken toStr metadata = some token ∧
    ∃ m ≤ n, Verifies jwt issuer token (JwksClient.keysOf jwt (versions m)) claims

/-- A call that is admitted is a request's with the claims of its token, or of a background task. -/
theorem admits_of_admitted {fs} {g} {i : ℕ} {d : Arrival} {c : Call}
    (run : (entrance jwt toStr issuer versions).Run (Pool.idle v₀) fs g)
    (cold : ∀ inst, v₀.keys inst = fun _ => none) (admitted : g.threads i = some (d, .ret (.inr c))) :
    ∃ h, d.Admits jwt toStr issuer h (.inr c) ∧ Grounded jwt versions g.world.version h := by
  obtain ⟨m, watched, fits⟩ := run.watched (m := fun _ => entranceMonitor jwt)
    (E := fun _ _ _ => True) fun d => enter_permitted d
  have fit := fits i
  rw [admitted] at fit
  rcases at_call : m i with _ | ⟨d', h⟩
  · rw [at_call] at fit
    exact fit.elim
  · rw [at_call] at fit
    obtain ⟨rfl, admits⟩ := fit
    exact ⟨h, admits, (sound_of_watched watched cold).grounded i d h at_call⟩

theorem Obtained.verifies {n : ℕ} {keys : Keys Key} {token : String} {claims : AuthClaims}
    (served : Obtained jwt versions n keys) (verifies : Verifies jwt issuer token keys claims) :
    ∃ m ≤ n, Verifies jwt issuer token (JwksClient.keysOf jwt (versions m)) claims := by
  rcases served with rfl | ⟨m, le, rfl⟩
  · obtain ⟨_, _, _, _, cached, _⟩ := verifies
    cases cached
  · exact ⟨m, le, verifies⟩

/-- A run of the server is a run of the system, on the same database and with the same operations, in
which every call of a handler is that of a request; and a request has performed none of the
operations, or is authenticated, and goes on as a call with the claims of its token. -/
theorem authenticated {es} {p}
    (run : (server jwt toStr issuer versions ext).Run (Pool.idle (v₀, w₀)) es p)
    (cold : ∀ inst, v₀.keys inst = fun _ => none) :
    ∃ (bs : History) (q : State), (system ext).Run (Pool.idle w₀) bs q ∧ q.world = p.world.2 ∧
      bs.map Event.anonymous = es.filterMap Event.hind ∧
      (∀ i inst extensions r k, q.threads i = some (.rpc inst extensions r, k) →
        ∃ metadata, p.threads i = some (.request inst metadata r, k.relabel .inr)) ∧
      ∀ i inst metadata r k, p.threads i = some (.request inst metadata r, k) →
        (q.threads i = none ∧ ∀ e ∈ es, e.tid = i → e.hind = none) ∨
        ∃ claims k', Authenticates jwt toStr issuer versions p.world.1.version metadata claims ∧
          q.threads i = some (.rpc inst (some claims) r, k') ∧ k = k'.relabel .inr := by
  obtain ⟨fs, g, bs, q, sides⟩ := run.sides
  have version : g.world.version = p.world.1.version := by rw [sides.world]
  -- what the gate has admitted of a thread
  have admits : ∀ i c k, q.threads i = some (c, k) → ∃ d h,
      p.threads i = some (d, k.relabel .inr) ∧ d.Admits jwt toStr issuer h (.inr c) ∧
        Grounded jwt versions p.world.1.version h := by
    intro i c k thread
    obtain ⟨d, admitted, whole⟩ := sides.admitted thread
    obtain ⟨h, admits, grounded⟩ := admits_of_admitted sides.fore cold admitted
    exact ⟨d, h, whole, admits, version ▸ grounded⟩
  refine ⟨bs, q, sides.hind, by rw [sides.world], sides.hinds, ?_, ?_⟩
  · intro i inst extensions r k thread
    obtain ⟨d, h, whole, admits, _⟩ := admits i _ k thread
    cases admits
    exact ⟨_, whole⟩
  · intro i inst metadata r k thread
    rcases thread' : q.threads i with _ | ⟨c, k'⟩
    · refine .inl ⟨rfl, fun e he own => ?_⟩
      rcases hind : e.hind with _ | b
      · rfl
      · obtain ⟨c, k', entered⟩ := sides.entered he hind
        rw [Event.tid_of_hind hind, own, thread'] at entered
        cases entered
    · obtain ⟨d, h, whole, admits, grounded⟩ := admits i c k' thread'
      cases thread.symm.trans whole
      cases admits with
      | request found read verifies =>
        exact .inr ⟨_, k', ⟨_, found, (grounded.read _ read).verifies verifies⟩, rfl, rfl⟩

end

namespace Sample

/-- The text of ASCII characters. -/
def asciiStr (value : List UInt8) : Option String :=
  some (String.ofList (value.map fun c => Char.ofNat c.toNat))

/-- The header of the token `old`. -/
def bearer : MetadataMap := [("authorization", "Bearer old".toList.map fun c => c.toNat.toUInt8)]

/-- The instance 0 fetches the keys, `ann` marks all her notifications as seen, and somebody tries to
without a token. -/
def logIn : List (Action Arrival (Option String × Choice)) :=
  [.start 0 (.startup 0), .step 0 (none, choice), .step 0 (none, choice),
    .start 1 (.request 0 bearer (.markSeen ⟨[]⟩)), .step 1 (none, choice), .step 1 (none, choice),
    .start 2 (.request 0 [] (.markSeen ⟨[]⟩))]

/-- Perform a schedule on the server, before which nothing is cached. -/
def served (as : List (Action Arrival (Option String × Choice))) :=
  ((server Jwks.Sample.jwt asciiStr none Jwks.Sample.versions ext).perform
    (Pool.idle (⟨0, fun _ _ => none⟩, twice)) as).getD (Pool.idle (⟨0, fun _ _ => none⟩, twice), [])

theorem run_logIn : (server Jwks.Sample.jwt asciiStr none Jwks.Sample.versions ext).Run
    (Pool.idle (⟨0, fun _ _ => none⟩, twice)) (served logIn).2 (served logIn).1 := by
  have possible : (server Jwks.Sample.jwt asciiStr none Jwks.Sample.versions ext).perform
      (Pool.idle (⟨0, fun _ _ => none⟩, twice)) logIn = some (served logIn) := rfl
  exact System.run_of_perform possible

end Sample

theorem authenticated_logIn : ∃ (bs : History) (q : State),
    (system Sample.ext).Run (Pool.idle Sample.twice) bs q ∧
      q.world = (Sample.served Sample.logIn).1.world.2 ∧ bs.length = 1 ∧ q.threads 2 = none ∧
      ∃ claims k, Authenticates Jwks.Sample.jwt Sample.asciiStr none Jwks.Sample.versions 0
        Sample.bearer claims ∧ q.threads 1 = some (.rpc 0 (some claims) (.markSeen ⟨[]⟩), k) := by
  obtain ⟨bs, q, run, world, same, calls, requests⟩ :=
    authenticated Sample.run_logIn fun _ => rfl
  have one : bs.length = 1 := by
    rw [← List.length_map (f := Event.anonymous), same]
    rfl
  refine ⟨bs, q, run, world, one, ?_, ?_⟩
  · obtain ⟨none, _⟩ | ⟨claims, _, ⟨token, found, _⟩, _⟩ := requests 2 _ _ _ _ rfl
    · exact none
    · cases found
  · obtain ⟨_, silent⟩ | ⟨claims, k, authenticates, thread, _⟩ := requests 1 _ _ _ _ rfl
    · obtain ⟨e, he, own, entered⟩ : ∃ e ∈ (Sample.served Sample.logIn).2, e.tid = 1 ∧
          e.hind.isSome = true := ⟨_, .tail _ (.tail _ (.tail _ (.head _))), rfl, rfl⟩
      rw [silent e he own] at entered
      cases entered
    · exact ⟨claims, k, authenticates, thread⟩

end Estafeta
