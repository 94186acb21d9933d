import Mathlib.Tactic.Linarith
import Estafeta.Footprints
import Estafeta.PolicyBounds
import Estafeta.Staleness

/-!
# How long a cache can be behind

The caches of an instance are not told of what other instances write, nor of preferences at all, but
an entry lives only for a while. What a processor stores a notification with is therefore what the
tables have held not long before: if the type and the level of a message and the preferences of its
recipient have not changed for as long as entries live, and processors take, the notification is
stored as the tables say now (`settles`).
-/

open Relational Atomic

namespace Estafeta

/-! ## Time -/

/-- `time_to_live` of the caches of an instance. -/
def Cache.timeToLive : Cache → Time
  | .notificationTypes => Duration.seconds 300
  | .notificationLevels => Duration.seconds 300
  | .userPrefs => Duration.seconds 60

/-- Time passes along a history, the caches find no entry that has outlived its time, and no call takes
longer than `L`. -/
structure Punctual (L : Time) (es : History) : Prop where
  passes : es.Pairwise fun e e' => e.choice.now ≤ e'.choice.now
  expires : ∀ pre s mid e post inst c key v, es = pre ++ s :: (mid ++ e :: post) →
    s.done = ⟨.cacheInsert inst c key v, ()⟩ → Stays inst c key mid →
      e.done = ⟨.cacheGet inst c key, some v⟩ → e.choice.now < s.choice.now + c.timeToLive
  brief : ∀ e ∈ es, ∀ e' ∈ es, e.tid = e'.tid → e'.choice.now ≤ e.choice.now + L

/-- An event that an entry of the cache may rest on, if a processor uses it at a time. -/
def Recent (L now : Time) (c : Cache) (e : Event Call Op Op.Ans World Choice) : Prop :=
  now < e.choice.now + c.timeToLive + 2 * L

/-- For as long as entries may be used, no request has changed the type or the level of the message,
or the preferences of its recipient. -/
structure SettledFor (L : Time) (m : IngestMessage) (pre : History) (now : Time) : Prop where
  type : ∀ e ∈ pre, e.call.serves = true → Recent L now .notificationTypes e →
    e.after.db.typeOf m.serviceSlug m.notificationType =
      e.before.db.typeOf m.serviceSlug m.notificationType
  level : ∀ e ∈ pre, e.call.serves = true → Recent L now .notificationLevels e →
    e.after.db.messageLevel m = e.before.db.messageLevel m
  prefs : ∀ e ∈ pre, e.call.serves = true → Recent L now .userPrefs e → ∀ k,
    e.after.prefPart m.recipientUserId k = e.before.prefPart m.recipientUserId k

theorem Cache.timeToLive_pos (c : Cache) : 0 < c.timeToLive := by
  cases c <;> decide

section Recent

variable {L : Time} {es pre post : History} {d r : Event Call Op Op.Ans World Choice}

theorem Punctual.nonneg (punctual : Punctual L es) (mem : d ∈ es) : 0 ≤ L := by
  have brief := punctual.brief d mem d mem rfl
  linarith

theorem Punctual.le (punctual : Punctual L es) (short : pre <+: es) {n k : ℕ}
    (at_r : pre[n]? = some r) (at_d : pre[k]? = some d) (le : n ≤ k) :
    r.choice.now ≤ d.choice.now := by
  rcases le.eq_or_lt with rfl | lt
  · cases at_r.symm.trans at_d
    exact le_rfl
  · obtain ⟨inside, rfl⟩ := List.getElem?_eq_some_iff.1 at_r
    obtain ⟨inside', rfl⟩ := List.getElem?_eq_some_iff.1 at_d
    exact List.pairwise_iff_getElem.1 (punctual.passes.sublist short.sublist) n k inside inside' lt

theorem Punctual.recent_own (punctual : Punctual L es) (read : r ∈ es) (mem : d ∈ es)
    (own : r.tid = d.tid) (c : Cache) : Recent L d.choice.now c r := by
  have brief := punctual.brief r read d mem own
  have nonneg := punctual.nonneg mem
  have pos := c.timeToLive_pos
  unfold Recent
  linarith

/-- What a thread has got from a cache was read recently, by the thread that put it there. -/
theorem Punctual.recent_put (punctual : Punctual L es) (split : es = pre ++ d :: post) {inst : ℕ}
    {c : Cache} {key : String} {v : c.Value} {before : History}
    {s : Event Call Op Op.Ans World Choice} (put : PutAt inst c key v pre d.tid before s)
    (read : r ∈ es) (own : r.tid = s.tid) : Recent L d.choice.now c r := by
  have mem : d ∈ es := by simp [split]
  cases put with
  | own _ same _ => exact punctual.recent_own read mem (own.trans same) c
  | @found mid e rest at_put put stays got hit =>
    have lived := punctual.expires before s mid e (rest ++ d :: post) inst c key v
      (by simp [split, at_put]) put stays hit
    have loaded := punctual.brief r read s (by simp [split, at_put]) own
    have used := punctual.brief e (by simp [split, at_put]) d mem got
    unfold Recent
    linarith

end Recent

/-! ## Settings -/

/-- Registrations and preferences are the same. -/
structure Db.SameSettings (db db' : Db) : Prop where
  services : db'.services = db.services
  notificationTypes : db'.notificationTypes = db.notificationTypes
  notificationLevels : db'.notificationLevels = db.notificationLevels
  userServicePreferences : db'.userServicePreferences = db.userServicePreferences
  userTypePreferences : db'.userTypePreferences = db.userTypePreferences
  muteRules : db'.muteRules = db.muteRules
  globalEnabled : db'.globalEnabled = db.globalEnabled

section Passive

variable {ext : Ext} {x : Choice} {o : Op} {w w' : World} {m : IngestMessage}

theorem Db.SameSettings.refl (db : Db) : db.SameSettings db := ⟨rfl, rfl, rfl, rfl, rfl, rfl, rfl⟩

theorem Db.SameSettings.typeOf (same : w.db.SameSettings w'.db) (slug key : String) :
    w'.db.typeOf slug key = w.db.typeOf slug key := by
  rw [Db.typeOf, Db.typeOf, same.services, same.notificationTypes]

theorem Db.SameSettings.messageLevel (same : w.db.SameSettings w'.db) (m : IngestMessage) :
    w'.db.messageLevel m = w.db.messageLevel m := by
  rw [Db.messageLevel, Db.messageLevel, Db.levelOf, Db.levelOf, same.services,
    same.notificationLevels]

theorem Db.SameSettings.prefPart (same : w.db.SameSettings w'.db) (userId : String) (k : PrefPart) :
    w'.prefPart userId k = w.prefPart userId k := by
  cases k with
  | user => exact congrFun same.globalEnabled userId
  | service => rw [World.prefPart, World.prefPart, same.userServicePreferences]
  | type => rw [World.prefPart, World.prefPart, same.userTypePreferences]
  | muteRule => rw [World.prefPart, World.prefPart, same.muteRules]

theorem sameSettings_exec (passive : o.passive = true) :
    w.db.SameSettings (exec ext x o w).2.db := by
  rcases exec_db_cases ext x o w with same | ⟨q, a, rfl, -, ok⟩
  · rw [same]
    exact .refl _
  · generalize (exec ext x (.sql q) w).2.db = db at ok
    unfold Op.passive at passive
    split at passive
    next q same =>
      cases same
      rw [(Db.Notifications.Query.exec_cases ok).1]
      exact ⟨rfl, rfl, rfl, rfl, rfl, rfl, rfl⟩
    next userId same =>
      cases same
      have enabled := (getOrCreateUserPreference_reads ok).2
      obtain ⟨_, _, rest⟩ := map_eq_ok.1 ok
      cases rest
      exact ⟨rfl, rfl, rfl, rfl, rfl, rfl, enabled⟩
    next same =>
      cases same
      rw [reads_exec passive ok]
      exact .refl _
    next other => exact absurd rfl (other q)

end Passive

/-! ## What a processor uses -/

section Uses

variable {ext : Ext} {w₀ : World} {L : Time} {es pre post : History} {p : State}
  {d : Event Call Op Op.Ans World Choice} {inst : ℕ} {m : IngestMessage}

/-- What no request has changed recently is what it was when it was read. -/
theorem Punctual.current {β : Type} {f : World → β} {c : Cache} {r : Event Call Op Op.Ans World Choice}
    (punctual : Punctual L es) (split : es = pre ++ d :: post)
    (run : (system ext).Run (Pool.idle w₀) pre p)
    (kept : ∀ w w' : World, w.db.SameSettings w'.db → f w' = f w)
    (settled : ∀ e ∈ pre, e.call.serves = true → Recent L d.choice.now c e → f e.after = f e.before)
    {n : ℕ} (at_read : pre[n]? = some r) (recent : Recent L d.choice.now c r) :
    f p.world = f r.before := by
  obtain ⟨inside, same⟩ := List.getElem?_eq_some_iff.1 at_read
  have place : pre = pre.take n ++ r :: pre.drop (n + 1) := by
    rw [← same, List.getElem_cons_drop, List.take_append_drop]
  obtain ⟨g, watched, _⟩ := phased run
  rw [place] at run
  refine run.unchanged fun e he => ?_
  have mem : e ∈ pre := by
    rw [place]
    exact List.mem_append_right _ he
  cases serves : e.call.serves with
  | false =>
    obtain ⟨i, c, s, o, x, w, rfl, permitted⟩ := watched.permitted e mem
    exact kept _ _ (sameSettings_exec (passive_of_background permitted serves))
  | true =>
    refine settled e mem serves ?_
    obtain ⟨k, at_e⟩ := List.getElem?_of_mem he
    have later : r.choice.now ≤ e.choice.now := by
      refine punctual.le (split ▸ List.prefix_append ..) at_read (k := n + k) ?_ (Nat.le_add_right ..)
      rw [place, List.getElem?_append_right (by simp), ← at_e]
      congr 1
      simp [inside.le]
    unfold Recent at recent ⊢
    linarith

theorem settled_type (punctual : Punctual L es) (split : es = pre ++ d :: post)
    (run : (system ext).Run (Pool.idle w₀) pre p)
    (cold : ∀ inst c key, w₀.caches inst c key = none) (apart : TypesApart inst pre)
    (processed : Processes inst pre m) (settled : SettledFor L m pre d.choice.now)
    {v : CachedNotificationType}
    (got : Got inst .notificationTypes (notificationTypeKey m.serviceSlug m.notificationType) v
      (doneBy pre d.tid)) :
    p.world.db.typeOf m.serviceSlug m.notificationType = some v := by
  obtain ⟨before, s, put⟩ := got_putAt run cold got
  obtain ⟨rest, at_put, done⟩ := put.split
  obtain ⟨start, r, after, m', service, nt, rfl, loaded⟩ := type_loaded run at_put done
  obtain ⟨slug, key⟩ := apart.eq_of_key processed loaded.received loaded.key
  have at_read : pre[start.length]? = some r := by simp [at_put]
  have recent := punctual.recent_put split put
    (split ▸ List.mem_append_left _ (List.mem_of_getElem? at_read)) loaded.own
  rw [punctual.current (f := fun w => w.db.typeOf m.serviceSlug m.notificationType) split run
    (fun _ _ same => same.typeOf _ _) settled.type at_read recent, Db.typeOf, slug, key, loaded.found,
    Option.bind_some, loaded.typed, loaded.value, Option.map_some]

theorem settled_level (punctual : Punctual L es) (split : es = pre ++ d :: post)
    (run : (system ext).Run (Pool.idle w₀) pre p)
    (cold : ∀ inst c key, w₀.caches inst c key = none) (apart : LevelsApart inst pre)
    (processed : Processes inst pre m) (settled : SettledFor L m pre d.choice.now)
    {level : Option CachedNotificationLevel} (got : GotLevel inst m (doneBy pre d.tid) level) :
    p.world.db.messageLevel m = level := by
  obtain ⟨l, levelAt, rfl⟩ := levelAt_of_got run cold apart processed got
  have present : ∀ {n : ℕ} {r : Event Call Op Op.Ans World Choice}, pre[n]? = some r → r ∈ es :=
    fun at_read => split ▸ List.mem_append_left _ (List.mem_of_getElem? at_read)
  have current : ∀ {r : Event Call Op Op.Ans World Choice}, pre[l]? = some r →
      Recent L d.choice.now .notificationLevels r →
        p.world.db.messageLevel m = (worldAt pre p.world l).db.messageLevel m := by
    intro r at_read recent
    rw [worldAt_of_getElem? at_read]
    exact punctual.current (f := fun w => w.db.messageLevel m) split run
      (fun _ _ same => same.messageLevel m) settled.level at_read recent
  cases levelAt with
  | unnamed none =>
    unfold Db.messageLevel
    simp [none]
  | cached put reads =>
    obtain ⟨r, _, at_read, own, _⟩ := reads
    obtain ⟨rest, at_put, _⟩ := put.split
    have place : pre[l]? = some r := by
      rw [at_put]
      exact List.getElem?_append_left (List.getElem?_eq_some_iff.1 at_read).1 ▸ at_read
    exact current place (punctual.recent_put split put (present place) own)
  | absent reads =>
    obtain ⟨r, _, place, own, _⟩ := reads
    exact current place (punctual.recent_own (present place) (by simp [split]) own _)

/-- Where thread `i` has got a value from a cache: it has found it there, or has put it there. -/
def GotAt (inst : ℕ) (c : Cache) (key : String) (i : ℕ) (e : Event Call Op Op.Ans World Choice) :
    Prop :=
  e.tid = i ∧ (e.op = .cacheGet inst c key ∨ ∃ v, e.op = .cacheInsert inst c key v)

theorem PutAt.got {i : ℕ} {c : Cache} {key : String} {v : c.Value} {before : History}
    {s : Event Call Op Op.Ans World Choice} (put : PutAt inst c key v es i before s) :
    ∃ n g, before.length ≤ n ∧ es[n]? = some g ∧ GotAt inst c key i g := by
  cases put with
  | own split own put =>
    exact ⟨before.length, s, le_rfl, by simp [split], own, .inr ⟨v, congrArg Sigma.fst put⟩⟩
  | @found mid e rest split _ _ own got =>
    refine ⟨before.length + 1 + mid.length, e, by omega, ?_, own, .inl (congrArg Sigma.fst got)⟩
    simp [split, Nat.add_assoc, Nat.add_comm 1]

/-- Settled preferences are those that a processor has got, but for mute rules that had run out
before. -/
theorem settled_prefs (punctual : Punctual L es) (split : es = pre ++ d :: post)
    (run : (system ext).Run (Pool.idle w₀) pre p)
    (cold : ∀ inst c key, w₀.caches inst c key = none)
    (settled : SettledFor L m pre d.choice.now) {v : CachedUserPrefs}
    (got : Got inst .userPrefs m.recipientUserId v (doneBy pre d.tid)) :
    ∃ t, (∀ now notifType severity, resolve now v notifType severity =
        resolve now (p.world.db.prefs m.recipientUserId t) notifType severity) ∧
      ∃ g ∈ pre, t ≤ g.choice.now ∧ GotAt inst .userPrefs m.recipientUserId d.tid g := by
  obtain ⟨read, t, ⟨v', before, s, put, loaded, earlier⟩, resolves⟩ := prefsAt_of_got run cold got
  refine ⟨t, fun now notifType severity => ?_, ?_⟩
  · rw [resolves, ← prefsOf_prefPart]
    congr 2
    funext k
    obtain ⟨r, place, own, _⟩ := loaded.reads k
    have present : r ∈ es := split ▸ List.mem_append_left _ (List.mem_of_getElem? place)
    rw [worldAt_of_getElem? place]
    exact (punctual.current (f := fun w => w.prefPart m.recipientUserId k) split run
      (fun _ _ same => same.prefPart _ k) (fun e he serves recent => settled.prefs e he serves recent k)
      place (punctual.recent_put split put present own)).symm
  · obtain ⟨r, place, rfl⟩ := loaded.clock
    obtain ⟨n, g, after, place', gotAt⟩ := put.got
    refine ⟨g, List.mem_of_getElem? place', ?_, gotAt⟩
    exact punctual.le (split ▸ List.prefix_append ..) place place' (by omega)

end Uses

/-! ## The clock is read last -/

/-- What a processor does with a notification after it has resolved its configuration. -/
def Op.late : Op → Bool
  | .utcNow | .publish .. | .ack _ | .nak _ => true
  | .sql (.notifications (.insertNotification _)) => true
  | _ => false

/-- The clock has not been read. -/
def Clockless (h : Record) : Prop := ∀ t, ⟨.utcNow, t⟩ ∉ h

/-- What is loaded is loaded before the clock is read. -/
def LoadsFirst (h : Record) (o : Op) : Prop := o.late = true ∨ Clockless h

section Clock

variable {ext : Ext} {inst seq : ℕ} {h : Record} {α : Type}

theorem clockless_within {p : Program String α} (within : p.Within (· ≠ .utcNow))
    (clockless : Clockless h) :
    p.Obeys (.recording LoadsFirst) (fun _ _ => True) (fun h _ => Clockless h) h := by
  induction p generalizing h with
  | ret a => exact clockless
  | fail e => trivial
  | call o k ih =>
    refine ⟨.inr clockless, fun a => ih a (within.2 a) fun t mem => ?_⟩
    rcases List.mem_append.1 mem with mem | mem
    · exact clockless t mem
    · exact within.1 (congrArg Sigma.fst (List.mem_singleton.1 mem)).symm

theorem within_run {P : Op → Prop} {q : Sql} (permitted : P (.sql q)) : (ext.run q).Within P :=
  Prog.Within.mapErr ⟨permitted, fun _ => Prog.within_ofExcept _⟩

theorem getOrLoadNotifType_within (key slug typeKey : String) :
    (getOrLoadNotifType ext inst key slug typeKey).Within (· ≠ .utcNow) := by
  refine ⟨by simp, fun cached => ?_⟩
  rcases cached with _ | v
  · refine (within_run (by simp)).bind fun service => (Prog.within_okOr _ _).bind fun service => ?_
    refine (within_run (by simp)).bind fun nt => (Prog.within_okOr _ _).bind fun nt => ?_
    exact ⟨by simp, fun _ => trivial⟩
  · trivial

theorem levelOf_within (m : IngestMessage) : (levelOf ext inst m).Within (· ≠ .utcNow) := by
  unfold levelOf
  split
  · refine ⟨by simp, fun cached => ?_⟩
    rcases cached with _ | v
    · refine (within_run (by simp)).bind fun service => (Prog.within_okOr _ _).bind fun service => ?_
      refine (within_run (by simp)).bind fun level => ?_
      rcases level with _ | level
      · trivial
      · exact ⟨by simp, fun _ => trivial⟩
    · trivial
  · trivial

theorem getOrLoadUserPrefs_within (userId : String) :
    (getOrLoadUserPrefs ext inst userId).Within (· ≠ .utcNow) := by
  refine ⟨by simp, fun cached => ?_⟩
  rcases cached with _ | v
  · refine (within_run (by simp)).bind fun pref => (within_run (by simp)).bind fun svcPrefs => ?_
    refine (within_run (by simp)).bind fun typePrefs => (within_run (by simp)).bind fun rules => ?_
    exact ⟨by simp, fun _ => trivial⟩
  · trivial

theorem persist_late (m : IngestMessage) (notifType : CachedNotificationType) (levelId : Option Uuid)
    (config : ResolvedConfig) :
    (persist ext m notifType levelId config).Within fun o => o.late = true := by
  refine Prog.Within.bind ?_ fun expiresAt => Prog.Within.bind ?_ fun nextEscalationAt => ?_
  · unfold expiresAtOf
    split
    · exact ⟨rfl, fun _ => trivial⟩
    · trivial
  · unfold nextEscalationAtOf
    split
    · split
      · exact ⟨rfl, fun _ => trivial⟩
      · trivial
    · trivial
  · refine (within_run (P := fun o => o.late = true) rfl).bind fun row => ?_
    split
    · exact ⟨rfl, fun _ => trivial⟩
    · trivial

/-- A processor loads what it needs before it reads the clock. -/
theorem processMessage_loadsFirst (payload : Payload) (clockless : Clockless h) :
    (processMessage ext inst payload).Obeys (.recording LoadsFirst) (fun _ _ => True)
      (fun _ _ => True) h := by
  simp only [processMessage, Prog.obeys_bind, Prog.obeys_ofExcept]
  refine ⟨fun _ _ => trivial, fun m _ => ?_⟩
  refine (clockless_within (getOrLoadNotifType_within _ _ _) clockless).mono (fun _ _ => id) ?_
  intro h notifType clockless
  refine (clockless_within (levelOf_within m) clockless).mono (fun _ _ => id) ?_
  intro h level clockless
  refine (clockless_within (levelOf_within m) clockless).mono (fun _ _ => id) ?_
  intro h level' clockless
  refine (clockless_within (getOrLoadUserPrefs_within _) clockless).mono (fun _ _ => id) ?_
  intro h prefs _
  refine ⟨.inl rfl, fun now => ?_⟩
  exact (persist_late m notifType _ _).obeys (m := .recording LoadsFirst) fun _ _ late => .inl late

theorem processorRun_loadsFirst : (processorRun ext inst seq).Obeys (.recording LoadsFirst)
    (fun _ _ => True) (fun _ _ => True) [] := by
  simp only [processorRun, perform, Prog.call_bind, Prog.ret_bind, Prog.obeys_call]
  refine ⟨.inr fun _ => List.not_mem_nil, fun payload => ?_⟩
  rcases payload with _ | payload
  · trivial
  · have clockless : Clockless [⟨.receive seq, some payload⟩] := by
      intro t mem
      cases List.mem_singleton.1 mem
    simp only [Prog.obeys_bind, Prog.obeys_attempt]
    refine (processMessage_loadsFirst payload clockless).mono ?_ ?_
    · exact fun _ _ _ => ⟨.inl rfl, fun _ => trivial⟩
    · exact fun _ _ _ => ⟨.inl rfl, fun _ => trivial⟩

end Clock

/-- What a call has done before it loads something. -/
def Call.LoadsFirst : Call → Record → Op → Prop
  | .processor .. => Estafeta.LoadsFirst
  | _ => fun _ _ => True

theorem body_loadsFirst (ext : Ext) (c : Call) : ((system ext).body c).Obeys
    (.recording c.LoadsFirst) (fun _ _ => True) (fun _ _ => True) [] := by
  cases c with
  | processor inst seq =>
    simp only [system, Call.body, Prog.obeys_bind, Prog.obeys_mapErr]
    exact processorRun_loadsFirst.mono (fun _ _ _ => trivial) fun _ _ _ => trivial
  | _ => exact Prog.obeys_of_forall (fun _ _ => trivial) _ _

section Runs

variable {ext : Ext} {w₀ : World} {L : Time} {es pre post : History} {p : State}
  {d g : Event Call Op Op.Ans World Choice} {inst seq : ℕ} {m : IngestMessage}
  {n : Db.Notifications.InsertNotification}

theorem clock_after_got (punctual : Punctual L es) (short : pre <+: es)
    (run : (system ext).Run (Pool.idle w₀) pre p) (mem : g ∈ pre)
    (call : g.call = .processor inst seq) {c : Cache} {key : String} (got : GotAt inst c key d.tid g)
    {now : Time} (clock : ⟨.utcNow, now⟩ ∈ doneBy pre d.tid) : g.choice.now ≤ now := by
  obtain ⟨u, hu, own, done⟩ := mem_doneBy.1 clock
  obtain ⟨a, b, rfl⟩ := List.append_of_mem mem
  have clockless : Clockless (doneBy a d.tid) := by
    have first : g.call.LoadsFirst (doneBy a g.tid) g.op :=
      (run.recorded (body_loadsFirst ext)).1 a g b rfl
    rw [call, got.1] at first
    refine first.resolve_left fun late => ?_
    rcases got.2 with op | ⟨v, op⟩ <;> rw [op] at late <;> cases late
  have shown : u.choice.now = now := by
    obtain ⟨i, c, o, x, w, rfl⟩ := performed run u hu
    have op : o = .utcNow := congrArg Sigma.fst done
    subst op
    exact eq_of_heq (Sigma.mk.inj done).2
  have passes := punctual.passes.sublist short.sublist
  rw [← shown]
  rcases List.mem_append.1 hu with hu | hu
  · exact absurd (mem_doneBy.2 ⟨u, hu, own, done⟩) (clockless now)
  · rcases List.mem_cons.1 hu with rfl | hu
    · exact le_rfl
    · exact List.rel_of_pairwise_cons (List.pairwise_append.1 passes).2.1 hu

/-- A notification of a message whose type and level have not changed for as long as entries are
cached, and the preferences of whose recipient have not either, is stored as the tables say: it expires
and is first due as long as the type says after a clock that the processor has read. -/
theorem settles (run : (system ext).Run (Pool.idle w₀) es p)
    (cold : ∀ inst c key, w₀.caches inst c key = none) (split : es = pre ++ d :: post)
    (call : d.call = .processor inst seq) (op : d.op = .sql (.notifications (.insertNotification n)))
    (apart : Apart inst pre) (punctual : Punctual L es) (received : Received seq m (doneBy pre d.tid))
    (settled : SettledFor L m pre d.choice.now) :
    ∃ now nt expiresAt nextEscalationAt, ⟨.utcNow, now⟩ ∈ doneBy pre d.tid ∧
      d.before.db.typeOf m.serviceSlug m.notificationType = some nt ∧
      n = notificationOf m nt ((d.before.db.messageLevel m).map (·.id))
        (d.before.db.configOf m nt now) expiresAt nextEscalationAt ∧
      Dated (doneBy pre d.tid) nt.defaultTtlSeconds expiresAt ∧
      FirstDue nt.escalationIntervalSeconds nt.maxEscalations (doneBy pre d.tid) nextEscalationAt := by
  obtain ⟨inst', seq', call', resolved⟩ := resolves_of_op run split op
  cases call.symm.trans call'
  rw [split] at run
  obtain ⟨q, i, c, o, k, x, event, run, thread, _⟩ := run.at
  have thread : q.threads d.tid = some (d.call, .call o k) := event ▸ thread
  have world : d.before = q.world := event ▸ rfl
  rw [call] at thread
  rw [world]
  generalize past : doneBy pre d.tid = h at resolved received ⊢
  cases resolved with
  | @mk m' notifType level level' prefs expiresAt nextEscalationAt now received' typed levelled
      levelled' preferred clock dated due =>
    subst past
    obtain rfl : m' = m := by
      have same := received'.symm.trans received
      simpa using same
    have processed := processes_of_received run thread received
    have type := settled_type punctual split run cold apart.types processed settled typed
    have current := settled_level punctual split run cold apart.levels processed settled levelled
    have current' := settled_level punctual split run cold apart.levels processed settled levelled'
    obtain ⟨t, resolves, g, mem, loaded, got⟩ := settled_prefs punctual split run cold settled preferred
    have its : g.call = .processor inst seq := call_of_thread run thread mem got.1
    have earlier : t ≤ now :=
      loaded.trans (clock_after_got punctual (split ▸ List.prefix_append ..) run mem its got clock)
    refine ⟨now, notifType, expiresAt, nextEscalationAt, clock, type, ?_, dated, due⟩
    rw [Db.configOf, ← resolve_later earlier, ← resolves, current, ← current', ← current]

end Runs

namespace Sample

/-- The surroundings when the entries of the caches have run out. -/
def later : Choice := { choice with now := 400000007, evicted := true }

/-- A message is processed, then `ann` turns notifications off, and much later the other is
processed. -/
def turnedOffBefore : State × History :=
  played twice (.start 0 (.processor 0 0) :: (List.replicate 16 (.step 0 choice) ++
    .start 1 (.rpc 0 (some ann) (.updatePreferences ⟨false, "", ""⟩)) :: .step 1 choice ::
      .start 2 (.processor 0 1) :: List.replicate 14 (.step 2 later)))

/-- The cache has nothing. -/
def misses : (Σ o : Op, o.Ans) → Bool
  | ⟨.cacheGet .., v⟩ => v.isNone
  | _ => true

theorem punctual_turnedOffBefore : Punctual 0 turnedOffBefore.2 := by
  have times : turnedOffBefore.2.map (fun e => (e.tid, e.choice.now)) =
      List.replicate 16 (0, 7) ++ (1, 7) :: List.replicate 14 (2, 400000007) := rfl
  refine ⟨?_, fun pre s mid e post inst c key v split _ _ got => ?_, fun e he e' he' own => ?_⟩
  · have passes : (turnedOffBefore.2.map fun e => (e.tid, e.choice.now)).Pairwise
        fun a b => a.2 ≤ b.2 := by
      rw [times]
      decide
    exact (List.pairwise_map (f := fun e : Event Call Op Op.Ans World Choice =>
      (e.tid, e.choice.now))).1 passes
  · have missed : (turnedOffBefore.2.all fun e => misses e.done) = true := rfl
    have none := List.all_eq_true.1 missed e (by simp [split])
    rw [got] at none
    cases none
  · have alike : ∀ a ∈ turnedOffBefore.2.map (fun e => (e.tid, e.choice.now)),
        ∀ b ∈ turnedOffBefore.2.map (fun e => (e.tid, e.choice.now)), a.1 = b.1 → b.2 ≤ a.2 + 0 := by
      rw [times]
      decide
    exact alike _ (List.mem_map_of_mem he) _ (List.mem_map_of_mem he') own

theorem settledFor_turnedOffBefore (m : IngestMessage) :
    SettledFor 0 m (turnedOffBefore.2.take 30) 400000007 := by
  have early : ((turnedOffBefore.2.take 30).all fun e => !e.call.serves || e.choice.now = 7) = true :=
    rfl
  have old : ∀ e ∈ turnedOffBefore.2.take 30, e.call.serves = true → ∀ c,
      ¬ Recent 0 400000007 c e := by
    intro e he serves c recent
    have now := List.all_eq_true.1 early e he
    simp only [serves, Bool.not_true, Bool.false_or, decide_eq_true_eq] at now
    unfold Recent at recent
    rw [now] at recent
    cases c <;> exact absurd recent (by decide)
  exact ⟨fun e he serves recent => (old e he serves _ recent).elim,
    fun e he serves recent => (old e he serves _ recent).elim,
    fun e he serves recent => (old e he serves _ recent).elim⟩

end Sample

theorem settles_turnedOffBefore : ∃ d n m now nt expiresAt nextEscalationAt,
    d ∈ Sample.turnedOffBefore.2 ∧ n.state = "archived" ∧
    ⟨.utcNow, now⟩ ∈ doneBy (Sample.turnedOffBefore.2.take 30) d.tid ∧
    d.before.db.typeOf m.serviceSlug m.notificationType = some nt ∧
    n = notificationOf m nt ((d.before.db.messageLevel m).map (·.id))
      (d.before.db.configOf m nt now) expiresAt nextEscalationAt ∧
    Dated (doneBy (Sample.turnedOffBefore.2.take 30) d.tid) nt.defaultTtlSeconds expiresAt ∧
    FirstDue nt.escalationIntervalSeconds nt.maxEscalations
      (doneBy (Sample.turnedOffBefore.2.take 30) d.tid) nextEscalationAt := by
  have run : (system Sample.ext).Run (Pool.idle Sample.twice) Sample.turnedOffBefore.2
      Sample.turnedOffBefore.1 := Sample.run_played rfl
  obtain ⟨d, post, n, split, call, op, tid, time, archived⟩ : ∃ d post n,
      Sample.turnedOffBefore.2 = Sample.turnedOffBefore.2.take 30 ++ d :: post ∧
        d.call = .processor 0 1 ∧ d.op = .sql (.notifications (.insertNotification n)) ∧ d.tid = 2 ∧
        d.choice.now = 400000007 ∧ n.state = "archived" :=
    ⟨_, _, _, rfl, rfl, rfl, rfl, rfl, rfl⟩
  have checked : ((Sample.turnedOffBefore.2.take 30).all fun e => Sample.plain e.done) = true := rfl
  have received : Received 1 { Sample.message with notificationId := 5, idempotencyKey := none }
      (doneBy (Sample.turnedOffBefore.2.take 30) d.tid) := tid ▸ rfl
  obtain ⟨now, nt, expiresAt, nextEscalationAt, clock, typed, stored⟩ :=
    settles run (fun _ _ _ => rfl) split call op (Sample.apart_of_plain checked)
      Sample.punctual_turnedOffBefore received (time ▸ Sample.settledFor_turnedOffBefore _)
  refine ⟨d, n, _, now, nt, expiresAt, nextEscalationAt, ?_, archived, clock, typed, stored⟩
  rw [split]
  simp

end Estafeta
