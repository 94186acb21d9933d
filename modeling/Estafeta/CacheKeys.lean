import Estafeta.Caching
import Estafeta.Interference

/-!
# What a cache key stands for

A type or a level is cached under the slug and the key with which it was loaded, joined by a colon.
As long as no two messages that an instance processes share such a text, whatever its processors find
or load is registered under the slug and the key of the message (`noConfusion`); otherwise they may
use the type of another service.
-/

open Relational Atomic

namespace Estafeta

/-! ## Registered types and levels -/

/-- The type is registered under the slug and the key. -/
def Db.IsType (db : Db) (slug typeKey : String) (v : CachedNotificationType) : Prop :=
  ∃ service nt, db.services.lookup (.slug slug) = some service ∧
    db.notificationTypes.lookup (.typeKey service.id typeKey) = some nt ∧
    v.serviceId = service.id ∧ v.id = nt.id ∧ v.typeKey = typeKey

/-- The level is registered under the slug and the key. -/
def Db.IsLevel (db : Db) (slug levelKey : String) (v : CachedNotificationLevel) : Prop :=
  ∃ service level, db.services.lookup (.slug slug) = some service ∧
    db.notificationLevels.lookup (.key service.id levelKey) = some level ∧
    v.id = level.id ∧ v.key = levelKey

section Registered

variable {ext : Ext} {x : Choice} {o : Op} {w w₀ : World} {es : History} {p : State}
  {slug key : String}

theorem isType_exec {v : CachedNotificationType} (h : w.db.IsType slug key v) :
    (exec ext x o w).2.db.IsType slug key v := by
  obtain ⟨service, nt, found, typed, serviceId, id, typeKey⟩ := h
  obtain ⟨service', found', same⟩ := service_exec ext x o found
  obtain ⟨nt', typed', same'⟩ := type_exec ext x o typed
  exact ⟨service', nt', found', same ▸ typed', serviceId.trans same.symm, id.trans same'.symm,
    typeKey⟩

theorem isLevel_exec {v : CachedNotificationLevel} (h : w.db.IsLevel slug key v) :
    (exec ext x o w).2.db.IsLevel slug key v := by
  obtain ⟨service, level, found, levelled, id, levelKey⟩ := h
  obtain ⟨service', found', same⟩ := service_exec ext x o found
  obtain ⟨level', levelled', same'⟩ := level_exec ext x o levelled
  exact ⟨service', level', found', same ▸ levelled', id.trans same'.symm, levelKey⟩

theorem levelKey_mem_keys {r : NotificationLevelRow} {serviceId : Uuid} :
    NotificationLevelKey.key serviceId key ∈ Schema.keys r ↔
      r.serviceId = serviceId ∧ r.key = key := by
  show NotificationLevelKey.key serviceId key ∈ [.id r.id, .key r.serviceId r.key] ↔ _
  simp [eq_comm]

end Registered

/-! ## Composite keys -/

/-- The two pairs of slug and key differ, but not when they are joined by a colon. -/
def Shifted (slug key slug' key' : String) : Prop :=
  ∃ rest, slug' = slug ++ ":" ++ rest ∧ key = rest ++ ":" ++ key'

theorem notificationTypeKey_toList (slug key : String) :
    (notificationTypeKey slug key).toList = slug.toList ++ ':' :: key.toList := by
  unfold notificationTypeKey
  simp [toString]

/-- Two pairs have the same composite key if they are the same, or one of their slugs goes on with a
part of the other's key. -/
theorem notificationTypeKey_eq_iff {slug key slug' key' : String} :
    notificationTypeKey slug key = notificationTypeKey slug' key' ↔
      slug = slug' ∧ key = key' ∨ Shifted slug key slug' key' ∨ Shifted slug' key' slug key := by
  constructor
  · intro same
    have same := congrArg String.toList same
    rw [notificationTypeKey_toList, notificationTypeKey_toList] at same
    rcases split_cases same with ⟨m, slugs, keys⟩ | ⟨slugs, _, keys⟩ | ⟨m, slugs, keys⟩
    · refine .inr (.inl ⟨String.ofList m, ?_, ?_⟩) <;> apply String.toList_injective <;> simp [*]
    · exact .inl ⟨String.toList_injective slugs, String.toList_injective keys⟩
    · refine .inr (.inr ⟨String.ofList m, ?_, ?_⟩) <;> apply String.toList_injective <;> simp [*]
  · rintro (⟨rfl, rfl⟩ | ⟨rest, rfl, rfl⟩ | ⟨rest, rfl, rfl⟩)
    · rfl
    · apply String.toList_injective
      rw [notificationTypeKey_toList, notificationTypeKey_toList]
      simp
    · apply String.toList_injective
      rw [notificationTypeKey_toList, notificationTypeKey_toList]
      simp

/-! ## What is put under a key -/

/-- A processor of the instance has received the message. -/
def Processes (inst : ℕ) (es : History) (m : IngestMessage) : Prop :=
  ∃ e ∈ es, ∃ seq, e.call = .processor inst seq ∧ e.done = ⟨.receive seq, some (.ok m)⟩

/-- No two messages that the processors of the instance receive name types that differ only in where
the colon stands. -/
def TypesApart (inst : ℕ) (es : History) : Prop :=
  ∀ m m', Processes inst es m → Processes inst es m' →
    ¬ Shifted m.serviceSlug m.notificationType m'.serviceSlug m'.notificationType

/-- No two messages that the processors of the instance receive name levels that differ only in where
the colon stands. -/
def LevelsApart (inst : ℕ) (es : History) : Prop :=
  ∀ m m', Processes inst es m → Processes inst es m' → m.level ≠ "" → m'.level ≠ "" →
    ¬ Shifted m.serviceSlug m.level m'.serviceSlug m'.level

/-- The messages of the instance name types and levels that differ in more than where the colon
stands. -/
structure Apart (inst : ℕ) (es : History) : Prop where
  types : TypesApart inst es
  levels : LevelsApart inst es

section Apart

variable {inst : ℕ} {es : History} {m m' : IngestMessage}

theorem TypesApart.eq_of_key (apart : TypesApart inst es) (received : Processes inst es m)
    (received' : Processes inst es m')
    (same : notificationTypeKey m.serviceSlug m.notificationType =
      notificationTypeKey m'.serviceSlug m'.notificationType) :
    m.serviceSlug = m'.serviceSlug ∧ m.notificationType = m'.notificationType := by
  rcases notificationTypeKey_eq_iff.1 same with same | shifted | shifted
  · exact same
  · exact absurd shifted (apart m m' received received')
  · exact absurd shifted (apart m' m received' received)

theorem LevelsApart.eq_of_key (apart : LevelsApart inst es) (received : Processes inst es m)
    (received' : Processes inst es m') (named : m.level ≠ "") (named' : m'.level ≠ "")
    (same : notificationLevelKey m.serviceSlug m.level =
      notificationLevelKey m'.serviceSlug m'.level) :
    m.serviceSlug = m'.serviceSlug ∧ m.level = m'.level := by
  rcases notificationTypeKey_eq_iff.1 same with same | shifted | shifted
  · exact same
  · exact absurd shifted (apart m m' received received' named named')
  · exact absurd shifted (apart m' m received' received named' named)

/-- Services without a colon in their slugs are never confused. -/
theorem apart_of_slugs (plain : ∀ m, Processes inst es m → ':' ∉ m.serviceSlug.toList) :
    Apart inst es := by
  have unshifted : ∀ m m' : IngestMessage, Processes inst es m' → ∀ key key',
      ¬ Shifted m.serviceSlug key m'.serviceSlug key' := by
    rintro m m' received' key key' ⟨rest, slug, _⟩
    apply plain m' received'
    rw [slug]
    simp
  exact ⟨fun m m' _ received' => unshifted m m' received' _ _,
    fun m m' _ received' _ _ => unshifted m m' received' _ _⟩

end Apart

/-- Event `r` is the read of a type for a message by a thread, which then has `v` for the key. -/
structure TypeLoaded (inst : ℕ) (es : History) (key : String) (v : CachedNotificationType) (tid : ℕ)
    (r : Event Call Op Op.Ans World Choice) (m : IngestMessage) (service : ServiceRow)
    (nt : NotificationTypeRow) : Prop where
  received : Processes inst es m
  key : key = notificationTypeKey m.serviceSlug m.notificationType
  value : v = cachedNotificationType nt
  own : r.tid = tid
  reads : ∃ serviceId typeKey, r.op = .sql (.schemas (.getNotificationType serviceId typeKey))
  found : r.before.db.services.lookup (.slug m.serviceSlug) = some service
  typed : r.before.db.notificationTypes.lookup (.typeKey service.id m.notificationType) = some nt

/-- Event `r` is the read of a level for a message by a thread, which then has `v` for the key. -/
structure LevelLoaded (inst : ℕ) (es : History) (key : String) (v : CachedNotificationLevel)
    (tid : ℕ) (r : Event Call Op Op.Ans World Choice) (m : IngestMessage) (service : ServiceRow)
    (level : NotificationLevelRow) : Prop where
  received : Processes inst es m
  named : m.level ≠ ""
  key : key = notificationLevelKey m.serviceSlug m.level
  value : v = cachedNotificationLevel level
  own : r.tid = tid
  reads : ∃ serviceId, r.op = .sql (.schemas (.getNotificationLevel serviceId m.level))
  found : r.before.db.services.lookup (.slug m.serviceSlug) = some service
  levelled : r.before.db.notificationLevels.lookup (.key service.id m.level) = some level

section Inserted

variable {ext : Ext} {w₀ : World} {es : History} {p : State} {inst seq i : ℕ} {m : IngestMessage}

theorem processes_of_received {k : Program Failure Outcome}
    (run : (system ext).Run (Pool.idle w₀) es p)
    (thread : p.threads i = some (.processor inst seq, k)) (received : Received seq m (doneBy es i)) :
    Processes inst es m := by
  obtain ⟨e, he, own, done⟩ := mem_doneBy.1 (List.mem_of_head? received)
  obtain ⟨k', thread'⟩ := run.started e he
  rw [own, thread] at thread'
  exact ⟨e, he, seq, (Prod.mk.inj (Option.some.inj thread')).1.symm, done⟩

theorem processes_of_event {pre post : History} {d : Event Call Op Op.Ans World Choice}
    (run : (system ext).Run (Pool.idle w₀) es p) (split : es = pre ++ d :: post)
    (call : d.call = .processor inst seq) (received : Received seq m (doneBy pre d.tid)) :
    Processes inst es m := by
  obtain ⟨k, thread⟩ := run.started d (by simp [split])
  rw [call] at thread
  refine processes_of_received run thread (received.mono ?_)
  rw [split, doneBy_append]
  exact List.prefix_append ..

/-- A type that is put into a cache has been read for a message by the thread that puts it there. -/
theorem type_loaded {pre post : History} {d : Event Call Op Op.Ans World Choice} {key : String}
    {v : CachedNotificationType} (run : (system ext).Run (Pool.idle w₀) es p)
    (split : es = pre ++ d :: post) (put : d.done = ⟨.cacheInsert inst .notificationTypes key v, ()⟩) :
    ∃ before r after m service nt, pre = before ++ r :: after ∧
      TypeLoaded inst es key v d.tid r m service nt := by
  obtain ⟨seq, call, justified⟩ := insertion run split put
  generalize past : doneBy pre d.tid = h at justified
  cases justified with
  | @type h m service nt received =>
    obtain ⟨before, r, after, service', rfl, own, read, typed, found, same⟩ :=
      two_reads run split past
    refine ⟨before, r, after, m, service', nt, rfl, ?_, rfl, rfl, own, ?_, found, ?_⟩
    · exact processes_of_event run split call (past ▸ received.mono (List.prefix_append ..))
    · exact ⟨_, _, congrArg Sigma.fst read⟩
    · rw [same]
      exact congrArg Prod.fst (Except.ok.inj typed)
  | other stores => cases stores

/-- A type that is put into a cache is registered under the slug and the key of a message. -/
theorem inserted_type {pre post : History} {d : Event Call Op Op.Ans World Choice} {key : String}
    {v : CachedNotificationType} (run : (system ext).Run (Pool.idle w₀) es p)
    (split : es = pre ++ d :: post) (put : d.done = ⟨.cacheInsert inst .notificationTypes key v, ()⟩) :
    ∃ m, Processes inst es m ∧ key = notificationTypeKey m.serviceSlug m.notificationType ∧
      p.world.db.IsType m.serviceSlug m.notificationType v := by
  obtain ⟨before, r, after, m, service, nt, rfl, loaded⟩ := type_loaded run split put
  refine ⟨m, loaded.received, loaded.key, ?_⟩
  rw [split, List.append_assoc, List.cons_append] at run
  obtain ⟨ofService, ofKey⟩ := typeKey_mem_keys.1 (Table.key_of_lookup loaded.typed)
  refine run.since (fun _ _ w (h : w.db.IsType m.serviceSlug m.notificationType _) =>
    isType_exec h) ?_
  rw [loaded.value]
  exact ⟨service, nt, loaded.found, loaded.typed, ofService, rfl, ofKey⟩

/-- A level that is put into a cache has been read for a message by the thread that puts it there. -/
theorem level_loaded {pre post : History} {d : Event Call Op Op.Ans World Choice} {key : String}
    {v : CachedNotificationLevel} (run : (system ext).Run (Pool.idle w₀) es p)
    (split : es = pre ++ d :: post)
    (put : d.done = ⟨.cacheInsert inst .notificationLevels key v, ()⟩) :
    ∃ before r after m service level, pre = before ++ r :: after ∧
      LevelLoaded inst es key v d.tid r m service level := by
  obtain ⟨seq, call, justified⟩ := insertion run split put
  generalize past : doneBy pre d.tid = h at justified
  cases justified with
  | @level h m service level received named =>
    obtain ⟨before, r, after, service', rfl, own, read, levelled, found, same⟩ :=
      two_reads run split past
    refine ⟨before, r, after, m, service', level, rfl, ?_, named, rfl, rfl, own, ?_, found, ?_⟩
    · exact processes_of_event run split call (past ▸ received.mono (List.prefix_append ..))
    · exact ⟨_, congrArg Sigma.fst read⟩
    · rw [same]
      exact congrArg Prod.fst (Except.ok.inj levelled)
  | other stores => cases stores

/-- A level that is put into a cache is registered under the slug and the key of a message. -/
theorem inserted_level {pre post : History} {d : Event Call Op Op.Ans World Choice} {key : String}
    {v : CachedNotificationLevel} (run : (system ext).Run (Pool.idle w₀) es p)
    (split : es = pre ++ d :: post)
    (put : d.done = ⟨.cacheInsert inst .notificationLevels key v, ()⟩) :
    ∃ m, Processes inst es m ∧ m.level ≠ "" ∧ key = notificationLevelKey m.serviceSlug m.level ∧
      p.world.db.IsLevel m.serviceSlug m.level v := by
  obtain ⟨before, r, after, m, service, level, rfl, loaded⟩ := level_loaded run split put
  refine ⟨m, loaded.received, loaded.named, loaded.key, ?_⟩
  rw [split, List.append_assoc, List.cons_append] at run
  obtain ⟨_, ofKey⟩ := levelKey_mem_keys.1 (Table.key_of_lookup loaded.levelled)
  refine run.since (fun _ _ w (h : w.db.IsLevel m.serviceSlug m.level _) => isLevel_exec h) ?_
  rw [loaded.value]
  exact ⟨service, level, loaded.found, loaded.levelled, rfl, ofKey⟩

end Inserted

/-! ## What a processor uses -/

/-- What the processor of a message uses is registered under the slug and the key of the message. -/
structure UsesOwn (inst : ℕ) (m : IngestMessage) (h : Record) (db : Db) : Prop where
  type : ∀ v, Got inst .notificationTypes (notificationTypeKey m.serviceSlug m.notificationType) v h →
    db.IsType m.serviceSlug m.notificationType v
  level : m.level ≠ "" → ∀ v,
    Got inst .notificationLevels (notificationLevelKey m.serviceSlug m.level) v h →
    db.IsLevel m.serviceSlug m.level v

/-- A notification is stored under the service, the type and the level that its message names. -/
def StoredOwn (m : IngestMessage) (n : Db.Notifications.InsertNotification) (db : Db) : Prop :=
  (∃ v, db.IsType m.serviceSlug m.notificationType v ∧ n.serviceId = v.serviceId ∧
    n.notificationTypeId = v.id) ∧
  ∀ levelId, n.levelId = some levelId → ∃ v, db.IsLevel m.serviceSlug m.level v ∧ levelId = v.id

/-- No processor confuses two services. -/
structure NoConfusion (es : History) (p : State) : Prop where
  uses : ∀ i inst seq k m, p.threads i = some (.processor inst seq, k) →
    Received seq m (doneBy es i) → UsesOwn inst m (doneBy es i) p.world.db
  stores : ∀ pre e post n, es = pre ++ e :: post →
    e.op = .sql (.notifications (.insertNotification n)) →
    ∃ inst seq m, e.call = .processor inst seq ∧ Received seq m (doneBy pre e.tid) ∧
      StoredOwn m n p.world.db

section Uses

variable {ext : Ext} {w₀ : World} {es : History} {p : State} {inst seq i : ℕ} {m : IngestMessage}

theorem usesOwn (run : (system ext).Run (Pool.idle w₀) es p)
    (cold : ∀ inst c key, w₀.caches inst c key = none) (apart : Apart inst es)
    (processed : Processes inst es m) : UsesOwn inst m (doneBy es i) p.world.db where
  type v got := by
    obtain ⟨pre, d, post, split, put⟩ := got_origin run cold got
    obtain ⟨m', processed', same, registered⟩ := inserted_type run split put
    obtain ⟨slug, key⟩ := apart.types.eq_of_key processed processed' same
    rwa [slug, key]
  level named v got := by
    obtain ⟨pre, d, post, split, put⟩ := got_origin run cold got
    obtain ⟨m', processed', named', same, registered⟩ := inserted_level run split put
    obtain ⟨slug, key⟩ := apart.levels.eq_of_key processed processed' named named' same
    rwa [slug, key]

end Uses

namespace Sample

/-- Two services, the one with a colon in its slug, each with a type, and two messages. -/
def colons (stream : List Payload) : World where
  db :=
    { db .empty with
      services :=
        { rows := [{ service with slug := "a" }, { service with id := 4, slug := "a:b" }]
          unique := by decide
          checked := by decide }
      notificationTypes :=
        { rows := [{ notificationType with typeKey := "b:c" },
            { notificationType with id := 6, serviceId := 4, typeKey := "c" }]
          unique := by decide
          checked := by decide } }
  stream := stream
  acked := []
  published := []
  caches _ _ _ := none

/-- A message of the type `b:c` of `a`. -/
def plainMessage : IngestMessage := { message with serviceSlug := "a", notificationType := "b:c" }

/-- A message of the type `c` of `a:b`. -/
def colonMessage : IngestMessage :=
  { message with
    notificationId := 5, serviceSlug := "a:b", notificationType := "c", idempotencyKey := none }

/-- A processor handles the first message of the stream, and then another one the second. -/
def confused : State × History :=
  played (colons [.ok plainMessage, .ok colonMessage])
    (.start 0 (.processor 0 0) :: (List.replicate 16 (.step 0 choice) ++
      .start 1 (.processor 0 1) :: List.replicate 7 (.step 1 choice)))

/-- The same with messages of services without colons. -/
def separate : State × History :=
  played (both "other")
    (.start 0 (.processor 0 0) :: (List.replicate 16 (.step 0 choice) ++
      .start 1 (.processor 0 1) :: List.replicate 11 (.step 1 choice)))

/-- The slug of a message that has been received has no colon. -/
def plain : (Σ o : Op, o.Ans) → Bool
  | ⟨.receive _, some (.ok m)⟩ => ':' ∉ m.serviceSlug.toList
  | _ => true

theorem apart_of_plain {inst : ℕ} {es : History}
    (checked : (es.all fun e => plain e.done) = true) : Apart inst es := by
  apply apart_of_slugs
  rintro m ⟨e, he, seq, _, done⟩ colon
  have plain := List.all_eq_true.1 checked e he
  rw [done] at plain
  exact of_decide_eq_true plain colon

end Sample

section Claim

variable {ext : Ext} {w₀ : World} {es : History} {p : State}

/-- The services, types and levels that the messages name are not confused, as long as none of those
that one instance processes differ only in where the colon stands. -/
theorem noConfusion (run : (system ext).Run (Pool.idle w₀) es p)
    (cold : ∀ inst c key, w₀.caches inst c key = none) (apart : ∀ inst, Apart inst es) :
    NoConfusion es p where
  uses i inst seq k m thread received :=
    usesOwn run cold (apart inst) (processes_of_received run thread received)
  stores pre e post n split op := by
    obtain ⟨inst, seq, call, justified⟩ := justified_of_stores run split (by rw [op]; rfl)
    rw [op] at justified
    generalize past : doneBy pre e.tid = h at justified
    cases justified with
    | @store h m notifType level level' prefs _ _ now received typed _ levelled =>
      have processed := processes_of_event run split call (past ▸ received)
      obtain ⟨type, levels⟩ := usesOwn (i := e.tid) run cold (apart inst) processed
      have longer : h <+: doneBy es e.tid := by
        rw [split, doneBy_append, past]
        exact List.prefix_append ..
      refine ⟨inst, seq, m, call, past.symm ▸ received, ⟨notifType, ?_, rfl, rfl⟩, ?_⟩
      · exact type _ (typed.mono longer)
      · rintro levelId named
        cases levelled with
        | unnamed | absent => cases named
        | got level got =>
          cases named
          exact ⟨_, levels level _ (got.mono longer), rfl⟩
    | other stores => cases stores

theorem noConfusion_separate : NoConfusion Sample.separate.2 Sample.separate.1 := by
  have checked : (Sample.separate.2.all fun e => Sample.plain e.done) = true := rfl
  exact noConfusion (Sample.run_played rfl) (fun _ _ _ => rfl) fun _ =>
    Sample.apart_of_plain checked

/-- A message of the service `a:b` is stored as one of the service `a`, whose type is in the cache. -/
theorem not_noConfusion : ¬ ∀ (ext : Ext) (w₀ : World) (es : History) (p : State),
    (system ext).Run (Pool.idle w₀) es p → (∀ inst c key, w₀.caches inst c key = none) →
      NoConfusion es p := by
  intro distinct
  have stores := (distinct Sample.ext _ Sample.confused.2 Sample.confused.1 (Sample.run_played rfl)
    fun _ _ _ => rfl).stores
  obtain ⟨e, post, n, split, tid, op, service⟩ : ∃ e post n,
      Sample.confused.2 = Sample.confused.2.take 21 ++ e :: post ∧ e.tid = 1 ∧
        e.op = .sql (.notifications (.insertNotification n)) ∧ n.serviceId = 1 :=
    ⟨_, _, _, rfl, rfl, rfl, rfl⟩
  obtain ⟨inst, seq, m, _, received, ⟨v, ⟨row, _, found, _, own, _⟩, same, _⟩, _⟩ :=
    stores _ e post n split op
  rw [tid] at received
  have first : Received 1 Sample.colonMessage (doneBy (Sample.confused.2.take 21) 1) := rfl
  cases received.symm.trans first
  have other : Sample.confused.1.world.db.services.lookup (.slug "a:b") =
      some { Sample.service with id := 4, slug := "a:b" } := rfl
  cases found.symm.trans other
  exact absurd (service.symm.trans (same.trans own)) (by decide)

end Claim

end Estafeta
