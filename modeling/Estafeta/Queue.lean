import Estafeta.Ingestion

/-!
# The ingest queue

What processing a queue of messages, one after the other, does to the notifications. `Db.store` says
what a message is stored as, from the tables alone; `consumed_store` shows that the processor, with
its caches, computes just that as long as the tables it caches stay as they are.
-/

open Relational Atomic

namespace Estafeta

/-! ## What a message is stored as -/

/-- The type of a message. -/
def Db.typeOf (db : Db) (serviceSlug typeKey : String) : Option CachedNotificationType :=
  (db.services.lookup (.slug serviceSlug)).bind fun service =>
    (db.notificationTypes.lookup (.typeKey service.id typeKey)).map cachedNotificationType

/-- The level of a service with a key. -/
def Db.levelOf (db : Db) (serviceSlug levelKey : String) : Option CachedNotificationLevel :=
  (db.services.lookup (.slug serviceSlug)).bind fun service =>
    (db.notificationLevels.lookup (.key service.id levelKey)).map cachedNotificationLevel

/-- The level of a message, if it names one. -/
def Db.messageLevel (db : Db) (m : IngestMessage) : Option CachedNotificationLevel :=
  if !m.level.isEmpty then db.levelOf m.serviceSlug m.level else none

/-- Whether a user wants notifications at all: by default they do. -/
def Db.globalEnabled (db : Db) (userId : String) : Bool :=
  ((db.userPreferences.lookup (.userId userId)).map (·.globalEnabled)).getD true

/-- The preferences of a user, with the mute rules that are active. -/
def Db.prefs (db : Db) (userId : String) (now : Time) : CachedUserPrefs where
  globalEnabled := db.globalEnabled userId
  servicePrefs := (db.userServicePreferences.select fun r => r.userId = userId).map cachedServicePref
  typePrefs := (db.userTypePreferences.select fun r => r.userId = userId).map cachedTypePref
  muteRules := (db.muteRules.select fun r =>
    r.userId = userId && r.mutedUntil.all fun t => now < t).map cachedMuteRule

/-- When a notification expires, and when it is first due for escalation. -/
def ResolvedConfig.expiresAt (config : ResolvedConfig) (now : Time) : Option Time :=
  config.ttlSeconds.map fun ttl => now + Duration.seconds ttl

def ResolvedConfig.nextEscalationAt (config : ResolvedConfig) (now : Time) : Option Time :=
  config.escalationIntervalSeconds.bind fun interval =>
    if config.maxEscalations > 0 then some (now + Duration.seconds interval) else none

/-- The configuration of a message that is processed at a time. -/
def Db.configOf (db : Db) (m : IngestMessage) (notifType : CachedNotificationType) (now : Time) :
    ResolvedConfig :=
  resolve now (db.prefs m.recipientUserId now) notifType ((db.messageLevel m).map (·.severity))

/-- The row of a message of a type. -/
def Db.rowOf (db : Db) (m : IngestMessage) (now : Time) (notifType : CachedNotificationType) :
    NotificationRow :=
  let config := db.configOf m notifType now
  (notificationOf m notifType ((db.messageLevel m).map (·.id)) config (config.expiresAt now)
    (config.nextEscalationAt now)).row now

/-- The notifications after a row has been stored, or rejected. -/
def Db.storeRow (db : Db) (row : NotificationRow) (t : Table NotificationRow) :
    Table NotificationRow :=
  match insertRow t row (Db.Notifications.references db row) with
  | .ok t' => t'
  | .error _ => t

/-- The notifications after a message has been processed. -/
def Db.store (db : Db) (m : IngestMessage) (now : Time) (t : Table NotificationRow) :
    Table NotificationRow :=
  match db.typeOf m.serviceSlug m.notificationType with
  | some notifType => db.storeRow (db.rowOf m now notifType) t
  | none => t

/-! ## Preferences in any order, and not quite up to date -/

theorem find?_perm {α : Type} {p : α → Bool} {l l' : List α} (same : l.Perm l')
    (unique : ∀ a ∈ l, ∀ b ∈ l, p a = true → p b = true → a = b) : l.find? p = l'.find? p := by
  rcases found : l.find? p with _ | a
  · refine (List.find?_eq_none.2 fun a ha => ?_).symm
    exact List.find?_eq_none.1 found a (same.mem_iff.2 ha)
  · rcases found' : l'.find? p with _ | b
    · exact absurd (List.find?_some found)
        (List.find?_eq_none.1 found' a (same.mem_iff.1 (List.mem_of_find?_eq_some found)))
    · rw [unique a (List.mem_of_find?_eq_some found) b
        (same.mem_iff.2 (List.mem_of_find?_eq_some found')) (List.find?_some found)
        (List.find?_some found')]

/-- The same preferences, in any order. -/
structure CachedUserPrefs.Same (p p' : CachedUserPrefs) : Prop where
  globalEnabled : p.globalEnabled = p'.globalEnabled
  servicePrefs : p.servicePrefs.Perm p'.servicePrefs
  typePrefs : p.typePrefs.Perm p'.typePrefs
  muteRules : p.muteRules.Perm p'.muteRules

/-- At most one preference for each service, and one for each type. -/
structure CachedUserPrefs.Distinct (p : CachedUserPrefs) : Prop where
  service : ∀ sp ∈ p.servicePrefs, ∀ sp' ∈ p.servicePrefs, sp.serviceId = sp'.serviceId → sp = sp'
  type : ∀ tp ∈ p.typePrefs, ∀ tp' ∈ p.typePrefs,
    tp.notificationTypeId = tp'.notificationTypeId → tp = tp'

section Resolve

variable {db : Db} {userId : String} {p p' : CachedUserPrefs} {t now : Time}
  {notifType : CachedNotificationType}

theorem distinct_prefs : (db.prefs userId t).Distinct where
  service sp hsp sp' hsp' same := by
    obtain ⟨r, hr, rfl⟩ := List.mem_map.1 hsp
    obtain ⟨r', hr', rfl⟩ := List.mem_map.1 hsp'
    obtain ⟨hr, mine⟩ := Table.mem_select.1 hr
    obtain ⟨hr', mine'⟩ := Table.mem_select.1 hr'
    rw [Table.eq_of_mem_keys hr hr' (service_mem_keys.2 ⟨of_decide_eq_true mine, same⟩)
      (service_mem_keys.2 ⟨of_decide_eq_true mine', rfl⟩)]
  type tp htp tp' htp' same := by
    obtain ⟨r, hr, rfl⟩ := List.mem_map.1 htp
    obtain ⟨r', hr', rfl⟩ := List.mem_map.1 htp'
    obtain ⟨hr, mine⟩ := Table.mem_select.1 hr
    obtain ⟨hr', mine'⟩ := Table.mem_select.1 hr'
    rw [Table.eq_of_mem_keys hr hr' (type_mem_keys.2 ⟨of_decide_eq_true mine, same⟩)
      (type_mem_keys.2 ⟨of_decide_eq_true mine', rfl⟩)]

/-- What is resolved does not depend on the order of the preferences. -/
theorem resolve_same (same : p.Same p') (distinct : p'.Distinct) (severity : Option Int32) :
    resolve now p notifType severity = resolve now p' notifType severity := by
  have service : (p.servicePrefs.find? fun sp => sp.serviceId = notifType.serviceId) =
      p'.servicePrefs.find? fun sp => sp.serviceId = notifType.serviceId := by
    refine find?_perm same.servicePrefs fun a ha b hb hpa hpb => ?_
    simp only [decide_eq_true_eq] at hpa hpb
    exact distinct.service a (same.servicePrefs.mem_iff.1 ha) b (same.servicePrefs.mem_iff.1 hb)
      (hpa.trans hpb.symm)
  have type : (p.typePrefs.find? fun tp => tp.notificationTypeId = notifType.id) =
      p'.typePrefs.find? fun tp => tp.notificationTypeId = notifType.id := by
    refine find?_perm same.typePrefs fun a ha b hb hpa hpb => ?_
    simp only [decide_eq_true_eq] at hpa hpb
    exact distinct.type a (same.typePrefs.mem_iff.1 ha) b (same.typePrefs.mem_iff.1 hb)
      (hpa.trans hpb.symm)
  unfold resolve
  rw [same.globalEnabled, same.muteRules.any_eq, service, type]

theorem mutes_prefs (earlier : t ≤ now) :
    ((db.prefs userId t).muteRules.any fun rule => rule.mutes notifType now) =
      (db.prefs userId now).muteRules.any fun rule => rule.mutes notifType now := by
  have later : ∀ r : MuteRuleRow, (cachedMuteRule r).mutes notifType now = true →
      (r.mutedUntil.all fun u => t < u) = true ∧ (r.mutedUntil.all fun u => now < u) = true := by
    intro r mutes
    simp only [CachedMuteRule.mutes, cachedMuteRule, Bool.and_eq_true] at mutes
    rcases until_ : r.mutedUntil with _ | u
    · simp
    · have active : now < u := by simpa [until_] using mutes.2
      simpa using ⟨lt_of_le_of_lt earlier active, active⟩
  rw [Bool.eq_iff_iff]
  simp only [Db.prefs, List.any_map, List.any_eq_true, Table.mem_select, Bool.and_eq_true,
    Function.comp]
  constructor
  · rintro ⟨r, ⟨stored, mine, _⟩, mutes⟩
    exact ⟨r, ⟨stored, mine, (later r mutes).2⟩, mutes⟩
  · rintro ⟨r, ⟨stored, mine, _⟩, mutes⟩
    exact ⟨r, ⟨stored, mine, (later r mutes).1⟩, mutes⟩

/-- What is resolved does not depend on when the preferences were loaded. -/
theorem resolve_later (earlier : t ≤ now) (severity : Option Int32) :
    resolve now (db.prefs userId t) notifType severity =
      resolve now (db.prefs userId now) notifType severity := by
  unfold resolve
  rw [mutes_prefs earlier]
  rfl

theorem resolve_prefs (same : p.Same (db.prefs userId t)) (earlier : t ≤ now)
    (severity : Option Int32) : resolve now p notifType severity =
      resolve now (db.prefs userId now) notifType severity :=
  (resolve_same same distinct_prefs severity).trans (resolve_later earlier severity)

end Resolve

/-! ## Loading -/

/-- Nothing fails, the clock shows `now`, and the id for a new preference row is fresh. -/
structure Reliable (table : Table UserPreferenceRow) (now : Time) (x : Choice) : Prop where
  now : x.now = now
  failure : x.failure = none
  fresh : table.lookup (.id x.uuid) = none

/-- The tables that the processor reads are those of `db`, and so is all that the caches hold under
the keys of the messages `ms`: preferences may have been loaded before `now`. -/
structure Served (db : Db) (ms : List IngestMessage) (now : Time) (w : World) : Prop where
  services : w.db.services = db.services
  notificationTypes : w.db.notificationTypes = db.notificationTypes
  notificationLevels : w.db.notificationLevels = db.notificationLevels
  userServicePreferences : w.db.userServicePreferences = db.userServicePreferences
  userTypePreferences : w.db.userTypePreferences = db.userTypePreferences
  muteRules : w.db.muteRules = db.muteRules
  globalEnabled : w.db.globalEnabled = db.globalEnabled
  types : ∀ m ∈ ms, ∀ inst cached, w.caches inst .notificationTypes
    (notificationTypeKey m.serviceSlug m.notificationType) = some cached →
      db.typeOf m.serviceSlug m.notificationType = some cached
  levels : ∀ m ∈ ms, ∀ inst cached, w.caches inst .notificationLevels
    (notificationLevelKey m.serviceSlug m.level) = some cached →
      db.levelOf m.serviceSlug m.level = some cached
  prefs : ∀ userId inst cached, w.caches inst .userPrefs userId = some cached →
    ∃ t ≤ now, cached.Same (db.prefs userId t)

/-- No two messages of different types, or of different levels, share a cache key. -/
def KeysApart (ms : List IngestMessage) : Prop :=
  ∀ m ∈ ms, ∀ m' ∈ ms,
    (notificationTypeKey m.serviceSlug m.notificationType =
        notificationTypeKey m'.serviceSlug m'.notificationType →
      m.serviceSlug = m'.serviceSlug ∧ m.notificationType = m'.notificationType) ∧
    (notificationLevelKey m.serviceSlug m.level = notificationLevelKey m'.serviceSlug m'.level →
      m.serviceSlug = m'.serviceSlug ∧ m.level = m'.level)

section Loading

variable {ext : Ext} {inst : ℕ} {db : Db} {ms : List IngestMessage} {now : Time} {w : World}
  {table : Table UserPreferenceRow} {m : IngestMessage}

theorem Served.cold (cold : ∀ i c key, w.caches i c key = none) : Served w.db ms now w where
  services := rfl
  notificationTypes := rfl
  notificationLevels := rfl
  userServicePreferences := rfl
  userTypePreferences := rfl
  muteRules := rfl
  globalEnabled := rfl
  types m _ i cached held := by
    rw [cold] at held
    cases held
  levels m _ i cached held := by
    rw [cold] at held
    cases held
  prefs userId i cached held := by
    rw [cold] at held
    cases held

theorem Served.later (served : Served db ms now w) {now' : Time} (le : now ≤ now') :
    Served db ms now' w where
  __ := served
  prefs userId inst cached held := by
    obtain ⟨t, before, same⟩ := served.prefs userId inst cached held
    exact ⟨t, before.trans le, same⟩

theorem Served.typeOf (served : Served db ms now w) (slug typeKey : String) :
    w.db.typeOf slug typeKey = db.typeOf slug typeKey := by
  rw [Db.typeOf, Db.typeOf, served.services, served.notificationTypes]

theorem Served.levelOf (served : Served db ms now w) (slug levelKey : String) :
    w.db.levelOf slug levelKey = db.levelOf slug levelKey := by
  rw [Db.levelOf, Db.levelOf, served.services, served.notificationLevels]

theorem Served.prefs_eq (served : Served db ms now w) (userId : String) (t : Time) :
    w.db.prefs userId t = db.prefs userId t := by
  rw [Db.prefs, Db.prefs, served.globalEnabled, served.userServicePreferences,
    served.userTypePreferences, served.muteRules]

theorem Served.cacheType (served : Served db ms now w) (apart : KeysApart ms) (hm : m ∈ ms)
    {cached : CachedNotificationType}
    (correct : db.typeOf m.serviceSlug m.notificationType = some cached) :
    Served db ms now (w.setCache inst .notificationTypes
      (notificationTypeKey m.serviceSlug m.notificationType) (some cached)) where
  __ := served
  types m' hm' i cached' held := by
    rw [World.setCache_get] at held
    split at held
    next same =>
      obtain ⟨slug, typeKey⟩ := (apart m' hm' m hm).1 same.2.2
      rw [slug, typeKey, correct]
      exact held
    next => exact served.types m' hm' i cached' held
  levels m' hm' i cached' held := by
    rw [World.setCache_get, dif_neg (by simp)] at held
    exact served.levels m' hm' i cached' held
  prefs userId i cached' held := by
    rw [World.setCache_get, dif_neg (by simp)] at held
    exact served.prefs userId i cached' held

theorem Served.cacheLevel (served : Served db ms now w) (apart : KeysApart ms) (hm : m ∈ ms)
    {cached : CachedNotificationLevel}
    (correct : db.levelOf m.serviceSlug m.level = some cached) :
    Served db ms now (w.setCache inst .notificationLevels
      (notificationLevelKey m.serviceSlug m.level) (some cached)) where
  __ := served
  types m' hm' i cached' held := by
    rw [World.setCache_get, dif_neg (by simp)] at held
    exact served.types m' hm' i cached' held
  levels m' hm' i cached' held := by
    rw [World.setCache_get] at held
    split at held
    next same =>
      obtain ⟨slug, level⟩ := (apart m' hm' m hm).2 same.2.2
      rw [slug, level, correct]
      exact held
    next => exact served.levels m' hm' i cached' held
  prefs userId i cached' held := by
    rw [World.setCache_get, dif_neg (by simp)] at held
    exact served.prefs userId i cached' held

theorem Served.cachePrefs (served : Served db ms now w) {userId : String} {cached : CachedUserPrefs}
    (correct : cached.Same (db.prefs userId now)) :
    Served db ms now (w.setCache inst .userPrefs userId (some cached)) where
  __ := served
  types m' hm' i cached' held := by
    rw [World.setCache_get, dif_neg (by simp)] at held
    exact served.types m' hm' i cached' held
  levels m' hm' i cached' held := by
    rw [World.setCache_get, dif_neg (by simp)] at held
    exact served.levels m' hm' i cached' held
  prefs userId' i cached' held := by
    rw [World.setCache_get] at held
    split at held
    next same =>
      obtain ⟨_, _, rfl⟩ := same
      cases held
      exact ⟨now, le_rfl, correct⟩
    next => exact served.prefs userId' i cached' held

theorem ensures_run {q : Sql} {E : World → String → Prop} {Q : World → q.Resp → Prop}
    (bound : q.instants.all inTimestamptz = true)
    (answers : ∀ x, Reliable table now x → match q.exec (x.env ext) w.db with
      | .ok (a, db') => Q { w with db := db' } a
      | .error e => E w (ext.showDbError e)) :
    (ext.run q).Ensures (exec ext) (Reliable table now) E Q w := by
  intro x reliable
  have answer := answers x reliable
  simp only [exec, execSql, reliable.failure, bound, if_true]
  rcases answered : q.exec (x.env ext) w.db with e | ⟨a, db'⟩
  all_goals
    rw [answered] at answer
    exact answer

/-- The type of a message is loaded, from the cache or from the tables. -/
theorem getOrLoadNotifType_ensures (served : Served db ms now w) (apart : KeysApart ms)
    (hm : m ∈ ms) :
    (getOrLoadNotifType ext inst (notificationTypeKey m.serviceSlug m.notificationType)
        m.serviceSlug m.notificationType).Ensures (exec ext) (Reliable table now)
      (fun w' _ => w' = w ∧ db.typeOf m.serviceSlug m.notificationType = none)
      (fun w' notifType => Served db ms now w' ∧ w'.db = w.db ∧
        db.typeOf m.serviceSlug m.notificationType = some notifType) w := by
  simp only [getOrLoadNotifType, perform, Prog.call_bind, Prog.ret_bind]
  intro x _
  simp only [exec]
  split
  next cached held =>
    have held : w.caches inst .notificationTypes
        (notificationTypeKey m.serviceSlug m.notificationType) = some cached := by
      split at held
      · cases held
      · exact held
    exact ⟨served, rfl, served.types m hm inst cached held⟩
  next =>
    have type := served.typeOf m.serviceSlug m.notificationType
    rw [Prog.ensures_bind]
    refine ensures_run rfl fun x _ => ?_
    show Prog.Ensures _ _ _ _ _ w
    rw [Prog.ensures_bind, Prog.ensures_okOr]
    refine ⟨fun unknown => ⟨rfl, ?_⟩, fun service known => ?_⟩
    · rw [← type, Db.typeOf, show w.db.services.lookup _ = none from unknown, Option.bind_none]
    rw [Prog.ensures_bind]
    refine ensures_run rfl fun x _ => ?_
    show Prog.Ensures _ _ _ _ _ w
    rw [Prog.ensures_bind, Prog.ensures_okOr]
    have type : (w.db.notificationTypes.lookup (.typeKey service.id m.notificationType)).map
        cachedNotificationType = db.typeOf m.serviceSlug m.notificationType := by
      rw [← type, Db.typeOf, show w.db.services.lookup _ = some service from known,
        Option.bind_some]
    refine ⟨fun unknown => ⟨rfl, ?_⟩, fun nt known => fun x _ => ?_⟩
    · rw [← type, show w.db.notificationTypes.lookup _ = none from unknown, Option.map_none]
    · have correct : db.typeOf m.serviceSlug m.notificationType =
          some (cachedNotificationType nt) := by
        rw [← type, show w.db.notificationTypes.lookup _ = some nt from known, Option.map_some]
      exact ⟨served.cacheType apart hm correct, rfl, correct⟩

/-- The level of a message whose service is known is loaded, if there is one. -/
theorem getOrLoadLevel_ensures (served : Served db ms now w) (apart : KeysApart ms)
    (hm : m ∈ ms) {notifType : CachedNotificationType}
    (typed : db.typeOf m.serviceSlug m.notificationType = some notifType) :
    (getOrLoadLevel ext inst (notificationLevelKey m.serviceSlug m.level) m.serviceSlug
        m.level).Ensures (exec ext) (Reliable table now) (fun _ _ => False)
      (fun w' level => Served db ms now w' ∧ w'.db = w.db ∧
        level = db.levelOf m.serviceSlug m.level) w := by
  simp only [getOrLoadLevel, perform, Prog.call_bind, Prog.ret_bind]
  intro x _
  simp only [exec]
  split
  next cached held =>
    have held : w.caches inst .notificationLevels
        (notificationLevelKey m.serviceSlug m.level) = some cached := by
      split at held
      · cases held
      · exact held
    exact ⟨served, rfl, (served.levels m hm inst cached held).symm⟩
  next =>
    have level := served.levelOf m.serviceSlug m.level
    rw [Prog.ensures_bind]
    refine ensures_run rfl fun x _ => ?_
    show Prog.Ensures _ _ _ _ _ w
    rw [Prog.ensures_bind, Prog.ensures_okOr]
    refine ⟨fun unknown => ?_, fun service known => ?_⟩
    · rw [← served.typeOf, Db.typeOf, show w.db.services.lookup _ = none from unknown,
        Option.bind_none] at typed
      cases typed
    rw [Prog.ensures_bind]
    refine ensures_run (q := .schemas (.getNotificationLevel service.id m.level)) rfl fun x _ => ?_
    show Prog.Ensures _ _ _ _ _ w
    have level : (w.db.notificationLevels.lookup (.key service.id m.level)).map
        cachedNotificationLevel = db.levelOf m.serviceSlug m.level := by
      rw [← level, Db.levelOf, show w.db.services.lookup _ = some service from known,
        Option.bind_some]
    split
    next row found =>
      have correct : db.levelOf m.serviceSlug m.level = some (cachedNotificationLevel row) := by
        rw [← level, show w.db.notificationLevels.lookup _ = some row from found, Option.map_some]
      exact fun x _ => ⟨served.cacheLevel apart hm correct, rfl, correct.symm⟩
    next found =>
      refine ⟨served, rfl, ?_⟩
      rw [← level, show w.db.notificationLevels.lookup _ = none from found, Option.map_none]

theorem levelOf_ensures (served : Served db ms now w) (apart : KeysApart ms) (hm : m ∈ ms)
    {notifType : CachedNotificationType}
    (typed : db.typeOf m.serviceSlug m.notificationType = some notifType) :
    (levelOf ext inst m).Ensures (exec ext) (Reliable table now) (fun _ _ => False)
      (fun w' level => Served db ms now w' ∧ w'.db = w.db ∧ level = db.messageLevel m) w := by
  unfold levelOf Db.messageLevel
  split
  · exact getOrLoadLevel_ensures served apart hm typed
  · exact ⟨served, rfl, rfl⟩

/-- A preference row that is missing is stored with a default that changes nothing. -/
theorem getOrCreateUserPreference_reads {env : Env} {db db' : Db} {userId : String}
    {r : UserPreferenceRow}
    (h : Db.Preferences.getOrCreateUserPreference env userId db = .ok (r, db')) :
    r.globalEnabled = db.globalEnabled userId ∧ db'.globalEnabled = db.globalEnabled := by
  unfold Db.Preferences.getOrCreateUserPreference upsertRow at h
  rcases found : db.userPreferences.lookup (.userId userId) with _ | s
  · obtain ⟨_, h, same⟩ := map_eq_ok.1 (found ▸ h)
    obtain ⟨t, stored, rfl⟩ := map_eq_ok.1 h
    have stored := Db.Notifications.insertRow_ok stored
    cases same
    refine ⟨by simp [Db.globalEnabled, found, Db.Preferences.defaultPreference], funext fun u => ?_⟩
    simp only [Db.globalEnabled, Table.lookup_insert stored]
    split
    next same =>
      obtain rfl : userId = u := userId_mem_keys.1 same
      simp [found, Db.Preferences.defaultPreference]
    next => rfl
  · rw [found] at h
    cases h
    refine ⟨by simp [Db.globalEnabled, found], funext fun u => ?_⟩
    simp only [Db.globalEnabled, Table.lookup_update, ite_self, Option.map_id']

theorem getOrCreateUserPreference_ok (env : Env) {db : Db} (userId : String)
    (fresh : db.userPreferences.lookup (.id env.uuid) = none) :
    ∃ r t, Db.Preferences.getOrCreateUserPreference env userId db =
        .ok (r, { db with userPreferences := t }) ∧
      r.globalEnabled = db.globalEnabled userId ∧
      ({ db with userPreferences := t } : Db).globalEnabled = db.globalEnabled := by
  obtain ⟨r, t, answer⟩ : ∃ r t, Db.Preferences.getOrCreateUserPreference env userId db =
      .ok (r, { db with userPreferences := t }) := by
    unfold Db.Preferences.getOrCreateUserPreference upsertRow
    rcases found : db.userPreferences.lookup (.userId userId) with _ | s
    · have free : ∀ k ∈ Schema.keys (Db.Preferences.defaultPreference env userId),
          db.userPreferences.lookup k = none := by
        intro k hk
        rcases List.mem_cons.1 hk with rfl | hk
        · exact fresh
        · rcases List.mem_singleton.1 hk with rfl
          exact found
      obtain ⟨t, stored⟩ := Table.insert_ok rfl free
      exact ⟨Db.Preferences.defaultPreference env userId, t, by simp [insertRow, stored, Except.map]⟩
    · exact ⟨_, _, rfl⟩
  exact ⟨r, t, answer, getOrCreateUserPreference_reads answer⟩

theorem same_prefs {db : Db} (env env' env'' : Env) {userId : String} {enabled : Bool}
    (global : enabled = db.globalEnabled userId) :
    CachedUserPrefs.Same
      { globalEnabled := enabled
        servicePrefs := (Db.Preferences.listServicePreferences env userId db).map cachedServicePref
        typePrefs := (Db.Preferences.listTypePreferences env' userId db).map cachedTypePref
        muteRules := (Db.MuteRules.listActiveMuteRules env'' userId db).map cachedMuteRule }
      (db.prefs userId env''.now) where
  globalEnabled := global
  servicePrefs := (sortOn_perm _ _ _).map _
  typePrefs := (sortOn_perm _ _ _).map _
  muteRules := (sortOn_perm _ _ _).map _

/-- The preferences of a user are loaded, as they are now or as they were at some time before. -/
theorem getOrLoadUserPrefs_ensures (served : Served db ms now w)
    (current : w.db.userPreferences = table) (userId : String) :
    (getOrLoadUserPrefs ext inst userId).Ensures (exec ext) (Reliable table now) (fun _ _ => False)
      (fun w' cached => Served db ms now w' ∧ w'.db.notifications = w.db.notifications ∧
        ∃ t ≤ now, cached.Same (db.prefs userId t)) w := by
  simp only [getOrLoadUserPrefs, perform, Prog.call_bind, Prog.ret_bind]
  intro x _
  simp only [exec]
  split
  next cached held =>
    have held : w.caches inst .userPrefs userId = some cached := by
      split at held
      · cases held
      · exact held
    exact ⟨served, rfl, served.prefs userId inst cached held⟩
  next =>
    rw [Prog.ensures_bind]
    refine ensures_run rfl fun x reliable => ?_
    obtain ⟨pref, t, answer, enabled, kept⟩ :=
      getOrCreateUserPreference_ok (x.env ext) userId (current ▸ reliable.fresh)
    simp only [Sql.exec, Db.Preferences.Query.exec, answer]
    set db' : Db := { w.db with userPreferences := t } with created
    have served : Served db ms now { w with db := db' } :=
      { served with globalEnabled := kept.trans served.globalEnabled }
    rw [Prog.ensures_bind]
    refine ensures_run rfl fun x₁ _ => ?_
    show Prog.Ensures _ _ _ _ _ { w with db := db' }
    rw [Prog.ensures_bind]
    refine ensures_run rfl fun x₂ _ => ?_
    show Prog.Ensures _ _ _ _ _ { w with db := db' }
    rw [Prog.ensures_bind]
    refine ensures_run rfl fun x₃ reliable => ?_
    show Prog.Ensures _ _ _ _ _ { w with db := db' }
    have same := same_prefs (x₁.env ext) (x₂.env ext) (x₃.env ext)
      (enabled.trans (congrFun kept userId).symm)
    rw [show (x₃.env ext).now = now from reliable.now, served.prefs_eq] at same
    exact fun _ _ => ⟨served.cachePrefs same, rfl, now, le_rfl, same⟩

/-! ## Storing -/

theorem expiresAtOf_ensures {E : World → String → Prop} (config : ResolvedConfig) :
    (expiresAtOf config).Ensures (exec ext) (Reliable table now) E
      (fun w' t => w' = w ∧ t = config.expiresAt now) w := by
  unfold expiresAtOf ResolvedConfig.expiresAt
  rcases config.ttlSeconds with _ | ttl
  · exact ⟨rfl, rfl⟩
  · exact fun x reliable => ⟨rfl, congrArg some (congrArg (· + _) reliable.now)⟩

theorem nextEscalationAtOf_ensures {E : World → String → Prop} (config : ResolvedConfig) :
    (nextEscalationAtOf config).Ensures (exec ext) (Reliable table now) E
      (fun w' t => w' = w ∧ t = config.nextEscalationAt now) w := by
  unfold nextEscalationAtOf ResolvedConfig.nextEscalationAt
  rcases config.escalationIntervalSeconds with _ | interval
  · exact ⟨rfl, rfl⟩
  · by_cases limited : config.maxEscalations > 0
    · simp only [limited, if_true, Option.bind_some]
      exact fun x reliable => ⟨rfl, congrArg some (congrArg (· + _) reliable.now)⟩
    · simp only [limited, if_false, Option.bind_some]
      exact ⟨rfl, rfl⟩

theorem Served.references (served : Served db ms now w) (r : NotificationRow) :
    Db.Notifications.references w.db r = Db.Notifications.references db r := by
  unfold Db.Notifications.references
  rw [served.services, served.notificationTypes, served.notificationLevels]

theorem persist_ensures (served : Served db ms now w) (m : IngestMessage)
    (notifType : CachedNotificationType) (levelId : Option Uuid) (config : ResolvedConfig) :
    let stored w' := Served db ms now w' ∧ w'.db.notifications =
      db.storeRow ((notificationOf m notifType levelId config (config.expiresAt now)
        (config.nextEscalationAt now)).row now) w.db.notifications
    (persist ext m notifType levelId config).Ensures (exec ext) (Reliable table now)
      (fun w' _ => stored w') (fun w' _ => stored w') w := by
  intro stored
  unfold persist
  rw [Prog.ensures_bind]
  refine (expiresAtOf_ensures config).mono (fun _ _ h => h) ?_
  rintro w _ ⟨rfl, rfl⟩
  rw [Prog.ensures_bind]
  refine (nextEscalationAtOf_ensures config).mono (fun _ _ h => h) ?_
  rintro w _ ⟨rfl, rfl⟩
  rw [Prog.ensures_bind]
  refine ensures_run rfl fun x reliable => ?_
  simp only [Sql.exec, Db.Notifications.Query.exec, Db.Notifications.insertNotification,
    served.references, show (x.env ext).now = now from reliable.now]
  rcases inserted : insertRow w.db.notifications _ _ with e | t
  · exact ⟨served, by rw [Db.storeRow, inserted]⟩
  · have stored : stored { w with db := { w.db with notifications := t } } :=
      ⟨{ served with }, by rw [Db.storeRow, inserted]⟩
    show Prog.Ensures _ _ _ _ _ { w with db := { w.db with notifications := t } }
    split
    · intro x _
      simp only [exec]
      split
      · exact ⟨{ stored.1 with }, stored.2⟩
      · exact stored
    · exact stored

/-- A message is stored as the tables say, whatever the caches hold. -/
theorem processMessage_ensures (served : Served db ms now w) (apart : KeysApart ms) (hm : m ∈ ms) :
    let stored w' := Served db ms now w' ∧
      w'.db.notifications = db.store m now w.db.notifications
    (processMessage ext inst (.ok m)).Ensures (exec ext) (Reliable w.db.userPreferences now)
      (fun w' _ => stored w') (fun w' _ => stored w') w := by
  intro stored
  simp only [processMessage, Prog.ofExcept, Prog.ret_bind, Prog.ensures_bind]
  refine (getOrLoadNotifType_ensures served apart hm).mono ?_ ?_
  · rintro _ _ ⟨rfl, untyped⟩
    exact ⟨served, by rw [Db.store, untyped]⟩
  rintro w₁ notifType ⟨served, same₁, typed⟩
  refine (levelOf_ensures served apart hm typed).mono (fun _ _ h => h.elim) ?_
  rintro w₂ _ ⟨served, same₂, rfl⟩
  refine (levelOf_ensures served apart hm typed).mono (fun _ _ h => h.elim) ?_
  rintro w₃ _ ⟨served, same₃, rfl⟩
  have same : w₃.db = w.db := same₃.trans (same₂.trans same₁)
  refine (getOrLoadUserPrefs_ensures served (same ▸ rfl) m.recipientUserId).mono
    (fun _ _ h => h.elim) ?_
  rintro w₄ userPrefs ⟨served, kept, t, before, loaded⟩ x reliable
  show Prog.Ensures _ _ _ _ (persist ext m notifType _ (resolve x.now userPrefs notifType _)) w₄
  rw [reliable.now, resolve_prefs loaded before]
  have stores : ∀ t, db.store m now t = db.storeRow (db.rowOf m now notifType) t := by
    intro t
    rw [Db.store, typed]
  refine (persist_ensures served m notifType _ _).mono ?_ ?_
  all_goals
    rintro w' _ ⟨served, stored⟩
    refine ⟨served, stored.trans ?_⟩
    rw [stores, kept, same]
    rfl

/-- A processor that receives a message stores it, and acknowledges it or hands it back. -/
theorem processorRun_stores (inst : ℕ) (served : Served db ms now w) (apart : KeysApart ms)
    (hm : m ∈ ms) {seq : ℕ} (received : w.stream[seq]? = some (.ok m)) {x : ℕ → Choice}
    (reliable : ∀ n, Reliable w.db.userPreferences now (x n)) :
    let w' := ((processorRun ext inst seq).run (exec ext) x w).2
    Served db ms now w' ∧ w'.db.notifications = db.store m now w.db.notifications := by
  let stored w' := Served db ms now w' ∧
    w'.db.notifications = db.store m now w.db.notifications
  have settled : ∀ w' result, stored w' → (settle seq result).Ensures (exec ext)
      (Reliable w.db.userPreferences now) (fun w' _ => stored w') (fun w' _ => stored w') w' := by
    rintro w' (e | _) stored x _
    · exact stored
    · simp only [exec]
      split
      · exact ⟨{ stored.1 with }, stored.2⟩
      · exact stored
  have ensures : (processorRun ext inst seq).Ensures (exec ext)
      (Reliable w.db.userPreferences now) (fun w' _ => stored w') (fun w' _ => stored w') w := by
    simp only [processorRun, perform, Prog.call_bind, Prog.ret_bind]
    intro x _
    simp only [exec, received, Prog.ensures_bind, Prog.ensures_attempt]
    exact (processMessage_ensures served apart hm).mono (fun w' _ h => settled w' _ h)
      fun w' _ h => settled w' _ h
  have done := ensures.run x reliable
  generalize (processorRun ext inst seq).run (exec ext) x w = result at done
  rcases result with ⟨e | _, w'⟩
  · exact done
  · exact done

end Loading

end Estafeta
