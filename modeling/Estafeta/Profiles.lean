import Estafeta.Inbox
import Estafeta.Isolation
import Estafeta.PreferenceStore

/-!
# Profiles

What a user has configured, as the user's own requests see it: settings, preferences and mute rules
(`Profile.Serves`), which nobody else changes; the services and types that it refers to are registered
meanwhile (`Profile.Drifts`). Whatever runs, there is an order of the user's calls that explains what
they have answered and what is configured (`configured`).
-/

open Relational Atomic

namespace Estafeta

/-- What a user has configured, and the ids of the services by their slugs and of the types of services
by their keys. -/
structure Profile where
  services : String → Option Uuid
  types : Uuid × String → Option Uuid
  settings : UserSettings
  servicePrefs : Uuid → Option (Bool × Option Int32)
  typePrefs : Uuid → Option Bool
  rules : Uuid → Option MuteRuleRow

namespace Profile

/-! ## The object -/

/-- The type with a key of the service with a slug. -/
def typeId (m : Profile) (slug key : String) : Option Uuid :=
  (m.services slug).bind fun id => m.types (id, key)

/-- What a rule is asked for: everything, or a service, or a type of it. Without a service, the type is
ignored. -/
inductive Concerns (m : Profile) (req : CreateMuteRuleRequest) : Option Uuid → Option Uuid → Prop where
  | all : req.serviceSlug = "" → Concerns m req none none
  | service {id} : req.serviceSlug ≠ "" → m.services req.serviceSlug = some id →
    req.notificationType = "" → Concerns m req (some id) none
  | type {id type} : req.serviceSlug ≠ "" → m.services req.serviceSlug = some id →
    req.notificationType ≠ "" → m.types (id, req.notificationType) = some type →
    Concerns m req (some id) (some type)

/-- What is answered to a request that succeeds, and what is configured then. -/
inductive Answers (ext : Ext) : (r : Rpc) → Profile → r.Resp → Profile → Prop where
  | updatePreferences {req m} : Answers ext (.updatePreferences req) m
      ⟨req.settings.globalEnabled, req.settings.catchUpMode, req.settings.sortMode, [], []⟩
      { m with settings := req.settings }
  | setServicePreference {req m id} : m.services req.serviceSlug = some id →
    Answers ext (.setServicePreference req) m ⟨req.serviceSlug, req.enabled, req.threshold.getD 0⟩
      { m with servicePrefs := Function.update m.servicePrefs id (some (req.enabled, req.threshold)) }
  | deleteServicePreference {req m id} : m.services req.serviceSlug = some id →
    Answers ext (.deleteServicePreference req) m ()
      { m with servicePrefs := Function.update m.servicePrefs id none }
  | setTypePreference {req m id} : m.typeId req.serviceSlug req.typeKey = some id →
    Answers ext (.setTypePreference req) m ⟨req.serviceSlug, req.typeKey, req.enabled⟩
      { m with typePrefs := Function.update m.typePrefs id (some req.enabled) }
  | deleteTypePreference {req m id} : m.typeId req.serviceSlug req.typeKey = some id →
    Answers ext (.deleteTypePreference req) m ()
      { m with typePrefs := Function.update m.typePrefs id none }
  | createMuteRule {req m} {r : MuteRuleRow} : m.Concerns req r.serviceId r.notificationTypeId →
    r.mutedUntil = (req.mutedUntil.bind fun t => ext.fromTimestamp t.seconds t.nanos.toUInt32) →
    m.rules r.id = none →
    Answers ext (.createMuteRule req) m ⟨ext.showUuid r.id, req.serviceSlug, req.notificationType,
      optTimestamp r.mutedUntil, toTimestamp r.createdAt⟩
      { m with rules := Function.update m.rules r.id (some r) }
  | deleteMuteRule {req m id r} : ext.parseUuid req.ruleId = some id → m.rules id = some r →
    Answers ext (.deleteMuteRule req) m () { m with rules := Function.update m.rules id none }
  | listMuteRules {m} {rows : List MuteRuleRow} : (rows.map (·.id)).Nodup →
    (∀ r, r ∈ rows ↔ m.rules r.id = some r) →
    (rows.Pairwise fun r r' => r'.createdAt ≤ r.createdAt) →
    Answers ext .listMuteRules m ⟨rows.map fun r =>
      ⟨ext.showUuid r.id, "", "", optTimestamp r.mutedUntil, toTimestamp r.createdAt⟩⟩ m

/-- What a request names is not there. -/
def Lacks (ext : Ext) (m : Profile) : Rpc → Prop
  | .setServicePreference req => m.services req.serviceSlug = none
  | .deleteServicePreference req => m.services req.serviceSlug = none
  | .setTypePreference req => m.typeId req.serviceSlug req.typeKey = none
  | .deleteTypePreference req => m.typeId req.serviceSlug req.typeKey = none
  | .createMuteRule req => req.serviceSlug ≠ "" ∧ (m.services req.serviceSlug = none ∨
    req.notificationType ≠ "" ∧ m.typeId req.serviceSlug req.notificationType = none)
  | .deleteMuteRule req => ∃ id, ext.parseUuid req.ruleId = some id ∧ m.rules id = none
  | _ => False

/-- Why a request is refused: the database has failed, or the request cannot be read, or what it names is
not there. -/
inductive Refuses (ext : Ext) : Rpc → Profile → Code → Prop where
  | internal {r m} : Refuses ext r m .internal
  | unread {req m} : ext.parseUuid req.ruleId = none →
    Refuses ext (.deleteMuteRule req) m .invalidArgument
  | missing {r m} : m.Lacks ext r → Refuses ext r m .notFound

/-- One call is served. A call that is refused leaves everything as it is. -/
inductive Serves (ext : Ext) : Call → Profile → Except Failure Outcome → Profile → Prop where
  | answered {inst c r m a m'} : Answers ext r m a m' →
    Serves ext (.rpc inst (some c) r) m (.ok (some ⟨r, a⟩)) m'
  | refused {inst c r m s} : Refuses ext r m s.code →
    Serves ext (.rpc inst (some c) r) m (.error (.status s)) m

/-- What others do: services and types are registered, and keep their ids. -/
structure Drifts (m m' : Profile) : Prop where
  services : ∀ slug id, m.services slug = some id → m'.services slug = some id
  types : ∀ i id, m.types i = some id → m'.types i = some id
  settings : m'.settings = m.settings
  servicePrefs : m'.servicePrefs = m.servicePrefs
  typePrefs : m'.typePrefs = m.typePrefs
  rules : m'.rules = m.rules

theorem Drifts.refl (m : Profile) : m.Drifts m :=
  ⟨fun _ _ known => known, fun _ _ known => known, rfl, rfl, rfl, rfl⟩

end Profile

/-- The requests that configure, and the listing of the rules. -/
def Rpc.configures : Rpc → Bool
  | .updatePreferences _ => true
  | .setServicePreference _ => true
  | .deleteServicePreference _ => true
  | .setTypePreference _ => true
  | .deleteTypePreference _ => true
  | .createMuteRule _ => true
  | .deleteMuteRule _ => true
  | .listMuteRules => true
  | _ => false

/-- The calls with which a user configures. -/
def Call.Configures (userId : String) : Call → Prop
  | .rpc _ (some c) r => c.subject = userId ∧ r.configures = true
  | _ => False

/-- What is configured for a user. -/
def Db.profile (userId : String) (db : Db) : Profile where
  services := db.services.content slugKey fun r => r.id
  types := db.notificationTypes.content typeKeyOf fun r => r.id
  settings := db.settings userId
  servicePrefs id := db.servicePrefs (userId, id)
  typePrefs id := db.typePrefs (userId, id)
  rules id := (db.muteRules.lookup id).filter fun r => r.userId = userId

/-! ## The tables -/

section Tables

variable {db db' : Db} {env : Env} {userId : String}

/-- What the tables hold. -/
def Db.prefMap (db : Db) : PrefMap where
  settings userId := some (db.settings userId)
  services := db.servicePrefs
  types := db.typePrefs

theorem prefsAgree_prefMap (db : Db) : PrefsAgree db db.prefMap := ⟨fun _ => rfl, rfl, rfl⟩

theorem update_pair {V : Type} (f : String × Uuid → Option V) (id : Uuid) (v : Option V) :
    (fun id' => Function.update f (userId, id) v (userId, id')) =
      Function.update (fun id' => f (userId, id')) id v := by
  funext id'
  rw [Function.update_apply, Function.update_apply]
  exact if_congr (by simp) rfl rfl

theorem Db.profile_prefs {q : Db.Preferences.Query} {a : q.Resp} (ok : q.exec env db = .ok (a, db'))
    {m : PrefMap} (agree : PrefsAgree db' m) : db'.profile userId =
      { db.profile userId with
        settings := (m.settings userId).getD .default
        servicePrefs := fun id => m.services (userId, id)
        typePrefs := fun id => m.types (userId, id) } := by
  have frame := Db.Preferences.Query.exec_frame ok
  have services : db'.services = db.services := by
    rw [frame]
  have types : db'.notificationTypes = db.notificationTypes := by
    rw [frame]
  have rules : db'.muteRules = db.muteRules := by
    rw [frame]
  unfold Db.profile
  rw [services, types, rules, agree.settings, agree.services, agree.types]

theorem Db.profile_getOrCreate {owner : String} {row : UserPreferenceRow}
    (ok : Db.Preferences.getOrCreateUserPreference env owner db = .ok (row, db')) :
    db'.profile userId = db.profile userId :=
  Db.profile_prefs (q := .getOrCreateUserPreference owner) ok ((prefsAgree_prefMap db).getOrCreate ok)

/-- What an upsert writes, into a new row or into the one that is there, is in the row it answers. -/
theorem upsertRow_written {ρ V : Type} [Schema ρ] {t t' : Table ρ} {k : Schema.Key ρ} {r a : ρ}
    {f : Assign ρ} {references : Bool} (view : ρ → V)
    (ok : upsertRow t k r f references = .ok (a, t')) (same : ∀ s, view (f.set s) = view r) :
    view a = view r := by
  rcases upsertRow_ok ok with ⟨old, -, rfl, -⟩ | ⟨-, rfl, -⟩
  · exact same old
  · rfl

theorem Db.profile_update {enabled : Bool} {catchUp sort : String} {row : UserPreferenceRow}
    (ok : Db.Preferences.updateUserPreference env userId enabled catchUp sort db = .ok (row, db')) :
    row.settings = ⟨enabled, catchUp, sort⟩ ∧
      db'.profile userId = { db.profile userId with settings := ⟨enabled, catchUp, sort⟩ } := by
  constructor
  · obtain ⟨⟨s, t⟩, upserted, same⟩ := map_eq_ok.1 ok
    cases same
    exact upsertRow_written UserPreferenceRow.settings upserted fun _ => rfl
  · rw [Db.profile_prefs (q := .updateUserPreference ..) ok ((prefsAgree_prefMap db).update ok)]
    dsimp only
    rw [Function.update_self]
    rfl

theorem Db.profile_servicePrefs {q : Db.Preferences.Query} {a : q.Resp}
    (ok : q.exec env db = .ok (a, db')) {id : Uuid} {v : Option (Bool × Option Int32)}
    (agree : PrefsAgree db' { db.prefMap with
      services := Function.update db.prefMap.services (userId, id) v }) :
    db'.profile userId = { db.profile userId with
      servicePrefs := Function.update (db.profile userId).servicePrefs id v } := by
  rw [Db.profile_prefs ok agree]
  dsimp only
  rw [update_pair]
  rfl

theorem Db.profile_typePrefs {q : Db.Preferences.Query} {a : q.Resp}
    (ok : q.exec env db = .ok (a, db')) {id : Uuid} {v : Option Bool}
    (agree : PrefsAgree db' { db.prefMap with
      types := Function.update db.prefMap.types (userId, id) v }) :
    db'.profile userId = { db.profile userId with
      typePrefs := Function.update (db.profile userId).typePrefs id v } := by
  rw [Db.profile_prefs ok agree]
  dsimp only
  rw [update_pair]
  rfl

theorem Db.profile_setService {id : Uuid} {enabled : Bool} {threshold : Option Int32}
    {row : UserServicePreferenceRow}
    (ok : Db.Preferences.upsertServicePreference env userId id enabled threshold db = .ok (row, db')) :
    row.value = (enabled, threshold) ∧ db'.profile userId = { db.profile userId with
      servicePrefs :=
        Function.update (db.profile userId).servicePrefs id (some (enabled, threshold)) } := by
  refine ⟨?_, Db.profile_servicePrefs (q := .upsertServicePreference ..) ok
    ((prefsAgree_prefMap db).setService ok)⟩
  obtain ⟨⟨s, t⟩, upserted, same⟩ := map_eq_ok.1 ok
  cases same
  exact upsertRow_written UserServicePreferenceRow.value upserted fun _ => rfl

theorem Db.profile_deleteService (env : Env) {id : Uuid}
    (ok : Db.Preferences.deleteServicePreference userId id db = .ok ((), db')) :
    db'.profile userId = { db.profile userId with
      servicePrefs := Function.update (db.profile userId).servicePrefs id none } := by
  have executed : (Db.Preferences.Query.deleteServicePreference userId id).exec env db =
    .ok ((), db') := ok
  exact Db.profile_servicePrefs executed ((prefsAgree_prefMap db).deleteService ok)

theorem Db.profile_setType {id : Uuid} {enabled : Bool} {row : UserTypePreferenceRow}
    (ok : Db.Preferences.upsertTypePreference env userId id enabled db = .ok (row, db')) :
    row.enabled = enabled ∧ db'.profile userId = { db.profile userId with
      typePrefs := Function.update (db.profile userId).typePrefs id (some enabled) } := by
  refine ⟨?_, Db.profile_typePrefs (q := .upsertTypePreference ..) ok
    ((prefsAgree_prefMap db).setType ok)⟩
  obtain ⟨⟨s, t⟩, upserted, same⟩ := map_eq_ok.1 ok
  cases same
  exact upsertRow_written UserTypePreferenceRow.enabled upserted fun _ => rfl

theorem Db.profile_deleteType (env : Env) {id : Uuid}
    (ok : Db.Preferences.deleteTypePreference userId id db = .ok ((), db')) :
    db'.profile userId = { db.profile userId with
      typePrefs := Function.update (db.profile userId).typePrefs id none } := by
  have executed : (Db.Preferences.Query.deleteTypePreference userId id).exec env db =
    .ok ((), db') := ok
  exact Db.profile_typePrefs executed ((prefsAgree_prefMap db).deleteType ok)

/-! ### Mute rules -/

theorem Db.profile_rules {id : Uuid} {r : MuteRuleRow} : (db.profile userId).rules id = some r ↔
    r ∈ db.muteRules.rows ∧ r.id = id ∧ r.userId = userId := by
  show Option.filter _ _ = _ ↔ _
  rw [Option.filter_eq_some_iff, decide_eq_true_iff, Table.lookup_eq_some, and_assoc]
  refine and_congr_right fun _ => and_congr_left fun _ => ?_
  show id ∈ [r.id] ↔ _
  rw [List.mem_singleton, eq_comm]

theorem Db.profile_insertRule {service type : Option Uuid} {until_ : Option Time} {row : MuteRuleRow}
    (ok : Db.MuteRules.insertMuteRule env userId service type until_ db = .ok (row, db')) :
    row.serviceId = service ∧ row.notificationTypeId = type ∧ row.mutedUntil = until_ ∧
      (db.profile userId).rules row.id = none ∧ db'.profile userId = { db.profile userId with
        rules := Function.update (db.profile userId).rules row.id (some row) } := by
  obtain ⟨t, stored, same⟩ := map_eq_ok.1 ok
  cases same
  have stored := Db.Notifications.insertRow_ok stored
  refine ⟨rfl, rfl, rfl, ?_, Profile.mk.injEq .. |>.mpr ⟨rfl, rfl, rfl, rfl, rfl, funext fun id => ?_⟩⟩
  · show Option.filter _ (db.muteRules.lookup env.uuid) = none
    rw [Table.insert_fresh stored (.head _)]
    rfl
  · show Option.filter _ (t.lookup id) = _
    rw [Table.lookup_insert stored, Function.update_apply]
    show Option.filter _ (if id ∈ [env.uuid] then _ else _) = if id = env.uuid then _ else _
    by_cases same : id = env.uuid
    · rw [if_pos (List.mem_singleton.2 same), if_pos same, Option.filter_some]
      exact if_pos (decide_eq_true rfl)
    · rw [if_neg fun mine => same (List.mem_singleton.1 mine), if_neg same]
      rfl

theorem Db.profile_deleteRule (id : Uuid) :
    ({ db with muteRules := db.muteRules.delete fun r => r.id = id && r.userId = userId } : Db).profile
      userId = { db.profile userId with
        rules := Function.update (db.profile userId).rules id none } := by
  refine Profile.mk.injEq .. |>.mpr ⟨rfl, rfl, rfl, rfl, rfl, funext fun id' => Option.ext fun r => ?_⟩
  refine (@Db.profile_rules { db with muteRules := db.muteRules.delete _ } ..).trans ?_
  rw [Function.update_apply]
  show r ∈ db.muteRules.rows.filter _ ∧ _ ↔ _
  rw [List.mem_filter]
  have kept : (!(decide (r.id = id) && decide (r.userId = userId))) = true ↔
      ¬ (r.id = id ∧ r.userId = userId) := by
    rw [Bool.not_eq_true', ← Bool.not_eq_true, Bool.and_eq_true, decide_eq_true_iff, decide_eq_true_iff]
  rw [kept]
  by_cases same : id' = id
  · rw [if_pos same, same]
    constructor
    · rintro ⟨⟨_, gone⟩, mine⟩
      exact absurd mine gone
    · rintro ⟨⟩
  · rw [if_neg same, Db.profile_rules]
    constructor
    · rintro ⟨⟨stored, _⟩, mine⟩
      exact ⟨stored, mine⟩
    · rintro ⟨stored, mine, own⟩
      exact ⟨⟨stored, fun gone => same (mine.symm.trans gone.1)⟩, mine, own⟩

end Tables

/-! ## Requests alone -/

section Requests

variable {ext : Ext} {inst : ℕ} {c : AuthClaims} {w : World}

section Rules

variable {E : World → Status → Prop}

theorem served_serviceBySlug {slug : String} {Q : World → ServiceRow → Prop}
    (fails : ∀ t, E w (.internal t))
    (unknown : w.db.services.lookup (.slug slug) = none → E w (.notFound "service not found"))
    (rest : ∀ service, w.db.services.lookup (.slug slug) = some service → Q w service) :
    (SchemaRegistryService.serviceBySlug ext slug).Ensures (exec ext) (fun _ => True) E Q w := by
  unfold SchemaRegistryService.serviceBySlug
  rw [Prog.ensures_bind]
  refine ensures_internal (q := .services (.getServiceBySlug slug)) fails fun x a db ok => ?_
  cases ok
  exact (Prog.ensures_okOr ..).2 ⟨unknown, rest⟩

theorem served_typeByKey {id : Uuid} {key : String} {Q : World → NotificationTypeRow → Prop}
    (fails : ∀ t, E w (.internal t))
    (unknown : w.db.notificationTypes.lookup (.typeKey id key) = none →
      E w (.notFound "notification type not found"))
    (rest : ∀ nt, w.db.notificationTypes.lookup (.typeKey id key) = some nt → Q w nt) :
    (UserConfigService.typeByKey ext id key).Ensures (exec ext) (fun _ => True) E Q w := by
  unfold UserConfigService.typeByKey
  rw [Prog.ensures_bind]
  refine ensures_internal (q := .schemas (.getNotificationType id key)) fails fun x a db ok => ?_
  cases ok
  exact (Prog.ensures_okOr ..).2 ⟨unknown, rest⟩

end Rules

/-- Run alone, a request is served as the profile of its caller serves it. -/
def Rpc.Configured (ext : Ext) (inst : ℕ) (c : AuthClaims) (r : Rpc) (w : World) : Prop :=
  (r.handle ext inst (some c)).Ensures (exec ext) (fun _ => True)
    (fun w' s => w'.db = w.db ∧ Profile.Refuses ext r (w.db.profile c.subject) s.code)
    (fun w' a => Profile.Answers ext r (w.db.profile c.subject) a (w'.db.profile c.subject)) w

theorem unconfigured {r : Rpc} {m : Profile} (t : String) :
    w.db = w.db ∧ Profile.Refuses ext r m (Status.internal t).code :=
  ⟨rfl, .internal⟩

theorem Db.profile_service {slug : String} {service : ServiceRow} {db : Db} {userId : String}
    (found : db.services.lookup (.slug slug) = some service) :
    (db.profile userId).services slug = some service.id :=
  congrArg (Option.map _) found

theorem Db.profile_unknown {slug : String} {db : Db} {userId : String}
    (missing : db.services.lookup (.slug slug) = none) : (db.profile userId).services slug = none :=
  congrArg (Option.map _) missing

theorem updatePreferences_configured (req : UpdatePreferencesRequest) :
    (Rpc.updatePreferences req).Configured ext inst c w := by
  unfold Rpc.Configured Rpc.handle UserConfigService.updatePreferences
  simp only [Prog.ensures_bind]
  refine ensures_caller ?_
  refine ensures_internal (q := .preferences (.updateUserPreference ..)) unconfigured
    fun x row db ok => ?_
  obtain ⟨stored, updated⟩ := Db.profile_update ok
  simp only [empty_isEmpty] at stored updated
  obtain ⟨enabled, catchUp, sort⟩ := UserSettings.mk.injEq .. |>.mp stored
  show Profile.Answers _ _ _ _ (Db.profile _ db)
  rw [updated, enabled, catchUp, sort]
  exact .updatePreferences

theorem setServicePreference_configured (req : SetServicePreferenceRequest) :
    (Rpc.setServicePreference req).Configured ext inst c w := by
  unfold Rpc.Configured Rpc.handle UserConfigService.setServicePreference
  simp only [Prog.ensures_bind]
  refine ensures_caller ?_
  refine served_serviceBySlug unconfigured (fun missing => ⟨rfl, .missing (Db.profile_unknown missing)⟩)
    fun service found => ?_
  rw [positive_threshold]
  refine ensures_internal (q := .preferences (.upsertServicePreference ..)) unconfigured
    fun x row db ok => ?_
  obtain ⟨stored, updated⟩ := Db.profile_setService ok
  obtain ⟨enabled, threshold⟩ := Prod.mk.inj stored
  show Profile.Answers _ _ _ _ (Db.profile _ db)
  rw [updated, enabled, threshold]
  exact .setServicePreference (Db.profile_service found)

theorem deleteServicePreference_configured (req : DeleteServicePreferenceRequest) :
    (Rpc.deleteServicePreference req).Configured ext inst c w := by
  unfold Rpc.Configured Rpc.handle UserConfigService.deleteServicePreference
  simp only [Prog.ensures_bind]
  refine ensures_caller ?_
  refine served_serviceBySlug unconfigured (fun missing => ⟨rfl, .missing (Db.profile_unknown missing)⟩)
    fun service found => ?_
  refine ensures_internal (q := .preferences (.deleteServicePreference ..)) unconfigured
    fun x row db ok => ?_
  show Profile.Answers _ _ _ _ (Db.profile _ db)
  rw [Db.profile_deleteService (x.env ext) ok]
  exact .deleteServicePreference (Db.profile_service found)

theorem Db.profile_type {slug key : String} {service : ServiceRow} {nt : NotificationTypeRow} {db : Db}
    {userId : String} (found : db.services.lookup (.slug slug) = some service)
    (typed : db.notificationTypes.lookup (.typeKey service.id key) = some nt) :
    (db.profile userId).typeId slug key = some nt.id := by
  unfold Profile.typeId
  rw [Db.profile_service found, Option.bind_some]
  exact congrArg (Option.map _) typed

theorem Db.profile_untyped {slug key : String} {service : ServiceRow} {db : Db} {userId : String}
    (found : db.services.lookup (.slug slug) = some service)
    (missing : db.notificationTypes.lookup (.typeKey service.id key) = none) :
    (db.profile userId).typeId slug key = none := by
  unfold Profile.typeId
  rw [Db.profile_service found, Option.bind_some]
  exact congrArg (Option.map _) missing

theorem Db.profile_unserved {slug key : String} {db : Db} {userId : String}
    (missing : db.services.lookup (.slug slug) = none) : (db.profile userId).typeId slug key = none := by
  unfold Profile.typeId
  rw [Db.profile_unknown missing]
  rfl

theorem setTypePreference_configured (req : SetTypePreferenceRequest) :
    (Rpc.setTypePreference req).Configured ext inst c w := by
  unfold Rpc.Configured Rpc.handle UserConfigService.setTypePreference
  simp only [Prog.ensures_bind]
  refine ensures_caller ?_
  refine served_serviceBySlug unconfigured (fun missing => ⟨rfl, .missing (Db.profile_unserved missing)⟩)
    fun service found => ?_
  refine served_typeByKey unconfigured
    (fun missing => ⟨rfl, .missing (Db.profile_untyped found missing)⟩) fun nt typed => ?_
  refine ensures_internal (q := .preferences (.upsertTypePreference ..)) unconfigured
    fun x row db ok => ?_
  obtain ⟨stored, updated⟩ := Db.profile_setType ok
  show Profile.Answers _ _ _ _ (Db.profile _ db)
  rw [updated, stored]
  exact .setTypePreference (Db.profile_type found typed)

theorem deleteTypePreference_configured (req : DeleteTypePreferenceRequest) :
    (Rpc.deleteTypePreference req).Configured ext inst c w := by
  unfold Rpc.Configured Rpc.handle UserConfigService.deleteTypePreference
  simp only [Prog.ensures_bind]
  refine ensures_caller ?_
  refine served_serviceBySlug unconfigured (fun missing => ⟨rfl, .missing (Db.profile_unserved missing)⟩)
    fun service found => ?_
  refine served_typeByKey unconfigured
    (fun missing => ⟨rfl, .missing (Db.profile_untyped found missing)⟩) fun nt typed => ?_
  refine ensures_internal (q := .preferences (.deleteTypePreference ..)) unconfigured
    fun x row db ok => ?_
  show Profile.Answers _ _ _ _ (Db.profile _ db)
  rw [Db.profile_deleteType (x.env ext) ok]
  exact .deleteTypePreference (Db.profile_type found typed)

theorem served_muteService {E : World → Status → Prop} {slug : String} {Q : World → Option Uuid → Prop}
    (fails : ∀ t, E w (.internal t))
    (unknown : slug ≠ "" → w.db.services.lookup (.slug slug) = none →
      E w (.notFound "service not found"))
    (all : slug = "" → Q w none)
    (rest : ∀ service, slug ≠ "" → w.db.services.lookup (.slug slug) = some service →
      Q w (some service.id)) :
    (UserConfigService.muteService ext slug).Ensures (exec ext) (fun _ => True) E Q w := by
  unfold UserConfigService.muteService
  split
  next named =>
    have named : slug ≠ "" := by simpa [empty_isEmpty] using named
    rw [Prog.ensures_bind]
    exact served_serviceBySlug fails (unknown named) fun service found => rest service named found
  next unnamed =>
    exact all (by simpa [empty_isEmpty] using unnamed)

theorem served_muteType {E : World → Status → Prop} {id : Uuid} {key : String}
    {Q : World → Option Uuid → Prop} (fails : ∀ t, E w (.internal t))
    (unknown : key ≠ "" → w.db.notificationTypes.lookup (.typeKey id key) = none →
      E w (.notFound "notification type not found"))
    (all : key = "" → Q w none)
    (rest : ∀ nt, key ≠ "" → w.db.notificationTypes.lookup (.typeKey id key) = some nt →
      Q w (some nt.id)) :
    (UserConfigService.muteType ext (some id) key).Ensures (exec ext) (fun _ => True) E Q w := by
  unfold UserConfigService.muteType
  dsimp only
  split
  next named =>
    have named : key ≠ "" := by simpa [empty_isEmpty] using named
    rw [Prog.ensures_bind]
    exact served_typeByKey fails (unknown named) fun nt found => rest nt named found
  next unnamed =>
    exact all (by simpa [empty_isEmpty] using unnamed)

theorem insertMuteRule_configured {req : CreateMuteRuleRequest} {service type : Option Uuid}
    (concerns : (w.db.profile c.subject).Concerns req service type) :
    (ext.query (.muteRules (.insertMuteRule c.subject service type
      (req.mutedUntil.bind fun t => ext.fromTimestamp t.seconds t.nanos.toUInt32)))).Ensures (exec ext)
      (fun _ => True)
      (fun w' s => w'.db = w.db ∧
        Profile.Refuses ext (.createMuteRule req) (w.db.profile c.subject) s.code)
      (fun w' (row : MuteRuleRow) => Profile.Answers ext (.createMuteRule req)
        (w.db.profile c.subject) ⟨ext.showUuid row.id, req.serviceSlug, req.notificationType,
          optTimestamp row.mutedUntil, toTimestamp row.createdAt⟩ (w'.db.profile c.subject)) w := by
  refine ensures_internal (q := .muteRules (.insertMuteRule ..)) unconfigured
    fun x row db ok => ?_
  obtain ⟨ofService, ofType, muted, free, inserted⟩ := Db.profile_insertRule ok
  show Profile.Answers _ _ _ _ (Db.profile _ db)
  rw [inserted]
  have concerns : (w.db.profile c.subject).Concerns req row.serviceId row.notificationTypeId := by
    rw [ofService, ofType]
    exact concerns
  exact .createMuteRule concerns muted free

theorem createMuteRule_configured (req : CreateMuteRuleRequest) :
    (Rpc.createMuteRule req).Configured ext inst c w := by
  unfold Rpc.Configured Rpc.handle UserConfigService.createMuteRule
  simp only [Prog.ensures_bind]
  refine ensures_caller ?_
  refine served_muteService unconfigured
    (fun named missing => ⟨rfl, .missing ⟨named, .inl (Db.profile_unknown missing)⟩⟩) (fun all => ?_)
    fun service named found => ?_
  · exact insertMuteRule_configured (.all all)
  refine served_muteType unconfigured (fun typed missing => ⟨rfl, .missing ⟨named, .inr ⟨typed, ?_⟩⟩⟩)
    (fun all => ?_) fun nt typed there => ?_
  · exact Db.profile_untyped found missing
  · exact insertMuteRule_configured (.service named (Db.profile_service found) all)
  · exact insertMuteRule_configured
      (.type named (Db.profile_service found) typed (congrArg (Option.map _) there))

theorem deleteMuteRule_configured (req : DeleteMuteRuleRequest) :
    (Rpc.deleteMuteRule req).Configured ext inst c w := by
  unfold Rpc.Configured Rpc.handle UserConfigService.deleteMuteRule
  simp only [Prog.ensures_bind]
  refine ensures_caller ?_
  refine (Prog.ensures_okOr ..).2 ⟨fun unparsed => ⟨rfl, .unread unparsed⟩, fun id parsed => ?_⟩
  refine ensures_internal (q := .muteRules (.deleteMuteRule c.subject id)) unconfigured
    fun x deleted db ok => ?_
  cases ok
  have picked : ∀ r, r ∈ w.db.muteRules.select (fun r => r.id = id && r.userId = c.subject) ↔
      (w.db.profile c.subject).rules id = some r := by
    intro r
    rw [Table.mem_select, Db.profile_rules, Bool.and_eq_true, decide_eq_true_iff, decide_eq_true_iff]
  refine ensures_ensure (fun none => ?_) fun some => ?_
  · have nothing : w.db.muteRules.select (fun r => r.id = id && r.userId = c.subject) = [] :=
      List.length_eq_zero_iff.1 (Nat.eq_zero_of_not_pos (of_decide_eq_false none))
    refine ⟨?_, .missing ⟨id, parsed, Option.eq_none_iff_forall_ne_some.2 fun r found => ?_⟩⟩
    · show ({ w.db with muteRules := w.db.muteRules.delete _ } : Db) = w.db
      rw [Table.delete_of_select nothing]
    · exact List.not_mem_nil (nothing ▸ (picked r).2 found)
  · obtain ⟨r, mem⟩ := List.exists_mem_of_length_pos (of_decide_eq_true some)
    show Profile.Answers _ _ _ _ (Db.profile _ { w.db with muteRules := w.db.muteRules.delete _ })
    rw [Db.profile_deleteRule]
    exact .deleteMuteRule parsed ((picked r).1 mem)

theorem listMuteRules_configured : Rpc.listMuteRules.Configured ext inst c w := by
  unfold Rpc.Configured Rpc.handle UserConfigService.listMuteRules
  simp only [Prog.ensures_bind]
  refine ensures_caller ?_
  refine ensures_internal (q := .muteRules (.listMuteRules c.subject)) unconfigured
    fun x rows db ok => ?_
  cases ok
  refine .listMuteRules ?_ (fun r => ?_) ?_
  · have all : (w.db.muteRules.rows.map (·.id)).Nodup := by
      refine List.pairwise_map.2 (w.db.muteRules.unique.imp fun apart same => ?_)
      exact apart _ (.head _) (same ▸ .head _)
    refine (((sortOn_perm ..).map _).nodup_iff).2 ?_
    exact all.sublist (List.filter_sublist.map _)
  · rw [Db.profile_rules]
    refine mem_sortOn.trans (Table.mem_select.trans ?_)
    rw [decide_eq_true_iff]
    exact and_congr_right fun _ => (and_iff_right rfl).symm
  · exact (sortOn_sorted (fun r : MuteRuleRow => -r.createdAt) ..).imp Int.neg_le_neg_iff.1

/-- Run alone, a request is served as the profile of its caller serves it. -/
theorem profile_configured (r : Rpc) (mine : r.configures = true) : r.Configured ext inst c w := by
  cases r with
  | updatePreferences req => exact updatePreferences_configured req
  | setServicePreference req => exact setServicePreference_configured req
  | deleteServicePreference req => exact deleteServicePreference_configured req
  | setTypePreference req => exact setTypePreference_configured req
  | deleteTypePreference req => exact deleteTypePreference_configured req
  | createMuteRule req => exact createMuteRule_configured req
  | deleteMuteRule req => exact deleteMuteRule_configured req
  | listMuteRules => exact listMuteRules_configured
  | _ => cases mine

theorem Rpc.Configured.call {r : Rpc} (configured : r.Configured ext inst c w) (x : ℕ → Choice) :
    Profile.Serves ext (.rpc inst (some c) r) (w.db.profile c.subject)
      ((Call.body ext (.rpc inst (some c) r)).run (exec ext) x w).1
      (((Call.body ext (.rpc inst (some c) r)).run (exec ext) x w).2.db.profile c.subject) := by
  have ends := (ensures_body configured).run x fun _ => trivial
  split at ends
  next a returned =>
    obtain ⟨a, rfl, answers⟩ := ends
    rw [returned]
    exact .answered answers
  next f failed =>
    obtain ⟨s, rfl, same, refuses⟩ := ends
    rw [failed, same]
    exact .refused refuses

end Requests

/-! ## Runs -/

section Runs

variable {ext : Ext} {w₀ : World} {es : History} {p : State} {env : Env} {db db' : Db} {userId : String}

/-- Where the rows of a user are the same, so is what is configured. -/
theorem Db.Agree.profile (agree : db.Agree userId db') : db.profile userId = db'.profile userId := by
  refine Profile.mk.injEq .. |>.mpr ⟨?_, ?_, ?_, funext fun id => ?_, funext fun id => ?_,
    funext fun id => Option.ext fun r => ?_⟩
  · rw [agree.services]
  · rw [agree.notificationTypes]
  · have same := agree.userPreferences.lookup (k := UserPreferenceKey.userId userId) fun r hr =>
      decide_eq_true (userId_mem_keys.1 hr)
    exact congrArg (fun row : Option UserPreferenceRow => (row.map (·.settings)).getD .default) same
  · have same := agree.userServicePreferences.lookup (k := UserServicePreferenceKey.service userId id)
      fun r hr => decide_eq_true (service_mem_keys.1 hr).1
    exact congrArg (Option.map UserServicePreferenceRow.value) same
  · have same := agree.userTypePreferences.lookup (k := UserTypePreferenceKey.type userId id)
      fun r hr => decide_eq_true (type_mem_keys.1 hr).1
    exact congrArg (Option.map UserTypePreferenceRow.enabled) same
  · refine Db.profile_rules.trans (Iff.trans ?_ Db.profile_rules.symm)
    have own : r.userId = userId → (r ∈ db.muteRules.rows ↔ r ∈ db'.muteRules.rows) :=
      fun mine => agree.muteRules.mem (decide_eq_true mine)
    constructor
    · rintro ⟨stored, mine, owned⟩
      exact ⟨(own owned).1 stored, mine, owned⟩
    · rintro ⟨stored, mine, owned⟩
      exact ⟨(own owned).2 stored, mine, owned⟩

/-- What changes only rows of another user changes nothing that a user has configured. -/
theorem Db.OnlyRowsOf.profile {other : String} (h : db.OnlyRowsOf other db') (apart : other ≠ userId) :
    db'.profile userId = db.profile userId :=
  (h.agree apart ⟨rfl, rfl, .refl _, .refl _, .refl _, .refl _, .refl _⟩).profile

/-- What touches nothing but the registry keeps the registered ids, and the rest. -/
theorem Db.Registered.drifts (registered : db.Registered db')
    (preferences : db'.userPreferences = db.userPreferences)
    (services : db'.userServicePreferences = db.userServicePreferences)
    (types : db'.userTypePreferences = db.userTypePreferences)
    (rules : db'.muteRules = db.muteRules) : (db.profile userId).Drifts (db'.profile userId) where
  services slug id known := Table.content_grows registered.services
    (fun r s same => ServiceKey.id.inj (List.cons.inj same).1) known
  types i id known := Table.content_grows registered.notificationTypes
    (fun r s same => NotificationTypeKey.id.inj (List.cons.inj same).1) known
  settings := by
    unfold Db.profile Db.settings
    rw [preferences]
  servicePrefs := by
    unfold Db.profile Db.servicePrefs
    rw [services]
  typePrefs := by
    unfold Db.profile Db.typePrefs
    rw [types]
  rules := by
    unfold Db.profile
    rw [rules]

theorem Db.profile_policy {perHour ttl escalations perSecond : Int32} {row : GlobalPolicyRow}
    (ok : Db.Preferences.updateGlobalPolicy env perHour ttl escalations perSecond db = .ok (row, db')) :
    db'.profile userId = db.profile userId := by
  unfold Db.Preferences.updateGlobalPolicy at ok
  split at ok
  · cases ok
  · obtain ⟨t, -, same⟩ := map_eq_ok.1 ok
    cases same
    rfl

/-- What requests do to preferences and rules leaves a user's profile as it is, unless the user
configures. -/
theorem profile_of_rpc {inst : ℕ} {extensions : Option AuthClaims} {r : Rpc} {q : Sql} {a : q.Resp}
    (performs : r.Performs extensions (.sql q))
    (other : ¬ (Call.rpc inst extensions r).Configures userId)
    (stored : (∃ q', q = .muteRules q') ∨ ∃ q', q = .preferences q')
    (ok : q.exec env db = .ok (a, db')) :
    db'.profile userId = db.profile userId := by
  cases performs with
  | looks harmless => rw [reads_exec harmless ok]
  | @changes c _ claimed changes =>
    subst claimed
    have foreign : r.configures = true → c.subject ≠ userId := fun mine same => other ⟨same, mine⟩
    rcases stored with ⟨q, rfl⟩ | ⟨q, rfl⟩
    · cases changes with
      | createMuteRule | deleteMuteRule =>
        exact (owner_exec (q := .muteRules _) rfl ok).profile (foreign rfl)
    · cases changes with
      | getPreferences => exact Db.profile_getOrCreate ok
      | setGlobalPolicy => exact Db.profile_policy ok
      | updatePreferences | setServicePreference | deleteServicePreference | setTypePreference
      | deleteTypePreference => exact (owner_exec (q := .preferences _) rfl ok).profile (foreign rfl)

theorem profile_of_passive {q : Sql} {a : q.Resp} (passive : (Op.sql q).passive = true)
    (stored : (∃ q', q = .muteRules q') ∨ ∃ q', q = .preferences q')
    (ok : q.exec env db = .ok (a, db')) :
    db'.profile userId = db.profile userId := by
  rcases stored with ⟨q, rfl⟩ | ⟨q, rfl⟩
  · rw [reads_exec (q := .muteRules q) passive ok]
  · cases q with
    | getOrCreateUserPreference => exact Db.profile_getOrCreate ok
    | updateUserPreference | upsertServicePreference | deleteServicePreference | upsertTypePreference
    | deleteTypePreference | updateGlobalPolicy => cases passive
    | _ => rw [reads_exec (q := .preferences _) rfl ok]

/-- The calls of others, and what else runs, leave what a user has configured as it is. -/
theorem profile_drifts (run : (system ext).Run (Pool.idle w₀) es p)
    {e : Event Call Op Op.Ans World Choice} (he : e ∈ es) (other : ¬ e.call.Configures userId) :
    (e.before.db.profile userId).Drifts (e.after.db.profile userId) := by
  obtain ⟨i, c, o, x, w, rfl⟩ := performed run e he
  have registered := registered_exec ext x o w
  show (w.db.profile userId).Drifts ((exec ext x o w).2.db.profile userId)
  rcases exec_db_cases ext x o w with same | ⟨q, a, rfl, _, ok⟩
  · rw [same]
    exact .refl _
  generalize (exec ext x (.sql q) w).2.db = db at ok registered
  have kept : ((∃ q', q = .muteRules q') ∨ ∃ q', q = .preferences q') →
      (w.db.profile userId).Drifts (db.profile userId) := by
    intro stored
    have same : db.profile userId = w.db.profile userId := by
      cases c with
      | rpc inst extensions r => exact profile_of_rpc (performs_of_rpc run he rfl) other stored ok
      | _ => exact profile_of_passive (passive_of_run run he rfl) stored ok
    rw [same]
    exact .refl _
  cases q with
  | muteRules q => exact kept (.inl ⟨q, rfl⟩)
  | preferences q => exact kept (.inr ⟨q, rfl⟩)
  | notifications q =>
    have frame := (Db.Notifications.Query.exec_cases ok).1
    exact registered.drifts (by rw [frame]) (by rw [frame]) (by rw [frame]) (by rw [frame])
  | schemas q =>
    have frame := Db.Schemas.Query.exec_frame ok
    exact registered.drifts (by rw [frame]) (by rw [frame]) (by rw [frame]) (by rw [frame])
  | services q =>
    have frame := Db.Services.Query.exec_frame ok
    exact registered.drifts (by rw [frame]) (by rw [frame]) (by rw [frame]) (by rw [frame])

/-- In every run, the calls with which a user configures have taken effect in some order, as the profile
of the user serves them one after the other while services and types are registered: from what was
configured in the beginning they lead to what is configured, each call that has ended has answered as it
was served, and each has its place at one of its own operations. -/
theorem configured (run : (system ext).Run (Pool.idle w₀) es p) (userId : String) :
    ∃ ls, Linearization (Profile.Serves ext) Profile.Drifts (Call.Configures userId) es p
      (w₀.db.profile userId) (p.world.db.profile userId) ls := by
  refine run.linearization World.db (Db.profile userId) World.Onward.refl World.Onward.trans
    (onward_exec ext) (fun c mine => ?_) (fun e he mine x => ?_) fun e he => profile_drifts run he
  · cases c with
    | rpc inst extensions r =>
      cases extensions with
      | none => exact mine.elim
      | some c =>
        refine body_once ext inst (some c) ?_
        obtain ⟨_, mine⟩ := mine
        cases r with
        | updatePreferences | setServicePreference | deleteServicePreference | setTypePreference
        | deleteTypePreference | createMuteRule | deleteMuteRule | listMuteRules => rfl
        | _ => cases mine
    | _ => exact mine.elim
  · generalize e.call = c at mine
    cases c with
    | rpc inst extensions r =>
      cases extensions with
      | none => exact mine.elim
      | some c =>
        obtain ⟨rfl, mine⟩ := mine
        exact (profile_configured r mine).call x
    | _ => exact mine.elim

end Runs

/-- `ann` sets a preference on one instance and mutes the service on another, while it is disabled. -/
def Sample.configuring : State × History :=
  Sample.played (Sample.world .empty [])
    [.start 0 (.rpc 0 (some Sample.ann) (.setServicePreference ⟨"mail", false, 2⟩)),
      .start 1 (.rpc 1 (some Sample.ann) (.createMuteRule ⟨"mail", "", none⟩)),
      .start 2 (.rpc 0 (some Sample.ann) (.disableService ⟨"mail"⟩)), .step 0 Sample.choice,
      .step 1 Sample.choice, .step 2 Sample.choice, .step 1 Sample.choice, .step 0 Sample.choice]

theorem configured_configuring : ∃ ls, Linearization (Profile.Serves Sample.ext) Profile.Drifts
    (Call.Configures "ann") Sample.configuring.2 Sample.configuring.1
    ((Sample.world .empty []).db.profile "ann") (Sample.configuring.1.world.db.profile "ann") ls :=
  configured (Sample.run_played rfl) "ann"

end Estafeta
