import Estafeta.Hierarchy
import Estafeta.Lib.Content
import Estafeta.Requests

/-!
# The preference store as a map

What users do to their preferences, served one after the other, against maps in which the last write
wins (`PrefMap`): the settings of a user, its preference for each service and for each type. Reading
preferences, which creates a missing row, changes none of them.
-/

open Relational Atomic

namespace Estafeta

/-! ## Calls -/

/-- What reads or writes the preferences of a user: a request, or a processor that loads them. -/
inductive PrefCall where
  | getPreferences
  | updatePreferences (req : UpdatePreferencesRequest)
  | setServicePreference (req : SetServicePreferenceRequest)
  | deleteServicePreference (req : DeleteServicePreferenceRequest)
  | setTypePreference (req : SetTypePreferenceRequest)
  | deleteTypePreference (req : DeleteTypePreferenceRequest)
  | load (inst : ℕ) (userId : String)

/-- A program whose result does not matter, failing with a status. -/
def withStatus {α : Type} (p : Program Status α) : Program Failure Unit := do
  let _ ← p.mapErr Failure.status

/-- What a call performs. -/
def PrefCall.program (ext : Ext) (extensions : Option AuthClaims) : PrefCall → Program Failure Unit
  | .getPreferences => withStatus (UserConfigService.getPreferences ext extensions)
  | .updatePreferences req => withStatus (UserConfigService.updatePreferences ext extensions req)
  | .setServicePreference req => withStatus (UserConfigService.setServicePreference ext extensions req)
  | .deleteServicePreference req =>
    withStatus (UserConfigService.deleteServicePreference ext extensions req)
  | .setTypePreference req => withStatus (UserConfigService.setTypePreference ext extensions req)
  | .deleteTypePreference req => withStatus (UserConfigService.deleteTypePreference ext extensions req)
  | .load inst userId => do
    let _ ← (getOrLoadUserPrefs ext inst userId).mapErr Failure.error

/-- A call with the claims of its caller and what its surroundings decide. -/
structure PrefRequest where
  extensions : Option AuthClaims
  call : PrefCall
  choices : ℕ → Choice

/-- Serve a call: whether it succeeds, and the world after it. -/
def PrefRequest.serve (ext : Ext) (q : PrefRequest) (w : World) : Bool × World :=
  let r := (q.call.program ext q.extensions).run (exec ext) q.choices w
  (r.1.toBool, r.2)

/-! ## Maps -/

/-- The settings of a user. -/
structure UserSettings where
  globalEnabled : Bool
  catchUpMode : String
  sortMode : String
  deriving DecidableEq

/-- The settings of a user who has never updated them. -/
def UserSettings.default : UserSettings := ⟨true, "all_unseen", "chronological"⟩

/-- The settings of an update: an empty mode is the default. -/
def UpdatePreferencesRequest.settings (req : UpdatePreferencesRequest) : UserSettings where
  globalEnabled := req.globalEnabled
  catchUpMode := if req.catchUpMode = "" then "all_unseen" else req.catchUpMode
  sortMode := if req.sortMode = "" then "chronological" else req.sortMode

/-- The threshold of a request: none if it is 0 or below. -/
def SetServicePreferenceRequest.threshold (req : SetServicePreferenceRequest) : Option Int32 :=
  if req.minSeverity ≤ 0 then none else some req.minSeverity

/-- The last writes: of the settings of a user, and of its preferences for services and types. -/
structure PrefMap where
  settings : String → Option UserSettings
  services : String × Uuid → Option (Bool × Option Int32)
  types : String × Uuid → Option Bool

/-- Nothing has been written. -/
def PrefMap.empty : PrefMap := ⟨fun _ => none, fun _ => none, fun _ => none⟩

/-- The type with a key of the service with a slug. -/
def Db.typeRow (db : Db) (slug key : String) : Option NotificationTypeRow :=
  (db.services.lookup (.slug slug)).bind fun service =>
    db.notificationTypes.lookup (.typeKey service.id key)

/-- A successful call writes its values, or deletes, for the service or type that it names. -/
def PrefMap.after (m : PrefMap) (db : Db) (c : AuthClaims) : PrefCall → PrefMap
  | .updatePreferences req =>
    { m with settings := Function.update m.settings c.subject (some req.settings) }
  | .setServicePreference req =>
    match db.services.lookup (.slug req.serviceSlug) with
    | some service =>
      { m with services :=
          Function.update m.services (c.subject, service.id) (some (req.enabled, req.threshold)) }
    | none => m
  | .deleteServicePreference req =>
    match db.services.lookup (.slug req.serviceSlug) with
    | some service =>
      { m with services := Function.update m.services (c.subject, service.id) none }
    | none => m
  | .setTypePreference req =>
    match db.typeRow req.serviceSlug req.typeKey with
    | some nt => { m with types := Function.update m.types (c.subject, nt.id) (some req.enabled) }
    | none => m
  | .deleteTypePreference req =>
    match db.typeRow req.serviceSlug req.typeKey with
    | some nt => { m with types := Function.update m.types (c.subject, nt.id) none }
    | none => m
  | .getPreferences | .load .. => m

/-- A call without claims writes nothing. -/
def PrefMap.afterCall (m : PrefMap) (db : Db) (extensions : Option AuthClaims) (call : PrefCall) :
    PrefMap :=
  match extensions with
  | some c => m.after db c call
  | none => m

/-- Serve a call in the world and in the maps: one that fails writes nothing. -/
def prefStep (ext : Ext) (s : World × PrefMap) (q : PrefRequest) : World × PrefMap :=
  let r := q.serve ext s.1
  (r.2, if r.1 then s.2.afterCall s.1.db q.extensions q.call else s.2)

/-- Serve calls one after the other, beginning with nothing written. -/
def prefsServed (ext : Ext) (w₀ : World) (qs : List PrefRequest) : World × PrefMap :=
  qs.foldl (prefStep ext) (w₀, .empty)

/-! ## The tables as maps -/

def settingsKey (userId : String) : Schema.Key UserPreferenceRow := UserPreferenceKey.userId userId

def servicePrefKey (i : String × Uuid) : Schema.Key UserServicePreferenceRow :=
  UserServicePreferenceKey.service i.1 i.2

def typePrefKey (i : String × Uuid) : Schema.Key UserTypePreferenceRow :=
  UserTypePreferenceKey.type i.1 i.2

theorem names_settingsKey : Names settingsKey :=
  fun _ _ _ hi hj => (userId_mem_keys.1 hi).symm.trans (userId_mem_keys.1 hj)

theorem names_servicePrefKey : Names servicePrefKey := by
  intro r i j hi hj
  obtain ⟨user, service⟩ := service_mem_keys.1 hi
  obtain ⟨user', service'⟩ := service_mem_keys.1 hj
  exact Prod.ext (user.symm.trans user') (service.symm.trans service')

theorem names_typePrefKey : Names typePrefKey := by
  intro r i j hi hj
  obtain ⟨user, type⟩ := type_mem_keys.1 hi
  obtain ⟨user', type'⟩ := type_mem_keys.1 hj
  exact Prod.ext (user.symm.trans user') (type.symm.trans type')

/-- The settings in a row. -/
def UserPreferenceRow.settings (r : UserPreferenceRow) : UserSettings :=
  ⟨r.globalEnabled, r.catchUpMode, r.sortMode⟩

/-- What a row says about a service. -/
def UserServicePreferenceRow.value (r : UserServicePreferenceRow) : Bool × Option Int32 :=
  (r.enabled, r.minSeverity)

/-- The settings of a user: those of its row, or the default. -/
def Db.settings (db : Db) (userId : String) : UserSettings :=
  (db.userPreferences.content settingsKey UserPreferenceRow.settings userId).getD .default

def Db.servicePrefs (db : Db) : String × Uuid → Option (Bool × Option Int32) :=
  db.userServicePreferences.content servicePrefKey UserServicePreferenceRow.value

def Db.typePrefs (db : Db) : String × Uuid → Option Bool :=
  db.userTypePreferences.content typePrefKey UserTypePreferenceRow.enabled

/-- The tables hold what the maps hold. -/
structure PrefsAgree (db : Db) (m : PrefMap) : Prop where
  settings : ∀ userId, db.settings userId = (m.settings userId).getD .default
  services : db.servicePrefs = m.services
  types : db.typePrefs = m.types

section

variable {ρ ι V : Type} [Schema ρ] [DecidableEq ι] {key : ι → Schema.Key ρ} {view : ρ → V}
  {t t' : Table ρ} {r s : ρ} {f : Assign ρ} {references : Bool} {i : ι}

/-- An upsert updates the row that it conflicts with, or inserts its own. -/
theorem upsertRow_ok {k : Schema.Key ρ} (h : upsertRow t k r f references = .ok (s, t')) :
    (∃ old, t.lookup k = some old ∧ s = f.set old ∧
      t' = t.update (fun s => k ∈ Schema.keys s) f) ∨
    (t.lookup k = none ∧ s = r ∧ t.insert r = .ok t') := by
  unfold upsertRow at h
  cases found : t.lookup k with
  | some old =>
    rw [found] at h
    cases h
    exact .inl ⟨old, rfl, rfl, rfl⟩
  | none =>
    rw [found] at h
    obtain ⟨stored, inserted, same⟩ := map_eq_ok.1 h
    cases same
    exact .inr ⟨rfl, rfl, Db.Notifications.insertRow_ok inserted⟩

theorem content_upsertRow (view : ρ → V) (names : Names key) (mine : key i ∈ Schema.keys r)
    (h : upsertRow t (key i) r f references = .ok (s, t')) :
    t'.content key view = Function.update (t.content key view) i (some (view s)) := by
  rcases upsertRow_ok h with ⟨old, found, rfl, rfl⟩ | ⟨_, rfl, inserted⟩
  · exact Table.content_update names found
  · exact Table.content_insert names inserted mine

end

section

variable {db db' : Db} {m : PrefMap} {env : Env} {u : String}

/-! ## Statements -/

/-- A row that is created has the default settings, which were the user's before. -/
theorem getOrCreate_settings {row : UserPreferenceRow}
    (h : Db.Preferences.getOrCreateUserPreference env u db = .ok (row, db')) :
    row.settings = db.settings u ∧ db'.settings = db.settings := by
  obtain ⟨⟨s, t⟩, upserted, same⟩ := map_eq_ok.1 h
  cases same
  have written := content_upsertRow UserPreferenceRow.settings names_settingsKey
    (i := u) (userId_mem_keys.2 rfl) upserted
  have found : row.settings = db.settings u := by
    unfold Db.settings Table.content
    rcases upsertRow_ok upserted with ⟨old, found, rfl, -⟩ | ⟨missing, rfl, -⟩
    · rw [show db.userPreferences.lookup (settingsKey u) = some _ from found]
      rfl
    · rw [show db.userPreferences.lookup (settingsKey u) = none from missing]
      rfl
  refine ⟨found, funext fun v => ?_⟩
  show (t.content settingsKey UserPreferenceRow.settings v).getD .default = _
  rw [written, Function.update_apply]
  by_cases same : v = u
  · rw [if_pos same, same]
    exact found
  · rw [if_neg same]
    rfl

theorem getOrCreate_existing {old row : UserPreferenceRow}
    (found : db.userPreferences.lookup (.userId u) = some old)
    (h : Db.Preferences.getOrCreateUserPreference env u db = .ok (row, db')) :
    row = old ∧ db' = db := by
  obtain ⟨⟨s, t⟩, upserted, same⟩ := map_eq_ok.1 h
  cases same
  rcases upsertRow_ok upserted with ⟨old', found', rfl, rfl⟩ | ⟨missing, -, -⟩
  · rw [found] at found'
    cases found'
    exact ⟨rfl, congrArg (fun t => { db with userPreferences := t })
      (Table.update_self fun _ => rfl)⟩
  · rw [found] at missing
    cases missing

theorem PrefsAgree.getOrCreate (agree : PrefsAgree db m) {row : UserPreferenceRow}
    (h : Db.Preferences.getOrCreateUserPreference env u db = .ok (row, db')) :
    PrefsAgree db' m := by
  have settings := (getOrCreate_settings h).2
  obtain ⟨⟨s, t⟩, upserted, same⟩ := map_eq_ok.1 h
  cases same
  exact ⟨fun v => (congrFun settings v).trans (agree.settings v), agree.services, agree.types⟩

theorem PrefsAgree.update (agree : PrefsAgree db m) {row : UserPreferenceRow}
    {enabled : Bool} {catchUp sort : String}
    (h : Db.Preferences.updateUserPreference env u enabled catchUp sort db = .ok (row, db')) :
    PrefsAgree db'
      { m with settings := Function.update m.settings u (some ⟨enabled, catchUp, sort⟩) } := by
  obtain ⟨⟨s, t⟩, upserted, same⟩ := map_eq_ok.1 h
  cases same
  have written := content_upsertRow UserPreferenceRow.settings names_settingsKey
    (i := u) (userId_mem_keys.2 rfl) upserted
  have stored : row.settings = ⟨enabled, catchUp, sort⟩ := by
    rcases upsertRow_ok upserted with ⟨old, -, rfl, -⟩ | ⟨-, rfl, -⟩ <;> rfl
  refine ⟨fun v => ?_, agree.services, agree.types⟩
  show (t.content settingsKey UserPreferenceRow.settings v).getD .default =
    (Function.update m.settings u _ v).getD .default
  rw [written, stored, Function.update_apply, Function.update_apply]
  by_cases same : v = u
  · rw [if_pos same, if_pos same]
  · rw [if_neg same, if_neg same]
    exact agree.settings v

theorem PrefsAgree.setService (agree : PrefsAgree db m) {row : UserServicePreferenceRow}
    {serviceId : Uuid} {enabled : Bool} {minSeverity : Option Int32}
    (h : Db.Preferences.upsertServicePreference env u serviceId enabled minSeverity db =
      .ok (row, db')) :
    PrefsAgree db' { m with
      services := Function.update m.services (u, serviceId) (some (enabled, minSeverity)) } := by
  obtain ⟨⟨s, t⟩, upserted, same⟩ := map_eq_ok.1 h
  cases same
  have written := content_upsertRow UserServicePreferenceRow.value names_servicePrefKey
    (i := (u, serviceId)) (service_mem_keys.2 ⟨rfl, rfl⟩) upserted
  have stored : row.value = (enabled, minSeverity) := by
    rcases upsertRow_ok upserted with ⟨old, -, rfl, -⟩ | ⟨-, rfl, -⟩ <;> rfl
  refine ⟨agree.settings, ?_, agree.types⟩
  rw [← agree.services, ← stored]
  exact written

theorem PrefsAgree.deleteService (agree : PrefsAgree db m) {serviceId : Uuid}
    (h : Db.Preferences.deleteServicePreference u serviceId db = .ok ((), db')) :
    PrefsAgree db' { m with services := Function.update m.services (u, serviceId) none } := by
  cases h
  refine ⟨agree.settings, ?_, agree.types⟩
  rw [← agree.services]
  refine Table.content_delete (i := (u, serviceId)) names_servicePrefKey fun r => ?_
  rw [Bool.and_eq_true, decide_eq_true_eq, decide_eq_true_eq]
  exact service_mem_keys.symm

theorem PrefsAgree.setType (agree : PrefsAgree db m) {row : UserTypePreferenceRow}
    {typeId : Uuid} {enabled : Bool}
    (h : Db.Preferences.upsertTypePreference env u typeId enabled db = .ok (row, db')) :
    PrefsAgree db' { m with types := Function.update m.types (u, typeId) (some enabled) } := by
  obtain ⟨⟨s, t⟩, upserted, same⟩ := map_eq_ok.1 h
  cases same
  have written := content_upsertRow UserTypePreferenceRow.enabled names_typePrefKey
    (i := (u, typeId)) (type_mem_keys.2 ⟨rfl, rfl⟩) upserted
  have stored : row.enabled = enabled := by
    rcases upsertRow_ok upserted with ⟨old, -, rfl, -⟩ | ⟨-, rfl, -⟩ <;> rfl
  refine ⟨agree.settings, agree.services, ?_⟩
  rw [← agree.types, ← stored]
  exact written

theorem PrefsAgree.deleteType (agree : PrefsAgree db m) {typeId : Uuid}
    (h : Db.Preferences.deleteTypePreference u typeId db = .ok ((), db')) :
    PrefsAgree db' { m with types := Function.update m.types (u, typeId) none } := by
  cases h
  refine ⟨agree.settings, agree.services, ?_⟩
  rw [← agree.types]
  refine Table.content_delete (i := (u, typeId)) names_typePrefKey fun r => ?_
  rw [Bool.and_eq_true, decide_eq_true_eq, decide_eq_true_eq]
  exact type_mem_keys.symm

end

/-! ## Calls -/

section

variable {ext : Ext} {ok : Choice → Prop} {w : World} {m : PrefMap} {extensions : Option AuthClaims}

theorem empty_isEmpty (s : String) : (s.isEmpty = true) = (s = "") := by
  rw [String.isEmpty_iff]

theorem positive_threshold (req : SetServicePreferenceRequest) :
    positive req.minSeverity = req.threshold := by
  unfold positive SetServicePreferenceRequest.threshold
  by_cases pos : req.minSeverity > 0
  · rw [if_pos pos, if_neg (Int32.not_le.2 pos)]
  · rw [if_neg pos, if_pos (Int32.not_lt.1 pos)]

theorem withStatus_ensures {α : Type} {p : Program Status α} {E : World → Failure → Prop}
    {Q : World → Unit → Prop}
    (h : p.Ensures (exec ext) ok (fun w e => E w (.status e)) (fun w _ => Q w ()) w) :
    (withStatus p).Ensures (exec ext) ok E Q w := by
  unfold withStatus
  rw [Prog.ensures_bind, Prog.ensures_mapErr]
  exact h

theorem getPreferences_ensures (agree : PrefsAgree w.db m) :
    (UserConfigService.getPreferences ext extensions).Ensures (exec ext) ok
      (fun w' _ => PrefsAgree w'.db m) (fun w' _ => PrefsAgree w'.db m) w := by
  unfold UserConfigService.getPreferences
  simp only [Prog.ensures_bind]
  refine ensures_fromExtensions _ (fun _ _ => agree) fun c _ => ?_
  refine ensures_query (q := .preferences (.getOrCreateUserPreference c.subject)) rfl
    (fun _ _ _ _ => agree) (fun _ _ _ _ _ => agree) fun x row db _ answer => ?_
  have agree' : PrefsAgree db m := agree.getOrCreate answer
  refine ensures_read (q := .preferences (.listServicePreferences c.subject)) rfl
    (fun _ _ _ _ => agree') (fun x => Db.Preferences.listServicePreferences (x.env ext) c.subject db)
    (fun _ => rfl) fun _ _ => ?_
  exact ensures_read (q := .preferences (.listTypePreferences c.subject)) rfl
    (fun _ _ _ _ => agree') (fun x => Db.Preferences.listTypePreferences (x.env ext) c.subject db)
    (fun _ => rfl) fun _ _ => agree'

theorem load_ensures (agree : PrefsAgree w.db m) (inst : ℕ) (userId : String) :
    (getOrLoadUserPrefs ext inst userId).Ensures (exec ext) ok
      (fun w' _ => PrefsAgree w'.db m) (fun w' _ => PrefsAgree w'.db m) w := by
  simp only [getOrLoadUserPrefs, perform, Prog.call_bind, Prog.ret_bind]
  intro x _
  simp only [exec]
  split
  · exact agree
  rw [Prog.ensures_bind]
  refine ensures_statement rfl (fun _ _ _ _ => agree) (fun _ _ _ _ _ => agree)
    fun x row db _ answer => ?_
  have agree' : PrefsAgree db m := agree.getOrCreate answer
  rw [Prog.ensures_bind]
  refine ensures_statement rfl (fun _ _ _ _ => agree') (fun _ _ _ _ _ => agree') fun x _ _ _ h => ?_
  cases h
  rw [Prog.ensures_bind]
  refine ensures_statement rfl (fun _ _ _ _ => agree') (fun _ _ _ _ _ => agree') fun x _ _ _ h => ?_
  cases h
  rw [Prog.ensures_bind]
  refine ensures_statement rfl (fun _ _ _ _ => agree') (fun _ _ _ _ _ => agree') fun x _ _ _ h => ?_
  cases h
  exact fun _ _ => agree'

theorem serviceBySlug_ensures {slug : String} {E : World → Status → Prop}
    {Q : World → ServiceRow → Prop} (fails : ∀ s, E w s)
    (found : ∀ service, w.db.services.lookup (.slug slug) = some service → Q w service) :
    (SchemaRegistryService.serviceBySlug ext slug).Ensures (exec ext) ok E Q w := by
  unfold SchemaRegistryService.serviceBySlug
  rw [Prog.ensures_bind]
  refine ensures_getServiceBySlug _ (fun _ _ _ => fails) ?_
  exact (Prog.ensures_okOr _ _ _).2 ⟨fun _ => fails _, found⟩

theorem typeByKey_ensures {serviceId : Uuid} {key : String} {E : World → Status → Prop}
    {Q : World → NotificationTypeRow → Prop} (fails : ∀ s, E w s)
    (found : ∀ nt, w.db.notificationTypes.lookup (.typeKey serviceId key) = some nt → Q w nt) :
    (UserConfigService.typeByKey ext serviceId key).Ensures (exec ext) ok E Q w := by
  unfold UserConfigService.typeByKey
  rw [Prog.ensures_bind]
  refine ensures_read (q := .schemas (.getNotificationType serviceId key)) rfl (fun _ _ _ => fails)
    (fun _ => w.db.notificationTypes.lookup (.typeKey serviceId key)) (fun _ => rfl) fun _ _ => ?_
  exact (Prog.ensures_okOr _ _ _).2 ⟨fun _ => fails _, found⟩

theorem updatePreferences_ensures (agree : PrefsAgree w.db m) (req : UpdatePreferencesRequest) :
    (UserConfigService.updatePreferences ext extensions req).Ensures (exec ext) ok
      (fun w' _ => PrefsAgree w'.db m)
      (fun w' _ => PrefsAgree w'.db (m.afterCall w.db extensions (.updatePreferences req))) w := by
  unfold UserConfigService.updatePreferences
  simp only [Prog.ensures_bind]
  refine ensures_fromExtensions _ (fun _ _ => agree) fun c caller => ?_
  rw [caller]
  refine ensures_query (q := .preferences (.updateUserPreference ..)) rfl
    (fun _ _ _ _ => agree) (fun _ _ _ _ _ => agree) fun x row db _ answer => ?_
  have agree' := agree.update answer
  simp only [empty_isEmpty] at agree'
  exact agree'

theorem setServicePreference_ensures (agree : PrefsAgree w.db m)
    (req : SetServicePreferenceRequest) :
    (UserConfigService.setServicePreference ext extensions req).Ensures (exec ext) ok
      (fun w' _ => PrefsAgree w'.db m)
      (fun w' _ => PrefsAgree w'.db (m.afterCall w.db extensions (.setServicePreference req)))
      w := by
  unfold UserConfigService.setServicePreference
  simp only [Prog.ensures_bind]
  refine ensures_fromExtensions _ (fun _ _ => agree) fun c caller => ?_
  refine serviceBySlug_ensures (fun _ => agree) fun service found => ?_
  refine ensures_query (q := .preferences (.upsertServicePreference ..)) rfl
    (fun _ _ _ _ => agree) (fun _ _ _ _ _ => agree) fun x row db _ answer => ?_
  have agree' := agree.setService answer
  rw [positive_threshold] at agree'
  simp only [PrefMap.afterCall, PrefMap.after, caller, found]
  exact agree'

theorem deleteServicePreference_ensures (agree : PrefsAgree w.db m)
    (req : DeleteServicePreferenceRequest) :
    (UserConfigService.deleteServicePreference ext extensions req).Ensures (exec ext) ok
      (fun w' _ => PrefsAgree w'.db m)
      (fun w' _ => PrefsAgree w'.db (m.afterCall w.db extensions (.deleteServicePreference req)))
      w := by
  unfold UserConfigService.deleteServicePreference
  simp only [Prog.ensures_bind]
  refine ensures_fromExtensions _ (fun _ _ => agree) fun c caller => ?_
  refine serviceBySlug_ensures (fun _ => agree) fun service found => ?_
  refine ensures_query (q := .preferences (.deleteServicePreference ..)) rfl
    (fun _ _ _ _ => agree) (fun _ _ _ _ _ => agree) fun x row db _ answer => ?_
  simp only [PrefMap.afterCall, PrefMap.after, caller, found]
  exact agree.deleteService answer

theorem setTypePreference_ensures (agree : PrefsAgree w.db m) (req : SetTypePreferenceRequest) :
    (UserConfigService.setTypePreference ext extensions req).Ensures (exec ext) ok
      (fun w' _ => PrefsAgree w'.db m)
      (fun w' _ => PrefsAgree w'.db (m.afterCall w.db extensions (.setTypePreference req))) w := by
  unfold UserConfigService.setTypePreference
  simp only [Prog.ensures_bind]
  refine ensures_fromExtensions _ (fun _ _ => agree) fun c caller => ?_
  refine serviceBySlug_ensures (fun _ => agree) fun service found => ?_
  refine typeByKey_ensures (fun _ => agree) fun nt there => ?_
  refine ensures_query (q := .preferences (.upsertTypePreference ..)) rfl
    (fun _ _ _ _ => agree) (fun _ _ _ _ _ => agree) fun x row db _ answer => ?_
  simp only [PrefMap.afterCall, PrefMap.after, Db.typeRow, caller, found, there, Option.bind_some]
  exact agree.setType answer

theorem deleteTypePreference_ensures (agree : PrefsAgree w.db m)
    (req : DeleteTypePreferenceRequest) :
    (UserConfigService.deleteTypePreference ext extensions req).Ensures (exec ext) ok
      (fun w' _ => PrefsAgree w'.db m)
      (fun w' _ => PrefsAgree w'.db (m.afterCall w.db extensions (.deleteTypePreference req)))
      w := by
  unfold UserConfigService.deleteTypePreference
  simp only [Prog.ensures_bind]
  refine ensures_fromExtensions _ (fun _ _ => agree) fun c caller => ?_
  refine serviceBySlug_ensures (fun _ => agree) fun service found => ?_
  refine typeByKey_ensures (fun _ => agree) fun nt there => ?_
  refine ensures_query (q := .preferences (.deleteTypePreference ..)) rfl
    (fun _ _ _ _ => agree) (fun _ _ _ _ _ => agree) fun x row db _ answer => ?_
  simp only [PrefMap.afterCall, PrefMap.after, Db.typeRow, caller, found, there, Option.bind_some]
  exact agree.deleteType answer

/-- A call that fails has changed no preference, one that succeeds those that it writes. -/
theorem PrefCall.ensures (ext : Ext) (ok : Choice → Prop) (extensions : Option AuthClaims)
    (agree : PrefsAgree w.db m) (call : PrefCall) :
    (call.program ext extensions).Ensures (exec ext) ok (fun w' _ => PrefsAgree w'.db m)
      (fun w' _ => PrefsAgree w'.db (m.afterCall w.db extensions call)) w := by
  have reads : ∀ call, (∀ db c, m.after db c call = m) → m.afterCall w.db extensions call = m := by
    intro call same
    unfold PrefMap.afterCall
    cases extensions with
    | none => rfl
    | some c => exact same w.db c
  cases call with
  | getPreferences =>
    rw [reads _ fun _ _ => rfl]
    exact withStatus_ensures (getPreferences_ensures agree)
  | updatePreferences req => exact withStatus_ensures (updatePreferences_ensures agree req)
  | setServicePreference req => exact withStatus_ensures (setServicePreference_ensures agree req)
  | deleteServicePreference req =>
    exact withStatus_ensures (deleteServicePreference_ensures agree req)
  | setTypePreference req => exact withStatus_ensures (setTypePreference_ensures agree req)
  | deleteTypePreference req => exact withStatus_ensures (deleteTypePreference_ensures agree req)
  | load inst userId =>
    rw [reads _ fun _ _ => rfl]
    unfold PrefCall.program
    rw [Prog.ensures_bind, Prog.ensures_mapErr]
    exact load_ensures agree inst userId

/-- One call is one step of the maps. -/
theorem PrefsAgree.step {s : World × PrefMap} (agree : PrefsAgree s.1.db s.2) (q : PrefRequest) :
    PrefsAgree (prefStep ext s q).1.db (prefStep ext s q).2 := by
  have ends :=
    (PrefCall.ensures ext (fun _ => True) q.extensions agree q.call).run q.choices fun _ => trivial
  unfold prefStep PrefRequest.serve
  cases result : ((q.call.program ext q.extensions).run (exec ext) q.choices s.1).1 with
  | error e =>
    rw [result] at ends
    dsimp only
    rw [result]
    exact ends
  | ok a =>
    rw [result] at ends
    dsimp only
    rw [result]
    exact ends

/-- The tables of preferences are empty. -/
structure Db.NoPreferences (db : Db) : Prop where
  userPreferences : db.userPreferences = .empty
  userServicePreferences : db.userServicePreferences = .empty
  userTypePreferences : db.userTypePreferences = .empty

theorem prefsAgree_served {w₀ : World} (fresh : w₀.db.NoPreferences) (qs : List PrefRequest) :
    PrefsAgree (prefsServed ext w₀ qs).1.db (prefsServed ext w₀ qs).2 := by
  have start : PrefsAgree w₀.db .empty := by
    refine ⟨fun u => ?_, ?_, ?_⟩
    · unfold Db.settings
      rw [fresh.userPreferences]
      rfl
    · unfold Db.servicePrefs
      rw [fresh.userServicePreferences]
      rfl
    · unfold Db.typePrefs
      rw [fresh.userTypePreferences]
      rfl
  unfold prefsServed
  induction qs using List.reverseRecOn with
  | nil => exact start
  | append_singleton qs q ih =>
    rw [List.foldl_append]
    exact ih.step q

/-! ## Reading the store -/

variable {db : Db} {env : Env} {u : String}

theorem nodup_servicePreferences :
    ((Db.Preferences.listServicePreferences env u db).map (·.serviceId)).Nodup := by
  unfold Db.Preferences.listServicePreferences
  rw [(((sortOn_perm _ _ _).map _).nodup_iff)]
  refine List.pairwise_map.2 ((db.userServicePreferences.unique.filter _).imp_of_mem ?_)
  intro r r' hr hr' apart same
  have mine := of_decide_eq_true (Table.mem_select.1 hr).2
  have mine' := of_decide_eq_true (Table.mem_select.1 hr').2
  exact apart (.service u r.serviceId) (service_mem_keys.2 ⟨mine, rfl⟩)
    (service_mem_keys.2 ⟨mine', same.symm⟩)

theorem nodup_typePreferences :
    ((Db.Preferences.listTypePreferences env u db).map (·.notificationTypeId)).Nodup := by
  unfold Db.Preferences.listTypePreferences
  rw [(((sortOn_perm _ _ _).map _).nodup_iff)]
  refine List.pairwise_map.2 ((db.userTypePreferences.unique.filter _).imp_of_mem ?_)
  intro r r' hr hr' apart same
  have mine := of_decide_eq_true (Table.mem_select.1 hr).2
  have mine' := of_decide_eq_true (Table.mem_select.1 hr').2
  exact apart (.type u r.notificationTypeId) (type_mem_keys.2 ⟨mine, rfl⟩)
    (type_mem_keys.2 ⟨mine', same.symm⟩)

theorem PrefsAgree.mem_services (env : Env) (agree : PrefsAgree db m) (serviceId : Uuid)
    (enabled : Bool) (minSeverity : Option Int32) :
    m.services (u, serviceId) = some (enabled, minSeverity) ↔
      ∃ r ∈ Db.Preferences.listServicePreferences env u db,
        r.serviceId = serviceId ∧ r.enabled = enabled ∧ r.minSeverity = minSeverity := by
  rw [← agree.services]
  unfold Db.servicePrefs Db.Preferences.listServicePreferences
  rw [Table.content_eq_some]
  constructor
  · rintro ⟨r, hr, mine, value⟩
    obtain ⟨user, service⟩ := service_mem_keys.1 mine
    obtain ⟨on, threshold⟩ := Prod.mk.inj value
    exact ⟨r, mem_sortOn.2 (Table.mem_select.2 ⟨hr, decide_eq_true user⟩), service, on, threshold⟩
  · rintro ⟨r, hr, service, rfl, rfl⟩
    obtain ⟨hr, user⟩ := Table.mem_select.1 (mem_sortOn.1 hr)
    exact ⟨r, hr, service_mem_keys.2 ⟨of_decide_eq_true user, service⟩, rfl⟩

theorem PrefsAgree.mem_types (env : Env) (agree : PrefsAgree db m) (typeId : Uuid) (enabled : Bool) :
    m.types (u, typeId) = some enabled ↔
      ∃ r ∈ Db.Preferences.listTypePreferences env u db,
        r.notificationTypeId = typeId ∧ r.enabled = enabled := by
  rw [← agree.types]
  unfold Db.typePrefs Db.Preferences.listTypePreferences
  rw [Table.content_eq_some]
  constructor
  · rintro ⟨r, hr, mine, value⟩
    obtain ⟨user, type⟩ := type_mem_keys.1 mine
    exact ⟨r, mem_sortOn.2 (Table.mem_select.2 ⟨hr, decide_eq_true user⟩), type, value⟩
  · rintro ⟨r, hr, type, value⟩
    obtain ⟨hr, user⟩ := Table.mem_select.1 (mem_sortOn.1 hr)
    exact ⟨r, hr, type_mem_keys.2 ⟨of_decide_eq_true user, type⟩, value⟩

theorem PrefsAgree.find_service (agree : PrefsAgree db m) (serviceId : Uuid) :
    (((Db.Preferences.listServicePreferences env u db).map cachedServicePref).find?
        fun p => p.serviceId = serviceId) =
      (m.services (u, serviceId)).map fun v => ⟨serviceId, v.1, v.2⟩ := by
  ext sp
  rw [find?_eq_some_iff_of_unique, Option.map_eq_some_iff, List.mem_map, decide_eq_true_eq]
  · constructor
    · rintro ⟨⟨r, hr, rfl⟩, rfl⟩
      exact ⟨_, (agree.mem_services env _ _ _).2 ⟨r, hr, rfl, rfl, rfl⟩, rfl⟩
    · rintro ⟨⟨enabled, minSeverity⟩, held, rfl⟩
      obtain ⟨r, hr, rfl, rfl, rfl⟩ := (agree.mem_services env _ _ _).1 held
      exact ⟨⟨r, hr, rfl⟩, rfl⟩
  · intro a ha b hb here here'
    obtain ⟨r, hr, rfl⟩ := List.mem_map.1 ha
    obtain ⟨r', hr', rfl⟩ := List.mem_map.1 hb
    exact congrArg _ (List.inj_on_of_nodup_map nodup_servicePreferences hr hr'
      ((of_decide_eq_true here).trans (of_decide_eq_true here').symm))

theorem PrefsAgree.find_type (agree : PrefsAgree db m) (typeId : Uuid) :
    (((Db.Preferences.listTypePreferences env u db).map cachedTypePref).find?
        fun p => p.notificationTypeId = typeId) =
      (m.types (u, typeId)).map fun enabled => ⟨typeId, enabled⟩ := by
  ext tp
  rw [find?_eq_some_iff_of_unique, Option.map_eq_some_iff, List.mem_map, decide_eq_true_eq]
  · constructor
    · rintro ⟨⟨r, hr, rfl⟩, rfl⟩
      exact ⟨_, (agree.mem_types env _ _).2 ⟨r, hr, rfl, rfl⟩, rfl⟩
    · rintro ⟨enabled, held, rfl⟩
      obtain ⟨r, hr, rfl, rfl⟩ := (agree.mem_types env _ _).1 held
      exact ⟨⟨r, hr, rfl⟩, rfl⟩
  · intro a ha b hb here here'
    obtain ⟨r, hr, rfl⟩ := List.mem_map.1 ha
    obtain ⟨r', hr', rfl⟩ := List.mem_map.1 hb
    exact congrArg _ (List.inj_on_of_nodup_map nodup_typePreferences hr hr'
      ((of_decide_eq_true here).trans (of_decide_eq_true here').symm))

theorem getOrCreate_keeps {db' : Db} {row old : UserPreferenceRow}
    (h : Db.Preferences.getOrCreateUserPreference env u db = .ok (row, db'))
    (stored : old ∈ db.userPreferences.rows) : old ∈ db'.userPreferences.rows := by
  obtain ⟨⟨s, t⟩, upserted, same⟩ := map_eq_ok.1 h
  cases same
  rcases upsertRow_ok upserted with ⟨_, found, -, -⟩ | ⟨-, -, inserted⟩
  · rw [(getOrCreate_existing found h).2]
    exact stored
  · exact (Table.mem_insert inserted).2 (.inl stored)

end

/-- The preference store is a map in which the last write wins. After any calls of any users, served
one after the other from empty tables, the listings of a user hold one row for each service and type
under which the map holds a value, with that value; its settings are those of the map; creating a
row that is missing alters no other; and the first match in the preferences of a user is the value
of the map. -/
theorem preference_store (ext : Ext) (w₀ : World) (fresh : w₀.db.NoPreferences)
    (qs : List PrefRequest) :
    let s := prefsServed ext w₀ qs
    ∀ (u : String) (env : Env),
      let services := Db.Preferences.listServicePreferences env u s.1.db
      let types := Db.Preferences.listTypePreferences env u s.1.db
      ((services.map (·.serviceId)).Nodup ∧ ∀ serviceId enabled minSeverity,
        s.2.services (u, serviceId) = some (enabled, minSeverity) ↔ ∃ r ∈ services,
          r.serviceId = serviceId ∧ r.enabled = enabled ∧ r.minSeverity = minSeverity) ∧
      ((types.map (·.notificationTypeId)).Nodup ∧ ∀ typeId enabled,
        s.2.types (u, typeId) = some enabled ↔
          ∃ r ∈ types, r.notificationTypeId = typeId ∧ r.enabled = enabled) ∧
      s.1.db.settings u = (s.2.settings u).getD .default ∧
      (∀ row db', Db.Preferences.getOrCreateUserPreference env u s.1.db = .ok (row, db') →
        row.settings = (s.2.settings u).getD .default ∧
        (∀ old, s.1.db.userPreferences.lookup (.userId u) = some old → row = old ∧ db' = s.1.db) ∧
        ∀ old ∈ s.1.db.userPreferences.rows, old ∈ db'.userPreferences.rows) ∧
      (∀ serviceId, (services.map cachedServicePref).find? (fun p => p.serviceId = serviceId) =
        (s.2.services (u, serviceId)).map fun v => ⟨serviceId, v.1, v.2⟩) ∧
      ∀ typeId, (types.map cachedTypePref).find? (fun p => p.notificationTypeId = typeId) =
        (s.2.types (u, typeId)).map fun enabled => ⟨typeId, enabled⟩ := by
  intro s u env services types
  have agree : PrefsAgree s.1.db s.2 := prefsAgree_served fresh qs
  refine ⟨⟨nodup_servicePreferences, agree.mem_services _⟩, ⟨nodup_typePreferences, agree.mem_types _⟩,
    agree.settings u, fun row db' h => ⟨?_, ?_, ?_⟩, agree.find_service, agree.find_type⟩
  · exact (getOrCreate_settings h).1.trans (agree.settings u)
  · exact fun old found => getOrCreate_existing found h
  · exact fun old stored => getOrCreate_keeps h stored

namespace Sample

/-- The tables of `db`, with no preferences. -/
def unsettled : World where
  db := { db .empty with
    userPreferences := .empty, userServicePreferences := .empty, userTypePreferences := .empty }
  stream := []
  acked := []
  published := []
  caches _ _ _ := none

/-- Ann reads its preferences, sets a threshold for the service `mail`, then sets none. -/
def settled : List PrefRequest :=
  [.getPreferences, .setServicePreference ⟨"mail", true, 3⟩,
    .setServicePreference ⟨"mail", false, -1⟩].map fun call => ⟨some ann, call, fun _ => choice⟩

theorem preference_store_settled : ∃ r ∈ Db.Preferences.listServicePreferences (choice.env ext) "ann"
    (prefsServed ext unsettled settled).1.db,
      r.serviceId = 1 ∧ r.enabled = false ∧ r.minSeverity = none :=
  ((preference_store ext unsettled ⟨rfl, rfl, rfl⟩ settled "ann" (choice.env ext)).1.2 1 false
    none).1 rfl

end Sample

end Estafeta
