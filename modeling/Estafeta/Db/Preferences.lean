import Estafeta.Db.Tables

/-!
# Preference and mute rule statements

The statements of `db/preferences.rs` and `db/mute_rules.rs`.
-/

open Relational

namespace Estafeta.Db

namespace Preferences

/-! ## User preferences -/

/-- A new preference row, with the defaults of the table. -/
def defaultPreference (env : Env) (userId : String) : UserPreferenceRow where
  id := env.uuid
  userId := userId
  globalEnabled := true
  catchUpMode := "all_unseen"
  sortMode := "chronological"
  createdAt := env.now
  updatedAt := env.now

/-- The SET clause `user_id = EXCLUDED.user_id` gives the conflicting row the id it has. -/
def getOrCreateUserPreference (env : Env) (userId : String) : Statement UserPreferenceRow :=
  fun db =>
    (upsertRow db.userPreferences (.userId userId) (defaultPreference env userId)
      { set r := r
        keys_set _ := rfl
        check_set _ h := h } true).map fun (r, t) => (r, { db with userPreferences := t })

def updateUserPreference (env : Env) (userId : String) (globalEnabled : Bool)
    (catchUpMode sortMode : String) : Statement UserPreferenceRow := fun db =>
  (upsertRow db.userPreferences (.userId userId)
    { defaultPreference env userId with globalEnabled, catchUpMode, sortMode }
    { set r := { r with globalEnabled, catchUpMode, sortMode, updatedAt := env.now }
      keys_set _ := rfl
      check_set _ h := h } true).map fun (r, t) => (r, { db with userPreferences := t })

/-! ## Service preferences -/

def upsertServicePreference (env : Env) (userId : String) (serviceId : Uuid) (enabled : Bool)
    (minSeverity : Option Int32) : Statement UserServicePreferenceRow := fun db =>
  (upsertRow db.userServicePreferences (.service userId serviceId)
    { id := env.uuid, userId, serviceId, enabled, minSeverity }
    { set r := { r with enabled, minSeverity }
      keys_set _ := rfl
      check_set _ h := h }
    (db.services.lookup (.id serviceId)).isSome).map fun (r, t) =>
      (r, { db with userServicePreferences := t })

def deleteServicePreference (userId : String) (serviceId : Uuid) : Statement Unit := fun db =>
  .ok ((), { db with
    userServicePreferences :=
      db.userServicePreferences.delete fun r => r.userId = userId && r.serviceId = serviceId })

def listServicePreferences (env : Env) (userId : String) (db : Db) :
    List UserServicePreferenceRow :=
  sortOn (fun _ => 0) (fun r => env.rank r.id) <|
    db.userServicePreferences.select fun r => r.userId = userId

/-! ## Type preferences -/

def upsertTypePreference (env : Env) (userId : String) (notificationTypeId : Uuid)
    (enabled : Bool) : Statement UserTypePreferenceRow := fun db =>
  (upsertRow db.userTypePreferences (.type userId notificationTypeId)
    { id := env.uuid, userId, notificationTypeId, enabled }
    { set r := { r with enabled }
      keys_set _ := rfl
      check_set _ h := h }
    (db.notificationTypes.lookup (.id notificationTypeId)).isSome).map fun (r, t) =>
      (r, { db with userTypePreferences := t })

def deleteTypePreference (userId : String) (notificationTypeId : Uuid) : Statement Unit := fun db =>
  .ok ((), { db with
    userTypePreferences := db.userTypePreferences.delete fun r =>
      r.userId = userId && r.notificationTypeId = notificationTypeId })

def listTypePreferences (env : Env) (userId : String) (db : Db) : List UserTypePreferenceRow :=
  sortOn (fun _ => 0) (fun r => env.rank r.id) <|
    db.userTypePreferences.select fun r => r.userId = userId

/-! ## Global policy -/

/-- `ORDER BY created_at LIMIT 1`. -/
def firstPolicy (env : Env) (db : Db) : Option GlobalPolicyRow :=
  (sortOn (fun r => r.createdAt) (fun r => env.rank r.id) db.globalPolicies.rows).head?

def getGlobalPolicy (env : Env) (db : Db) : Except DbError GlobalPolicyRow :=
  match firstPolicy env db with
  | some r => .ok r
  | none => .error .rowNotFound

def updateGlobalPolicy (env : Env) (maxNotificationsPerUserPerHour maxTtlSeconds maxEscalations
    rateLimitPerServicePerSecond : Int32) : Statement GlobalPolicyRow := fun db =>
  match firstPolicy env db with
  | none => .error .rowNotFound
  | some first =>
    (updateRow db.globalPolicies first.id
      { set r :=
          { r with
            maxNotificationsPerUserPerHour
            maxTtlSeconds
            maxEscalations
            rateLimitPerServicePerSecond
            updatedAt := env.now }
        keys_set _ := rfl
        check_set _ h := h }).map fun (r, t) => (r, { db with globalPolicies := t })

/-! ## Statements -/

/-- The statements of the module, with their arguments. -/
inductive Query where
  | getOrCreateUserPreference (userId : String)
  | updateUserPreference (userId : String) (globalEnabled : Bool) (catchUpMode sortMode : String)
  | upsertServicePreference (userId : String) (serviceId : Uuid) (enabled : Bool)
      (minSeverity : Option Int32)
  | deleteServicePreference (userId : String) (serviceId : Uuid)
  | listServicePreferences (userId : String)
  | upsertTypePreference (userId : String) (notificationTypeId : Uuid) (enabled : Bool)
  | deleteTypePreference (userId : String) (notificationTypeId : Uuid)
  | listTypePreferences (userId : String)
  | getGlobalPolicy
  | updateGlobalPolicy (maxNotificationsPerUserPerHour maxTtlSeconds maxEscalations
      rateLimitPerServicePerSecond : Int32)

/-- What a statement answers. -/
@[reducible] def Query.Resp : Query → Type
  | .getOrCreateUserPreference _ => UserPreferenceRow
  | .updateUserPreference .. => UserPreferenceRow
  | .upsertServicePreference .. => UserServicePreferenceRow
  | .deleteServicePreference .. => Unit
  | .listServicePreferences _ => List UserServicePreferenceRow
  | .upsertTypePreference .. => UserTypePreferenceRow
  | .deleteTypePreference .. => Unit
  | .listTypePreferences _ => List UserTypePreferenceRow
  | .getGlobalPolicy => GlobalPolicyRow
  | .updateGlobalPolicy .. => GlobalPolicyRow

/-- Run a statement. -/
def Query.exec (env : Env) : (q : Query) → Statement q.Resp
  | .getOrCreateUserPreference userId => Preferences.getOrCreateUserPreference env userId
  | .updateUserPreference userId globalEnabled catchUpMode sortMode =>
    Preferences.updateUserPreference env userId globalEnabled catchUpMode sortMode
  | .upsertServicePreference userId serviceId enabled minSeverity =>
    Preferences.upsertServicePreference env userId serviceId enabled minSeverity
  | .deleteServicePreference userId serviceId =>
    Preferences.deleteServicePreference userId serviceId
  | .listServicePreferences userId => fun db =>
    .ok (Preferences.listServicePreferences env userId db, db)
  | .upsertTypePreference userId notificationTypeId enabled =>
    Preferences.upsertTypePreference env userId notificationTypeId enabled
  | .deleteTypePreference userId notificationTypeId =>
    Preferences.deleteTypePreference userId notificationTypeId
  | .listTypePreferences userId => fun db => .ok (Preferences.listTypePreferences env userId db, db)
  | .getGlobalPolicy => fun db => (Preferences.getGlobalPolicy env db).map fun r => (r, db)
  | .updateGlobalPolicy perHour ttl escalations perSecond =>
    Preferences.updateGlobalPolicy env perHour ttl escalations perSecond

end Preferences

namespace MuteRules

def insertMuteRule (env : Env) (userId : String) (serviceId notificationTypeId : Option Uuid)
    (mutedUntil : Option Time) : Statement MuteRuleRow := fun db =>
  let row : MuteRuleRow :=
    { id := env.uuid, userId, serviceId, notificationTypeId, mutedUntil, createdAt := env.now }
  (insertRow db.muteRules row
    ((serviceId.all fun s => (db.services.lookup (.id s)).isSome) &&
      notificationTypeId.all fun t => (db.notificationTypes.lookup (.id t)).isSome)).map fun t =>
    (row, { db with muteRules := t })

/-- Answers whether a row was deleted. -/
def deleteMuteRule (userId : String) (ruleId : Uuid) : Statement Bool := fun db =>
  .ok (0 < (db.muteRules.select fun r => r.id = ruleId && r.userId = userId).length,
    { db with muteRules := db.muteRules.delete fun r => r.id = ruleId && r.userId = userId })

def listMuteRules (env : Env) (userId : String) (db : Db) : List MuteRuleRow :=
  sortOn (fun r => -r.createdAt) (fun r => env.rank r.id) <|
    db.muteRules.select fun r => r.userId = userId

/-- Get active mute rules for a user (not expired). -/
def listActiveMuteRules (env : Env) (userId : String) (db : Db) : List MuteRuleRow :=
  sortOn (fun _ => 0) (fun r => env.rank r.id) <|
    db.muteRules.select fun r => r.userId = userId && r.mutedUntil.all fun t => env.now < t

/-- The statements of the module, with their arguments. -/
inductive Query where
  | insertMuteRule (userId : String) (serviceId notificationTypeId : Option Uuid)
      (mutedUntil : Option Time)
  | deleteMuteRule (userId : String) (ruleId : Uuid)
  | listMuteRules (userId : String)
  | listActiveMuteRules (userId : String)

/-- What a statement answers. -/
@[reducible] def Query.Resp : Query → Type
  | .insertMuteRule .. => MuteRuleRow
  | .deleteMuteRule .. => Bool
  | .listMuteRules _ => List MuteRuleRow
  | .listActiveMuteRules _ => List MuteRuleRow

/-- Run a statement. -/
def Query.exec (env : Env) : (q : Query) → Statement q.Resp
  | .insertMuteRule userId serviceId notificationTypeId mutedUntil =>
    MuteRules.insertMuteRule env userId serviceId notificationTypeId mutedUntil
  | .deleteMuteRule userId ruleId => MuteRules.deleteMuteRule userId ruleId
  | .listMuteRules userId => fun db => .ok (MuteRules.listMuteRules env userId db, db)
  | .listActiveMuteRules userId => fun db => .ok (MuteRules.listActiveMuteRules env userId db, db)

end MuteRules

end Estafeta.Db
