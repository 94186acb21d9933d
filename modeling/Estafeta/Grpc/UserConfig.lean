import Estafeta.Grpc.SchemaRegistry

/-!
# User config service

The handlers of `grpc/user_config.rs`. Each acts on the preferences of the calling subject.
-/

open Atomic

namespace Estafeta.UserConfigService

open SchemaRegistryService (serviceBySlug)

variable (ext : Ext) (extensions : Option AuthClaims)

/-- The type of a request. -/
def typeByKey (serviceId : Uuid) (typeKey : String) : Program Status NotificationTypeRow := do
  Prog.okOr (.notFound "notification type not found")
    (← ext.query (.schemas (.getNotificationType serviceId typeKey)))

def getPreferences : Program Status UserPreferences := do
  let claims ← AuthClaims.fromExtensions extensions
  let pref : UserPreferenceRow ←
    ext.query (.preferences (.getOrCreateUserPreference claims.subject))
  let svcPrefs : List UserServicePreferenceRow ←
    ext.query (.preferences (.listServicePreferences claims.subject))
  let typePrefs : List UserTypePreferenceRow ←
    ext.query (.preferences (.listTypePreferences claims.subject))
  return {
    globalEnabled := pref.globalEnabled
    catchUpMode := pref.catchUpMode
    sortMode := pref.sortMode
    -- slugs and type keys would need a reverse lookup
    servicePreferences := svcPrefs.map fun sp => ⟨"", sp.enabled, sp.minSeverity.getD 0⟩
    typePreferences := typePrefs.map fun tp => ⟨"", "", tp.enabled⟩ }

def updatePreferences (req : UpdatePreferencesRequest) : Program Status UserPreferences := do
  let claims ← AuthClaims.fromExtensions extensions
  let catchUpMode := if req.catchUpMode.isEmpty then "all_unseen" else req.catchUpMode
  let sortMode := if req.sortMode.isEmpty then "chronological" else req.sortMode
  let pref : UserPreferenceRow ← ext.query (.preferences (.updateUserPreference claims.subject
    req.globalEnabled catchUpMode sortMode))
  return {
    globalEnabled := pref.globalEnabled
    catchUpMode := pref.catchUpMode
    sortMode := pref.sortMode
    servicePreferences := []
    typePreferences := [] }

def setServicePreference (req : SetServicePreferenceRequest) :
    Program Status ServicePreference := do
  let claims ← AuthClaims.fromExtensions extensions
  let service ← serviceBySlug ext req.serviceSlug
  let row : UserServicePreferenceRow ← ext.query (.preferences (.upsertServicePreference
    claims.subject service.id req.enabled (positive req.minSeverity)))
  return ⟨req.serviceSlug, row.enabled, row.minSeverity.getD 0⟩

def deleteServicePreference (req : DeleteServicePreferenceRequest) : Program Status Unit := do
  let claims ← AuthClaims.fromExtensions extensions
  let service ← serviceBySlug ext req.serviceSlug
  ext.query (.preferences (.deleteServicePreference claims.subject service.id))

def setTypePreference (req : SetTypePreferenceRequest) : Program Status TypePreference := do
  let claims ← AuthClaims.fromExtensions extensions
  let service ← serviceBySlug ext req.serviceSlug
  let nt ← typeByKey ext service.id req.typeKey
  let row : UserTypePreferenceRow ←
    ext.query (.preferences (.upsertTypePreference claims.subject nt.id req.enabled))
  return ⟨req.serviceSlug, req.typeKey, row.enabled⟩

def deleteTypePreference (req : DeleteTypePreferenceRequest) : Program Status Unit := do
  let claims ← AuthClaims.fromExtensions extensions
  let service ← serviceBySlug ext req.serviceSlug
  let nt ← typeByKey ext service.id req.typeKey
  ext.query (.preferences (.deleteTypePreference claims.subject nt.id))

def listMuteRules : Program Status ListMuteRulesResponse := do
  let claims ← AuthClaims.fromExtensions extensions
  let rows : List MuteRuleRow ← ext.query (.muteRules (.listMuteRules claims.subject))
  -- slugs and type keys would need a reverse lookup
  return ⟨rows.map fun r =>
    ⟨ext.showUuid r.id, "", "", optTimestamp r.mutedUntil, toTimestamp r.createdAt⟩⟩

/-- The service that a mute rule is restricted to, if any. -/
def muteService (slug : String) : Program Status (Option Uuid) := do
  if !slug.isEmpty then
    let service ← serviceBySlug ext slug
    return some service.id
  else return none

/-- The type that a mute rule is restricted to; without a service the type is ignored. -/
def muteType (serviceId : Option Uuid) (typeKey : String) : Program Status (Option Uuid) :=
  match serviceId with
  | some serviceId => do
    if !typeKey.isEmpty then
      let nt ← typeByKey ext serviceId typeKey
      return some nt.id
    else return none
  | none => return none

def createMuteRule (req : CreateMuteRuleRequest) : Program Status MuteRule := do
  let claims ← AuthClaims.fromExtensions extensions
  let serviceId ← muteService ext req.serviceSlug
  let notifTypeId ← muteType ext serviceId req.notificationType
  let mutedUntil := req.mutedUntil.bind fun t => ext.fromTimestamp t.seconds t.nanos.toUInt32
  let row : MuteRuleRow ← ext.query (.muteRules (.insertMuteRule claims.subject serviceId
    notifTypeId mutedUntil))
  return ⟨ext.showUuid row.id, req.serviceSlug, req.notificationType,
    optTimestamp row.mutedUntil, toTimestamp row.createdAt⟩

def deleteMuteRule (req : DeleteMuteRuleRequest) : Program Status Unit := do
  let claims ← AuthClaims.fromExtensions extensions
  let ruleId ← Prog.okOr (.invalidArgument "invalid rule_id") (ext.parseUuid req.ruleId)
  let deleted : Bool ← ext.query (.muteRules (.deleteMuteRule claims.subject ruleId))
  Prog.ensure deleted (.notFound "mute rule not found")

end Estafeta.UserConfigService
