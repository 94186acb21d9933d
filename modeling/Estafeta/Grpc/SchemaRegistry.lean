import Estafeta.Grpc.Admin

/-!
# Schema registry service

The handlers of `grpc/schema_registry.rs`, on the instance `inst` whose caches they invalidate.
-/

open Atomic

namespace Estafeta

/-- The protocol value of an escalation action. -/
def escalationActionToProto (s : String) : Int32 :=
  match s with
  | "resurface" => 1
  | "bump" => 2
  | "elevate" => 3
  | _ => 0

/-- A value that the protocol leaves out when it is not positive. -/
def positive (n : Int32) : Option Int32 := if n > 0 then some n else none

namespace SchemaRegistryService

variable (ext : Ext) (inst : ℕ) (extensions : Option AuthClaims)

def rowToProto (row : NotificationTypeRow) (serviceSlug : String) : NotificationType where
  id := ext.showUuid row.id
  serviceSlug := serviceSlug
  typeKey := row.typeKey
  displayName := row.displayName
  description := row.description.getD ""
  jsonSchema := valueToProtoStruct row.jsonSchema
  defaultTtlSeconds := row.defaultTtlSeconds.getD 0
  escalationIntervalSeconds := row.escalationIntervalSeconds.getD 0
  maxEscalations := row.maxEscalations
  escalationAction := escalationActionToProto row.escalationAction
  enabled := row.enabled
  defaultIcon := row.defaultIcon.getD ""
  createdAt := toTimestamp row.createdAt
  updatedAt := toTimestamp row.updatedAt

/-- The protocol form of a level. -/
def levelToProto (row : NotificationLevelRow) (serviceSlug : String) : NotificationLevel where
  id := ext.showUuid row.id
  serviceSlug := serviceSlug
  key := row.key
  displayName := row.displayName
  severity := row.severity
  color := row.color.getD ""
  icon := row.icon.getD ""

/-- The schema of a request: any object if it has none. -/
def schemaValue (jsonSchema : Option Struct) : Json :=
  (jsonSchema.map protoStructToValue).getD (.object [("type", .string "object")])

/-- The service of a request. -/
def serviceBySlug (slug : String) : Program Status ServiceRow := do
  Prog.okOr (.notFound "service not found") (← ext.query (.services (.getServiceBySlug slug)))

def registerType (req : RegisterTypeRequest) : Program Status NotificationType := do
  let claims ← AuthClaims.fromExtensions extensions
  Keto.requireAdmin claims.subject
  let service : ServiceRow ← Prog.okOr (.notFound s!"service '{req.serviceSlug}' not found")
    (← ext.query (.services (.getServiceBySlug req.serviceSlug)))
  let schema := schemaValue req.jsonSchema
  -- the schema itself must be a valid JSON Schema
  Prog.ensure (isValidSchema ext schema) (.invalidArgument "invalid JSON schema")
  let row ← ext.query (.schemas (.insertNotificationType service.id req.typeKey req.displayName
    (nonEmpty req.description) schema (positive req.defaultTtlSeconds)
    (positive req.escalationIntervalSeconds) req.maxEscalations
    (escalationActionFromProto req.escalationAction) (nonEmpty req.defaultIcon)))
  perform (.cacheInvalidate inst .notificationTypes
    (notificationTypeKey req.serviceSlug req.typeKey))
  return rowToProto ext row req.serviceSlug

def updateType (req : UpdateTypeRequest) : Program Status NotificationType := do
  let claims ← AuthClaims.fromExtensions extensions
  Keto.requireAdmin claims.subject
  let service ← serviceBySlug ext req.serviceSlug
  let row ← ext.query (.schemas (.updateNotificationType service.id req.typeKey req.displayName
    (nonEmpty req.description) (schemaValue req.jsonSchema) (positive req.defaultTtlSeconds)
    (positive req.escalationIntervalSeconds) req.maxEscalations
    (escalationActionFromProto req.escalationAction) (nonEmpty req.defaultIcon) req.enabled))
  perform (.cacheInvalidate inst .notificationTypes
    (notificationTypeKey req.serviceSlug req.typeKey))
  return rowToProto ext row req.serviceSlug

def getType (req : GetTypeRequest) : Program Status NotificationType := do
  let service ← serviceBySlug ext req.serviceSlug
  let row : NotificationTypeRow ← Prog.okOr (.notFound "notification type not found")
    (← ext.query (.schemas (.getNotificationType service.id req.typeKey)))
  return rowToProto ext row req.serviceSlug

def listTypes (req : ListTypesRequest) : Program Status ListTypesResponse := do
  let service ← serviceBySlug ext req.serviceSlug
  let pageSize := pageSize req.pagination
  let offset := pageOffset req.pagination
  let rows : List NotificationTypeRow ←
    ext.query (.schemas (.listNotificationTypes service.id pageSize offset))
  return {
    types := rows.map fun r => rowToProto ext r req.serviceSlug
    pagination := some
      { nextPageToken := nextPageToken rows.length pageSize offset
        totalCount := 0 } }

def registerLevel (req : RegisterLevelRequest) : Program Status NotificationLevel := do
  let claims ← AuthClaims.fromExtensions extensions
  Keto.requireAdmin claims.subject
  let service ← serviceBySlug ext req.serviceSlug
  let row ← ext.query (.schemas (.insertNotificationLevel service.id req.key req.displayName
    req.severity (nonEmpty req.color) (nonEmpty req.icon)))
  return levelToProto ext row req.serviceSlug

def updateLevel (req : UpdateLevelRequest) : Program Status NotificationLevel := do
  let claims ← AuthClaims.fromExtensions extensions
  Keto.requireAdmin claims.subject
  let service ← serviceBySlug ext req.serviceSlug
  let row ← ext.query (.schemas (.updateNotificationLevel service.id req.key req.displayName
    req.severity (nonEmpty req.color) (nonEmpty req.icon)))
  return levelToProto ext row req.serviceSlug

def listLevels (req : ListLevelsRequest) : Program Status ListLevelsResponse := do
  let service ← serviceBySlug ext req.serviceSlug
  let rows : List NotificationLevelRow ←
    ext.query (.schemas (.listNotificationLevels service.id))
  return ⟨rows.map fun r => levelToProto ext r req.serviceSlug⟩

def validatePayload (req : ValidatePayloadRequest) : Program Status ValidatePayloadResponse := do
  let service ← serviceBySlug ext req.serviceSlug
  let nt : NotificationTypeRow ← Prog.okOr (.notFound "notification type not found")
    (← ext.query (.schemas (.getNotificationType service.id req.notificationType)))
  let payload := (req.payload.map protoStructToValue).getD (.object [])
  match Estafeta.validatePayload ext nt.jsonSchema payload with
  | .ok () => return ⟨true, []⟩
  | .error errors => return ⟨false, errors⟩

end SchemaRegistryService

end Estafeta
