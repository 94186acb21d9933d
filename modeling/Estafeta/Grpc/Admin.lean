import Estafeta.Auth.Keto
import Estafeta.Grpc.Notifications

/-!
# Admin service

The handlers of `grpc/admin.rs`. Each requires the subject to be an admin.
-/

open Atomic

namespace Estafeta

/-- The escalation action that a protocol value names. -/
def escalationActionFromProto (v : Int32) : String :=
  if v = 1 then "resurface"
  else if v = 2 then "bump"
  else if v = 3 then "elevate"
  else "resurface"

namespace AdminService

variable (ext : Ext) (extensions : Option AuthClaims)

/-- The protocol form of a service. -/
def serviceToProto (row : ServiceRow) : Service where
  id := ext.showUuid row.id
  slug := row.slug
  displayName := row.displayName
  description := row.description.getD ""
  enabled := row.enabled
  createdAt := toTimestamp row.createdAt
  updatedAt := toTimestamp row.updatedAt

/-- The protocol form of the global policy. -/
def policyToProto (row : GlobalPolicyRow) : GlobalPolicy where
  maxNotificationsPerUserPerHour := row.maxNotificationsPerUserPerHour
  maxTtlSeconds := row.maxTtlSeconds
  maxEscalations := row.maxEscalations
  rateLimitPerServicePerSecond := row.rateLimitPerServicePerSecond
  updatedAt := toTimestamp row.updatedAt

def registerService (req : RegisterServiceRequest) : Program Status Service := do
  let claims ← AuthClaims.fromExtensions extensions
  Keto.requireAdmin claims.subject
  let row ← ext.query (.services (.insertService req.slug req.displayName
    (nonEmpty req.description)))
  return serviceToProto ext row

def updateService (req : UpdateServiceRequest) : Program Status Service := do
  let claims ← AuthClaims.fromExtensions extensions
  Keto.requireAdmin claims.subject
  let row ← ext.query (.services (.updateService req.slug req.displayName
    (nonEmpty req.description)))
  return serviceToProto ext row

def listServices (req : ListServicesRequest) : Program Status ListServicesResponse := do
  let claims ← AuthClaims.fromExtensions extensions
  Keto.requireAdmin claims.subject
  let pageSize := pageSize req.pagination
  let offset := pageOffset req.pagination
  let rows : List ServiceRow ← ext.query (.services (.listServices pageSize offset))
  let total : Int64 ← ext.query (.services .countServices)
  return {
    services := rows.map (serviceToProto ext)
    pagination := some
      { nextPageToken := if offset + pageSize < total then toString (offset + pageSize) else ""
        totalCount := total } }

def disableService (req : DisableServiceRequest) : Program Status Unit := do
  let claims ← AuthClaims.fromExtensions extensions
  Keto.requireAdmin claims.subject
  ext.query (.services (.setServiceEnabled req.slug false))

def enableService (req : EnableServiceRequest) : Program Status Unit := do
  let claims ← AuthClaims.fromExtensions extensions
  Keto.requireAdmin claims.subject
  ext.query (.services (.setServiceEnabled req.slug true))

def setGlobalPolicy (req : SetGlobalPolicyRequest) : Program Status GlobalPolicy := do
  let claims ← AuthClaims.fromExtensions extensions
  Keto.requireAdmin claims.subject
  let row ← ext.query (.preferences (.updateGlobalPolicy req.maxNotificationsPerUserPerHour
    req.maxTtlSeconds req.maxEscalations req.rateLimitPerServicePerSecond))
  return policyToProto row

def getGlobalPolicy : Program Status GlobalPolicy := do
  let claims ← AuthClaims.fromExtensions extensions
  Keto.requireAdmin claims.subject
  let row ← ext.query (.preferences .getGlobalPolicy)
  return policyToProto row

/-- The statement that performs an action on a notification. -/
def resurfaceQuery (action : String) (id : Uuid) : Db.Notifications.Query :=
  match action with
  | "resurface" => .resurfaceNotification id
  | "bump" => .bumpNotification id
  | _ => .resurfaceNotification id

def resurfaceNotification (req : ResurfaceNotificationRequest) : Program Status Unit := do
  let claims ← AuthClaims.fromExtensions extensions
  Keto.requireAdmin claims.subject
  let id ← Prog.okOr (.invalidArgument "invalid notification_id")
    (ext.parseUuid req.notificationId)
  let _notif : NotificationRow ← Prog.okOr (.notFound "notification not found")
    (← ext.query (.notifications (.getNotification id)))
  let _ ← ext.query (.notifications (resurfaceQuery (escalationActionFromProto req.action) id))

end AdminService

end Estafeta
