import Estafeta.Lifecycle.StateMachine
import Estafeta.Processing.SchemaValidator
import Estafeta.Auth.Keto

/-!
# Notification service

The handlers of `grpc/notifications.rs`. A handler gets the claims that the interceptor left in the
request's extensions, if any, and the request.
-/

open Atomic

namespace Estafeta

/-- The page size of a listing, clamped to 100. -/
def pageSize (pagination : Option Pagination) : Int64 :=
  min ((pagination.map fun p => p.pageSize.toInt64).getD 50) 100

/-- The offset that a page token stands for. -/
def pageOffset (pagination : Option Pagination) : Int64 :=
  (pagination.bind fun p => parseI64 p.pageToken).getD 0

/-- The token of the page after a full one. -/
def nextPageToken (rows : ℕ) (pageSize offset : Int64) : String :=
  if Int64.ofNat rows = pageSize then toString (offset + pageSize) else ""

namespace NotificationService

variable (ext : Ext) (extensions : Option AuthClaims)

def rowToProto (row : NotificationRow) : Notification where
  id := ext.showUuid row.id
  serviceSlug := ""
  notificationType := ""
  level := ""
  state :=
    match NotificationState.fromDbStr row.state with
    | .ok s => s.toProto
    | .error _ => 0
  payload := valueToProtoStruct row.payload
  groupKey := row.groupKey.getD ""
  metadata := (row.metadata.asObject?.map fun m =>
    m.filterMap fun (k, v) => v.asStr?.map fun s => (k, s)).getD []
  createdAt := toTimestamp row.createdAt
  seenAt := optTimestamp row.seenAt
  readAt := optTimestamp row.readAt
  snoozedUntil := optTimestamp row.snoozedUntil
  expiresAt := optTimestamp row.expiresAt
  escalationCount := row.escalationCount
  recipientUserId := row.recipientUserId
  actionUrl := row.actionUrl.getD ""
  icon := row.icon.getD ""

/-- Parse ids, failing on the first that is not a UUID. -/
def parseUuids (ids : List String) : Except Status (List Uuid) :=
  ids.mapM fun s =>
    match ext.parseUuid s with
    | some id => .ok id
    | none => .error (.invalidArgument s!"invalid UUID: {s}")

/-- The message that a request to send a notification puts into the ingest stream. -/
def ingestMessage (req : SendNotificationRequest) (notificationId : Uuid) (payload : Json) :
    IngestMessage where
  notificationId := notificationId
  serviceSlug := req.serviceSlug
  notificationType := req.notificationType
  recipientUserId := req.recipientUserId
  level := req.level
  payload := payload
  idempotencyKey := nonEmpty req.idempotencyKey
  groupKey := nonEmpty req.groupKey
  ttlSeconds := if req.ttlSeconds > 0 then some req.ttlSeconds else none
  metadata := req.metadata
  actionUrl := nonEmpty req.actionUrl
  icon := nonEmpty req.icon

/-- Publish an ingestion message to JetStream. -/
def publishIngest (serviceSlug : String) (msg : IngestMessage) : Program String Unit :=
  .call (.publishIngest s!"notif.ingest.{serviceSlug}" msg) .ofExcept

def sendNotification (req : SendNotificationRequest) :
    Program Status SendNotificationResponse := do
  let claims ← AuthClaims.fromExtensions extensions
  -- caller must have send permission for the service
  Keto.requireServiceSend req.serviceSlug claims.subject
  let service : ServiceRow ← Prog.okOr (.notFound "service not found")
    (← ext.query (.services (.getServiceBySlug req.serviceSlug)))
  Prog.ensure service.enabled (.failedPrecondition "service is disabled")
  let notifType : NotificationTypeRow ← Prog.okOr (.notFound "notification type not found")
    (← ext.query (.schemas (.getNotificationType service.id req.notificationType)))
  Prog.ensure notifType.enabled (.failedPrecondition "notification type is disabled")
  let payload := (req.payload.map protoStructToValue).getD (.object [])
  match validatePayload ext notifType.jsonSchema payload with
  | .error errors =>
    let joined := "; ".intercalate errors
    Prog.fail (.invalidArgument s!"payload validation failed: {joined}")
  | .ok () =>
    let notificationId ← newUuid
    (publishIngest req.serviceSlug (ingestMessage req notificationId payload)).mapErr
      fun e => Status.internal s!"failed to publish: {e}"
    return ⟨ext.showUuid notificationId⟩

/-- One round of the loop of `sendNotificationBatch`: a failed item counts, with an empty id. -/
def sendBatchItem (claims : AuthClaims) (acc : List SendNotificationResponse × Int32)
    (req : SendNotificationRequest) : Program Status (List SendNotificationResponse × Int32) := do
  match ← (sendNotification ext (some claims) req).attempt with
  | .ok resp => return (acc.1 ++ [resp], acc.2)
  | .error _ => return (acc.1 ++ [⟨""⟩], acc.2 + 1)

def sendNotificationBatch (req : SendNotificationBatchRequest) :
    Program Status SendNotificationBatchResponse := do
  let claims ← AuthClaims.fromExtensions extensions
  let (results, failedCount) ← req.notifications.foldlM (sendBatchItem ext claims) ([], 0)
  return ⟨results, failedCount⟩

def getNotification (req : GetNotificationRequest) : Program Status Notification := do
  let claims ← AuthClaims.fromExtensions extensions
  let id ← Prog.okOr (.invalidArgument "invalid notification_id")
    (ext.parseUuid req.notificationId)
  let row : NotificationRow ← Prog.okOr (.notFound "notification not found")
    (← ext.query (.notifications (.getNotification id)))
  -- users can only see their own notifications
  Prog.ensure (row.recipientUserId = claims.subject) (.permissionDenied "not your notification")
  return rowToProto ext row

/-- Resolve service slugs to ids, dropping unknown ones. -/
def serviceIds (slugs : List String) : Program Status (List Uuid) :=
  slugs.foldlM (fun ids slug => do
    let svc : Option ServiceRow ← ext.query (.services (.getServiceBySlug slug))
    match svc with
    | some svc => return ids ++ [svc.id]
    | none => return ids) []

/-- The names of the requested states, dropping unknown ones. -/
def stateFilter (states : List Int32) : List String :=
  states.filterMap fun s =>
    match NotificationState.fromProto s with
    | .ok ns => some ns.asDbStr
    | .error _ => none

def listNotifications (req : ListNotificationsRequest) :
    Program Status ListNotificationsResponse := do
  let claims ← AuthClaims.fromExtensions extensions
  let pageSize := pageSize req.pagination
  let offset := pageOffset req.pagination
  let serviceIds ← serviceIds ext req.serviceSlugs
  -- type filtering is not implemented
  let rows : List NotificationRow ← ext.query (.notifications (.listNotifications claims.subject
    (stateFilter req.states) serviceIds [] (nonEmpty req.groupKey) pageSize offset))
  return {
    notifications := rows.map (rowToProto ext)
    pagination := some
      { nextPageToken := nextPageToken rows.length pageSize offset
        totalCount := 0 } }

def markSeen (req : MarkSeenRequest) : Program Status MarkSeenResponse := do
  let claims ← AuthClaims.fromExtensions extensions
  if req.notificationIds.isEmpty then
    -- mark all unseen as seen
    let marked : ℕ ← ext.query (.notifications (.markAllSeen claims.subject))
    return ⟨Int64.ofNat marked⟩
  else
    let ids ← Prog.ofExcept (parseUuids ext req.notificationIds)
    let marked : ℕ ← ext.query (.notifications (.markSeen claims.subject ids))
    return ⟨Int64.ofNat marked⟩

def markRead (req : MarkReadRequest) : Program Status Unit := do
  let claims ← AuthClaims.fromExtensions extensions
  let ids ← Prog.ofExcept (parseUuids ext req.notificationIds)
  let _ ← ext.query (.notifications (.markRead claims.subject ids))

def markUnread (req : MarkUnreadRequest) : Program Status Unit := do
  let claims ← AuthClaims.fromExtensions extensions
  let ids ← Prog.ofExcept (parseUuids ext req.notificationIds)
  let _ ← ext.query (.notifications (.markUnread claims.subject ids))

def snooze (req : SnoozeRequest) : Program Status Unit := do
  let claims ← AuthClaims.fromExtensions extensions
  let id ← Prog.okOr (.invalidArgument "invalid notification_id")
    (ext.parseUuid req.notificationId)
  let until_ ← Prog.okOr (.invalidArgument "snooze_until is required") req.snoozeUntil
  let untilDt ← Prog.okOr (.invalidArgument "invalid snooze_until timestamp")
    (ext.fromTimestamp until_.seconds until_.nanos.toUInt32)
  let _ ← ext.query (.notifications (.snooze claims.subject id untilDt))

def archive (req : ArchiveRequest) : Program Status Unit := do
  let claims ← AuthClaims.fromExtensions extensions
  let ids ← Prog.ofExcept (parseUuids ext req.notificationIds)
  let _ ← ext.query (.notifications (.archive claims.subject ids))

def unarchive (req : UnarchiveRequest) : Program Status Unit := do
  let claims ← AuthClaims.fromExtensions extensions
  let ids ← Prog.ofExcept (parseUuids ext req.notificationIds)
  let _ ← ext.query (.notifications (.unarchive claims.subject ids))

def archiveAllInGroup (req : ArchiveAllInGroupRequest) :
    Program Status ArchiveAllInGroupResponse := do
  let claims ← AuthClaims.fromExtensions extensions
  let service : ServiceRow ← Prog.okOr (.notFound "service not found")
    (← ext.query (.services (.getServiceBySlug req.serviceSlug)))
  let archived : ℕ ← ext.query (.notifications (.archiveAllInGroup claims.subject service.id))
  return ⟨Int64.ofNat archived⟩

def producerMarkRead (req : ProducerMarkReadRequest) : Program Status Unit := do
  let claims ← AuthClaims.fromExtensions extensions
  -- caller must have send permission for the service
  Keto.requireServiceSend req.serviceSlug claims.subject
  let ids ← Prog.ofExcept (parseUuids ext req.notificationIds)
  let _ ← ext.query (.notifications (.producerMarkRead req.recipientUserId ids))

/-- Counts by service, the services named by their ids. -/
def countMap (byService : List (Uuid × Int64)) : List (String × Int64) :=
  byService.map fun (id, count) => (ext.showUuid id, count)

def getUnseenCount (req : GetUnseenCountRequest) : Program Status UnseenCountResponse := do
  let claims ← AuthClaims.fromExtensions extensions
  let serviceIds ← serviceIds ext req.serviceSlugs
  let total ← ext.query (.notifications (.countUnseen claims.subject serviceIds))
  let byService ← ext.query (.notifications (.countUnseenByService claims.subject))
  return ⟨total, countMap ext byService⟩

def getUnreadCount (req : GetUnreadCountRequest) : Program Status UnreadCountResponse := do
  let claims ← AuthClaims.fromExtensions extensions
  let serviceIds ← serviceIds ext req.serviceSlugs
  let total ← ext.query (.notifications (.countUnread claims.subject serviceIds))
  let byService ← ext.query (.notifications (.countUnreadByService claims.subject))
  return ⟨total, countMap ext byService⟩

end NotificationService

end Estafeta
