import Mathlib.Data.Int.Notation
import Estafeta.Json

/-!
# Requests, responses and messages

The gRPC messages of the four unary services, the messages that travel over NATS, and the status
that a failed call ends with. A protobuf map and a `HashMap` are lists of pairs.
-/

namespace Estafeta

/-- A `Uuid`. -/
abbrev Uuid := BitVec 128

instance : LawfulBEq Uuid := inferInstance

/-- An instant, in microseconds since the epoch: the precision of a `TIMESTAMPTZ`. -/
abbrev Time := ℤ

/-- `chrono::Duration::seconds`. -/
def Duration.seconds (s : Int32) : Time := s.toInt * 1000000

/-- `prost_types::Timestamp`. -/
structure Timestamp where
  seconds : Int64
  nanos : Int32
  deriving DecidableEq

/-- The protobuf timestamp of an instant. -/
def toTimestamp (t : Time) : Option Timestamp :=
  some ⟨Int64.ofInt (t / 1000000), Int32.ofInt (t % 1000000 * 1000)⟩

/-- The protobuf timestamp of an optional instant. -/
def optTimestamp (t : Option Time) : Option Timestamp := t.bind toTimestamp

/-! ## Status -/

/-- The gRPC codes that the services answer with. -/
inductive Code where
  | invalidArgument
  | notFound
  | permissionDenied
  | failedPrecondition
  | internal
  | unauthenticated
  deriving DecidableEq

/-- `tonic::Status`. -/
structure Status where
  code : Code
  message : String
  deriving DecidableEq

namespace Status

def invalidArgument (message : String) : Status := ⟨.invalidArgument, message⟩
def notFound (message : String) : Status := ⟨.notFound, message⟩
def permissionDenied (message : String) : Status := ⟨.permissionDenied, message⟩
def failedPrecondition (message : String) : Status := ⟨.failedPrecondition, message⟩
def internal (message : String) : Status := ⟨.internal, message⟩
def unauthenticated (message : String) : Status := ⟨.unauthenticated, message⟩

end Status

/-- Authenticated user claims extracted from a validated token. -/
structure AuthClaims where
  subject : String
  scopes : List String

/-! ## Common messages -/

structure Pagination where
  pageSize : Int32
  pageToken : String

structure PaginatedResponse where
  nextPageToken : String
  totalCount : Int64

/-! ## Notification service -/

structure SendNotificationRequest where
  serviceSlug : String
  notificationType : String
  recipientUserId : String
  level : String
  payload : Option Struct
  idempotencyKey : String
  groupKey : String
  ttlSeconds : Int32
  metadata : List (String × String)
  actionUrl : String
  icon : String

structure SendNotificationResponse where
  notificationId : String

structure SendNotificationBatchRequest where
  notifications : List SendNotificationRequest

structure SendNotificationBatchResponse where
  results : List SendNotificationResponse
  failedCount : Int32

structure GetNotificationRequest where
  notificationId : String

structure Notification where
  id : String
  serviceSlug : String
  notificationType : String
  level : String
  state : Int32
  payload : Option Struct
  groupKey : String
  metadata : List (String × String)
  createdAt : Option Timestamp
  seenAt : Option Timestamp
  readAt : Option Timestamp
  snoozedUntil : Option Timestamp
  expiresAt : Option Timestamp
  escalationCount : Int32
  recipientUserId : String
  actionUrl : String
  icon : String

structure ListNotificationsRequest where
  states : List Int32
  serviceSlugs : List String
  notificationTypes : List String
  groupKey : String
  pagination : Option Pagination

structure ListNotificationsResponse where
  notifications : List Notification
  pagination : Option PaginatedResponse

structure MarkSeenRequest where
  notificationIds : List String

structure MarkSeenResponse where
  markedCount : Int64

structure MarkReadRequest where
  notificationIds : List String

structure MarkUnreadRequest where
  notificationIds : List String

structure SnoozeRequest where
  notificationId : String
  snoozeUntil : Option Timestamp

structure ArchiveRequest where
  notificationIds : List String

structure UnarchiveRequest where
  notificationIds : List String

structure ArchiveAllInGroupRequest where
  serviceSlug : String

structure ArchiveAllInGroupResponse where
  archivedCount : Int64

structure ProducerMarkReadRequest where
  serviceSlug : String
  notificationIds : List String
  recipientUserId : String

structure GetUnseenCountRequest where
  serviceSlugs : List String

structure UnseenCountResponse where
  totalCount : Int64
  countByService : List (String × Int64)

structure GetUnreadCountRequest where
  serviceSlugs : List String

structure UnreadCountResponse where
  totalCount : Int64
  countByService : List (String × Int64)

/-! ## Schema registry service -/

structure RegisterTypeRequest where
  serviceSlug : String
  typeKey : String
  displayName : String
  description : String
  jsonSchema : Option Struct
  defaultTtlSeconds : Int32
  escalationIntervalSeconds : Int32
  maxEscalations : Int32
  escalationAction : Int32
  defaultIcon : String

structure UpdateTypeRequest where
  serviceSlug : String
  typeKey : String
  displayName : String
  description : String
  jsonSchema : Option Struct
  defaultTtlSeconds : Int32
  escalationIntervalSeconds : Int32
  maxEscalations : Int32
  escalationAction : Int32
  enabled : Bool
  defaultIcon : String

structure GetTypeRequest where
  serviceSlug : String
  typeKey : String

structure ListTypesRequest where
  serviceSlug : String
  pagination : Option Pagination

structure NotificationType where
  id : String
  serviceSlug : String
  typeKey : String
  displayName : String
  description : String
  jsonSchema : Option Struct
  defaultTtlSeconds : Int32
  escalationIntervalSeconds : Int32
  maxEscalations : Int32
  escalationAction : Int32
  enabled : Bool
  defaultIcon : String
  createdAt : Option Timestamp
  updatedAt : Option Timestamp

structure ListTypesResponse where
  types : List NotificationType
  pagination : Option PaginatedResponse

structure RegisterLevelRequest where
  serviceSlug : String
  key : String
  displayName : String
  severity : Int32
  color : String
  icon : String

structure UpdateLevelRequest where
  serviceSlug : String
  key : String
  displayName : String
  severity : Int32
  color : String
  icon : String

structure NotificationLevel where
  id : String
  serviceSlug : String
  key : String
  displayName : String
  severity : Int32
  color : String
  icon : String

structure ListLevelsRequest where
  serviceSlug : String

structure ListLevelsResponse where
  levels : List NotificationLevel

structure ValidatePayloadRequest where
  serviceSlug : String
  notificationType : String
  payload : Option Struct

structure ValidatePayloadResponse where
  valid : Bool
  errors : List String

/-! ## User config service -/

structure ServicePreference where
  serviceSlug : String
  enabled : Bool
  minSeverity : Int32

structure TypePreference where
  serviceSlug : String
  typeKey : String
  enabled : Bool

structure UserPreferences where
  globalEnabled : Bool
  catchUpMode : String
  sortMode : String
  servicePreferences : List ServicePreference
  typePreferences : List TypePreference

structure UpdatePreferencesRequest where
  globalEnabled : Bool
  catchUpMode : String
  sortMode : String

structure SetServicePreferenceRequest where
  serviceSlug : String
  enabled : Bool
  minSeverity : Int32

structure DeleteServicePreferenceRequest where
  serviceSlug : String

structure SetTypePreferenceRequest where
  serviceSlug : String
  typeKey : String
  enabled : Bool

structure DeleteTypePreferenceRequest where
  serviceSlug : String
  typeKey : String

structure MuteRule where
  id : String
  serviceSlug : String
  notificationType : String
  mutedUntil : Option Timestamp
  createdAt : Option Timestamp

structure ListMuteRulesResponse where
  rules : List MuteRule

structure CreateMuteRuleRequest where
  serviceSlug : String
  notificationType : String
  mutedUntil : Option Timestamp

structure DeleteMuteRuleRequest where
  ruleId : String

/-! ## Admin service -/

structure RegisterServiceRequest where
  slug : String
  displayName : String
  description : String

structure UpdateServiceRequest where
  slug : String
  displayName : String
  description : String

structure Service where
  id : String
  slug : String
  displayName : String
  description : String
  enabled : Bool
  createdAt : Option Timestamp
  updatedAt : Option Timestamp

structure ListServicesRequest where
  pagination : Option Pagination

structure ListServicesResponse where
  services : List Service
  pagination : Option PaginatedResponse

structure DisableServiceRequest where
  slug : String

structure EnableServiceRequest where
  slug : String

structure SetGlobalPolicyRequest where
  maxNotificationsPerUserPerHour : Int32
  maxTtlSeconds : Int32
  maxEscalations : Int32
  rateLimitPerServicePerSecond : Int32

structure GlobalPolicy where
  maxNotificationsPerUserPerHour : Int32
  maxTtlSeconds : Int32
  maxEscalations : Int32
  rateLimitPerServicePerSecond : Int32
  updatedAt : Option Timestamp

structure ResurfaceNotificationRequest where
  notificationId : String
  action : Int32

/-! ## NATS messages -/

/-- Message published to `notif.ingest.{service_slug}` on JetStream. -/
structure IngestMessage where
  notificationId : Uuid
  serviceSlug : String
  notificationType : String
  recipientUserId : String
  level : String
  payload : Json
  idempotencyKey : Option String
  groupKey : Option String
  ttlSeconds : Option Int32
  metadata : List (String × String)
  actionUrl : Option String
  icon : Option String

/-- What is read of the text of a message. -/
def IngestMessage.reread (floatText : FiniteF64 → FiniteF64) (m : IngestMessage) : IngestMessage :=
  { m with payload := m.payload.reread floatText }

theorem IngestMessage.reread_of_survives {floatText : FiniteF64 → FiniteF64} {m : IngestMessage}
    (survives : m.payload.survives floatText = true) : m.reread floatText = m := by
  rw [IngestMessage.reread, Estafeta.reread_of_survives survives]

/-- Discriminator for real-time event payloads. -/
inductive RealtimeEventType where
  | newNotification
  | stateChange
  | unseenCountUpdate
  deriving DecidableEq

/-- Event published to `rt.user.{user_id}` on NATS Core. -/
structure RealtimeEvent where
  eventType : RealtimeEventType
  notificationId : Uuid
  serviceSlug : String
  notificationType : String
  level : Option String
  payload : Option Json
  groupKey : Option String
  metadata : Option (List (String × String))
  oldState : Option String
  newState : Option String
  unseenCount : Option Int64
  actionUrl : Option String
  icon : Option String

/-- What is read of the text of an event. -/
def RealtimeEvent.reread (floatText : FiniteF64 → FiniteF64) (event : RealtimeEvent) : RealtimeEvent :=
  { event with payload := event.payload.map (·.reread floatText) }

/-! ## Strings -/

/-- An optional string from a protobuf string, which is empty when it is absent. -/
def nonEmpty (s : String) : Option String := if s.isEmpty then none else some s

/-- The value of a list of decimal digits. -/
def parseDigits : List Char → Option ℕ
  | [] => none
  | cs =>
    if cs.all Char.isDigit then some (cs.foldl (fun n c => 10 * n + (c.toNat - 48)) 0) else none

/-- `str::parse::<i64>`: an optional sign and decimal digits, of a value in range. -/
def parseI64 (s : String) : Option Int64 := do
  let n : ℤ ← match s.toList with
    | '-' :: cs => (parseDigits cs).map fun n => -n
    | '+' :: cs => (parseDigits cs).map fun n => n
    | cs => (parseDigits cs).map fun n => n
  if -2 ^ 63 ≤ n ∧ n < 2 ^ 63 then some (Int64.ofInt n) else none

end Estafeta
