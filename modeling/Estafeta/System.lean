import Estafeta.Lib.History
import Estafeta.Processing.Processor
import Estafeta.Lifecycle.Scheduler
import Estafeta.Grpc.UserConfig

/-!
# The system

Everything that runs: the calls of the four unary gRPC services on any instance, the processors and
the passes of the three scheduler loops. `system` is the interleaving of any number of them at the
granularity of single operations.
-/

open Atomic

namespace Estafeta

/-- The requests of the unary services. -/
inductive Rpc where
  | sendNotification (req : SendNotificationRequest)
  | sendNotificationBatch (req : SendNotificationBatchRequest)
  | getNotification (req : GetNotificationRequest)
  | listNotifications (req : ListNotificationsRequest)
  | markSeen (req : MarkSeenRequest)
  | markRead (req : MarkReadRequest)
  | markUnread (req : MarkUnreadRequest)
  | snooze (req : SnoozeRequest)
  | archive (req : ArchiveRequest)
  | unarchive (req : UnarchiveRequest)
  | archiveAllInGroup (req : ArchiveAllInGroupRequest)
  | producerMarkRead (req : ProducerMarkReadRequest)
  | getUnseenCount (req : GetUnseenCountRequest)
  | getUnreadCount (req : GetUnreadCountRequest)
  | registerType (req : RegisterTypeRequest)
  | updateType (req : UpdateTypeRequest)
  | getType (req : GetTypeRequest)
  | listTypes (req : ListTypesRequest)
  | registerLevel (req : RegisterLevelRequest)
  | updateLevel (req : UpdateLevelRequest)
  | listLevels (req : ListLevelsRequest)
  | validatePayload (req : ValidatePayloadRequest)
  | getPreferences
  | updatePreferences (req : UpdatePreferencesRequest)
  | setServicePreference (req : SetServicePreferenceRequest)
  | deleteServicePreference (req : DeleteServicePreferenceRequest)
  | setTypePreference (req : SetTypePreferenceRequest)
  | deleteTypePreference (req : DeleteTypePreferenceRequest)
  | listMuteRules
  | createMuteRule (req : CreateMuteRuleRequest)
  | deleteMuteRule (req : DeleteMuteRuleRequest)
  | registerService (req : RegisterServiceRequest)
  | updateService (req : UpdateServiceRequest)
  | listServices (req : ListServicesRequest)
  | disableService (req : DisableServiceRequest)
  | enableService (req : EnableServiceRequest)
  | setGlobalPolicy (req : SetGlobalPolicyRequest)
  | getGlobalPolicy
  | resurfaceNotification (req : ResurfaceNotificationRequest)

/-- The response to a request. -/
@[reducible] def Rpc.Resp : Rpc → Type
  | .sendNotification _ => SendNotificationResponse
  | .sendNotificationBatch _ => SendNotificationBatchResponse
  | .getNotification _ => Notification
  | .listNotifications _ => ListNotificationsResponse
  | .markSeen _ => MarkSeenResponse
  | .markRead _ => Unit
  | .markUnread _ => Unit
  | .snooze _ => Unit
  | .archive _ => Unit
  | .unarchive _ => Unit
  | .archiveAllInGroup _ => ArchiveAllInGroupResponse
  | .producerMarkRead _ => Unit
  | .getUnseenCount _ => UnseenCountResponse
  | .getUnreadCount _ => UnreadCountResponse
  | .registerType _ => NotificationType
  | .updateType _ => NotificationType
  | .getType _ => NotificationType
  | .listTypes _ => ListTypesResponse
  | .registerLevel _ => NotificationLevel
  | .updateLevel _ => NotificationLevel
  | .listLevels _ => ListLevelsResponse
  | .validatePayload _ => ValidatePayloadResponse
  | .getPreferences => UserPreferences
  | .updatePreferences _ => UserPreferences
  | .setServicePreference _ => ServicePreference
  | .deleteServicePreference _ => Unit
  | .setTypePreference _ => TypePreference
  | .deleteTypePreference _ => Unit
  | .listMuteRules => ListMuteRulesResponse
  | .createMuteRule _ => MuteRule
  | .deleteMuteRule _ => Unit
  | .registerService _ => Service
  | .updateService _ => Service
  | .listServices _ => ListServicesResponse
  | .disableService _ => Unit
  | .enableService _ => Unit
  | .setGlobalPolicy _ => GlobalPolicy
  | .getGlobalPolicy => GlobalPolicy
  | .resurfaceNotification _ => Unit

/-- The handler of a request, on the instance `inst`. -/
def Rpc.handle (ext : Ext) (inst : ℕ) (extensions : Option AuthClaims) :
    (r : Rpc) → Program Status r.Resp
  | .sendNotification req => NotificationService.sendNotification ext extensions req
  | .sendNotificationBatch req => NotificationService.sendNotificationBatch ext extensions req
  | .getNotification req => NotificationService.getNotification ext extensions req
  | .listNotifications req => NotificationService.listNotifications ext extensions req
  | .markSeen req => NotificationService.markSeen ext extensions req
  | .markRead req => NotificationService.markRead ext extensions req
  | .markUnread req => NotificationService.markUnread ext extensions req
  | .snooze req => NotificationService.snooze ext extensions req
  | .archive req => NotificationService.archive ext extensions req
  | .unarchive req => NotificationService.unarchive ext extensions req
  | .archiveAllInGroup req => NotificationService.archiveAllInGroup ext extensions req
  | .producerMarkRead req => NotificationService.producerMarkRead ext extensions req
  | .getUnseenCount req => NotificationService.getUnseenCount ext extensions req
  | .getUnreadCount req => NotificationService.getUnreadCount ext extensions req
  | .registerType req => SchemaRegistryService.registerType ext inst extensions req
  | .updateType req => SchemaRegistryService.updateType ext inst extensions req
  | .getType req => SchemaRegistryService.getType ext req
  | .listTypes req => SchemaRegistryService.listTypes ext req
  | .registerLevel req => SchemaRegistryService.registerLevel ext extensions req
  | .updateLevel req => SchemaRegistryService.updateLevel ext extensions req
  | .listLevels req => SchemaRegistryService.listLevels ext req
  | .validatePayload req => SchemaRegistryService.validatePayload ext req
  | .getPreferences => UserConfigService.getPreferences ext extensions
  | .updatePreferences req => UserConfigService.updatePreferences ext extensions req
  | .setServicePreference req => UserConfigService.setServicePreference ext extensions req
  | .deleteServicePreference req => UserConfigService.deleteServicePreference ext extensions req
  | .setTypePreference req => UserConfigService.setTypePreference ext extensions req
  | .deleteTypePreference req => UserConfigService.deleteTypePreference ext extensions req
  | .listMuteRules => UserConfigService.listMuteRules ext extensions
  | .createMuteRule req => UserConfigService.createMuteRule ext extensions req
  | .deleteMuteRule req => UserConfigService.deleteMuteRule ext extensions req
  | .registerService req => AdminService.registerService ext extensions req
  | .updateService req => AdminService.updateService ext extensions req
  | .listServices req => AdminService.listServices ext extensions req
  | .disableService req => AdminService.disableService ext extensions req
  | .enableService req => AdminService.enableService ext extensions req
  | .setGlobalPolicy req => AdminService.setGlobalPolicy ext extensions req
  | .getGlobalPolicy => AdminService.getGlobalPolicy ext extensions
  | .resurfaceNotification req => AdminService.resurfaceNotification ext extensions req

/-- What runs: a gRPC call with the claims of its caller, one iteration of a processor, or one pass
of a scheduler loop. -/
inductive Call where
  | rpc (inst : ℕ) (extensions : Option AuthClaims) (r : Rpc)
  | processor (inst seq : ℕ)
  | snoozeWake
  | ttlExpiry
  | escalation

/-- Why a thread failed: the status a call is answered with, or the error a task logs. -/
inductive Failure where
  | status (s : Status)
  | error (e : String)

/-- What a thread ends with: the response of a gRPC call, nothing of a background task. -/
abbrev Outcome := Option (Σ r : Rpc, r.Resp)

/-- The program of a call. -/
def Call.body (ext : Ext) : Call → Program Failure Outcome
  | .rpc inst extensions r =>
    ((r.handle ext inst extensions).mapErr .status) >>= fun a => .ret (some ⟨r, a⟩)
  | .processor inst seq => ((processorRun ext inst seq).mapErr .error) >>= fun _ => .ret none
  | .snoozeWake => ((runSnoozeWake ext).mapErr .error) >>= fun _ => .ret none
  | .ttlExpiry => ((runTtlExpiry ext).mapErr .error) >>= fun _ => .ret none
  | .escalation => ((runEscalation ext).mapErr .error) >>= fun _ => .ret none

/-- The interleaving of all calls. -/
def system (ext : Ext) : System Call Op Op.Ans World Choice Failure Outcome where
  body := Call.body ext
  exec := exec ext

/-- A history of the system. -/
abbrev History := List (Event Call Op Op.Ans World Choice)

/-- A state of the system. -/
abbrev State := Pool Call Op Op.Ans World Failure Outcome

/-! ## A small world -/

namespace Sample

/-- Third-party functions that know the notification id `"3"`. -/
def ext : Ext where
  parseUuid s := if s = "3" then some 3 else none
  showUuid _ := "3"
  fromTimestamp seconds _ := some (seconds.toInt * 1000000)
  validatorFor _ := .ok fun _ => []
  floatText := id
  showDbError _ := "error"
  collationKey s := s

/-- The service `mail`. -/
def service : ServiceRow where
  id := 1
  slug := "mail"
  displayName := "Mail"
  description := none
  enabled := true
  createdAt := 0
  updatedAt := 0

/-- A type of `mail` that resurfaces at most once. -/
def notificationType : NotificationTypeRow where
  id := 2
  serviceId := 1
  typeKey := "letter"
  displayName := "Letter"
  description := none
  jsonSchema := .object []
  defaultTtlSeconds := none
  escalationIntervalSeconds := some 60
  maxEscalations := 1
  escalationAction := "resurface"
  defaultIcon := none
  enabled := true
  createdAt := 0
  updatedAt := 0

/-- The type of the message, as it is cached. -/
def cachedType : CachedNotificationType where
  id := 2
  serviceId := 1
  typeKey := "letter"
  jsonSchema := .object []
  defaultTtlSeconds := none
  escalationIntervalSeconds := some 60
  maxEscalations := 1
  escalationAction := "resurface"
  defaultIcon := none
  enabled := true

/-- A notification for `ann`, due for escalation at time 1. -/
def notification (state : String) : NotificationRow where
  id := 3
  serviceId := 1
  notificationTypeId := 2
  levelId := none
  recipientUserId := "ann"
  state := state
  payload := .object []
  groupKey := none
  idempotencyKey := some "key"
  metadata := .object []
  snoozedUntil := none
  expiresAt := none
  nextEscalationAt := some 1
  escalationCount := 0
  seenAt := none
  readAt := none
  actionUrl := none
  icon := none
  createdAt := 0
  updatedAt := 0

theorem check_unread : Relational.Schema.check (notification "unread") = true := rfl

/-- A database with these rows. -/
def db (notifications : Relational.Table NotificationRow) : Db :=
  { (default : Db) with
    services := .single service rfl
    notificationTypes := .single notificationType rfl
    notifications := notifications }

/-- A world with these rows and nothing else. -/
def world (notifications : Relational.Table NotificationRow) (stream : List Payload) : World where
  db := db notifications
  stream := stream
  acked := []
  published := []
  caches _ _ _ := none

/-- A message of `mail` with the id and the key of `notification`. -/
def message : IngestMessage where
  notificationId := 3
  serviceSlug := "mail"
  notificationType := "letter"
  recipientUserId := "ann"
  level := ""
  payload := .object []
  idempotencyKey := some "key"
  groupKey := none
  ttlSeconds := none
  metadata := []
  actionUrl := none
  icon := none

/-- Two messages of the same type. -/
def twice : World :=
  world .empty [.ok message, .ok { message with notificationId := 5, idempotencyKey := none }]

/-- Nothing fails at time 7, and Keto allows. -/
def choice : Choice where
  now := 7
  uuid := 9
  rank id := id.toNat
  failure := none
  unsent := none
  stored := false
  keto := .reply 200 (some (.object [("allowed", .bool true)]))
  evicted := false

/-- The claims of `ann`. -/
def ann : AuthClaims := ⟨"ann", []⟩

/-- Perform a schedule. -/
def played (w : World) (as : List (Action Call Choice)) : State × History :=
  ((system ext).perform (Pool.idle w) as).getD (Pool.idle w, [])

theorem perform_played {w : World} {as : List (Action Call Choice)}
    (possible : ((system ext).perform (Pool.idle w) as).isSome = true) :
    (system ext).perform (Pool.idle w) as = some (played w as) := by
  obtain ⟨⟨p, es⟩, h⟩ := Option.isSome_iff_exists.1 possible
  rw [played, h]
  rfl

theorem run_played {w : World} {as : List (Action Call Choice)}
    (possible : ((system ext).perform (Pool.idle w) as).isSome = true) :
    (system ext).Run (Pool.idle w) (played w as).2 (played w as).1 :=
  System.run_of_perform (perform_played possible)

/-- Perform a schedule from a state that has been reached. -/
def resumed (p : State) (as : List (Action Call Choice)) : State × History :=
  ((system ext).perform p as).getD (p, [])

theorem run_resumed {p : State} {as : List (Action Call Choice)}
    (possible : ((system ext).perform p as).isSome = true) :
    (system ext).Run p (resumed p as).2 (resumed p as).1 := by
  obtain ⟨⟨q, es⟩, h⟩ := Option.isSome_iff_exists.1 possible
  apply System.run_of_perform
  rw [resumed, h]
  rfl

theorem played_other {w : World} {as : List (Action Call Choice)} {i : ℕ}
    (other : ∀ a ∈ as, a.tid ≠ i) : (played w as).1.threads i = none := by
  rw [played]
  rcases h : (system ext).perform (Pool.idle w) as with _ | ⟨p, es⟩
  · rfl
  · exact System.perform_other h other

end Sample

end Estafeta
