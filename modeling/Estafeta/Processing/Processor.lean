import Estafeta.Processing.PreferenceResolver

/-!
# The notification processor

One iteration of the loop of `processing/processor.rs`: a message of the ingest stream is resolved
against the registry and the recipient's preferences, persisted, announced and acknowledged. The
processor runs on the instance `inst`, whose caches it uses.
-/

open Atomic

namespace Estafeta

variable (ext : Ext) (inst : ℕ)

/-- What is cached of a notification type. -/
def cachedNotificationType (nt : NotificationTypeRow) : CachedNotificationType where
  id := nt.id
  serviceId := nt.serviceId
  typeKey := nt.typeKey
  jsonSchema := nt.jsonSchema
  defaultTtlSeconds := nt.defaultTtlSeconds
  escalationIntervalSeconds := nt.escalationIntervalSeconds
  maxEscalations := nt.maxEscalations
  escalationAction := nt.escalationAction
  defaultIcon := nt.defaultIcon
  enabled := nt.enabled

def getOrLoadNotifType (cacheKey serviceSlug typeKey : String) :
    Program String CachedNotificationType := do
  match ← perform (.cacheGet inst .notificationTypes cacheKey) with
  | some cached => return cached
  | none =>
    let service : ServiceRow ← Prog.okOr s!"unknown service: {serviceSlug}"
      (← ext.run (.services (.getServiceBySlug serviceSlug)))
    let nt : NotificationTypeRow ←
      Prog.okOr s!"unknown notification type: {serviceSlug}/{typeKey}"
        (← ext.run (.schemas (.getNotificationType service.id typeKey)))
    let cached := cachedNotificationType nt
    perform (.cacheInsert inst .notificationTypes cacheKey cached)
    return cached

/-- What is cached of a notification level. -/
def cachedNotificationLevel (level : NotificationLevelRow) : CachedNotificationLevel where
  id := level.id
  key := level.key
  severity := level.severity

def getOrLoadLevel (cacheKey serviceSlug levelKey : String) :
    Program String (Option CachedNotificationLevel) := do
  match ← perform (.cacheGet inst .notificationLevels cacheKey) with
  | some cached => return some cached
  | none =>
    let service : ServiceRow ← Prog.okOr s!"unknown service: {serviceSlug}"
      (← ext.run (.services (.getServiceBySlug serviceSlug)))
    let level : Option NotificationLevelRow ←
      ext.run (.schemas (.getNotificationLevel service.id levelKey))
    match level with
    | some level =>
      let cached := cachedNotificationLevel level
      perform (.cacheInsert inst .notificationLevels cacheKey cached)
      return some cached
    | none => return none

/-- What is cached of a service preference. -/
def cachedServicePref (sp : UserServicePreferenceRow) : CachedServicePref where
  serviceId := sp.serviceId
  enabled := sp.enabled
  minSeverity := sp.minSeverity

/-- What is cached of a type preference. -/
def cachedTypePref (tp : UserTypePreferenceRow) : CachedTypePref where
  notificationTypeId := tp.notificationTypeId
  enabled := tp.enabled

/-- What is cached of a mute rule. -/
def cachedMuteRule (mr : MuteRuleRow) : CachedMuteRule where
  serviceId := mr.serviceId
  notificationTypeId := mr.notificationTypeId
  mutedUntil := mr.mutedUntil

def getOrLoadUserPrefs (userId : String) : Program String CachedUserPrefs := do
  match ← perform (.cacheGet inst .userPrefs userId) with
  | some cached => return cached
  | none =>
    let pref ← ext.run (.preferences (.getOrCreateUserPreference userId))
    let svcPrefs ← ext.run (.preferences (.listServicePreferences userId))
    let typePrefs ← ext.run (.preferences (.listTypePreferences userId))
    let muteRules ← ext.run (.muteRules (.listActiveMuteRules userId))
    let cached : CachedUserPrefs :=
      { globalEnabled := pref.globalEnabled
        servicePrefs := svcPrefs.map cachedServicePref
        typePrefs := typePrefs.map cachedTypePref
        muteRules := muteRules.map cachedMuteRule }
    perform (.cacheInsert inst .userPrefs userId cached)
    return cached

/-- The level of a message, if it names one. -/
def levelOf (ingest : IngestMessage) : Program String (Option CachedNotificationLevel) :=
  if !ingest.level.isEmpty then
    getOrLoadLevel ext inst (notificationLevelKey ingest.serviceSlug ingest.level)
      ingest.serviceSlug ingest.level
  else return none

/-- The JSON object of a message's metadata. -/
def metadataToValue (metadata : List (String × String)) : Json :=
  .object (metadata.map fun (k, v) => (k, .string v))

/-- The state in which a notification is stored: unseen if it is delivered, archived otherwise. -/
def ResolvedConfig.state (config : ResolvedConfig) : String :=
  if config.shouldDeliver then "unseen" else "archived"

/-- Announce a notification that has been stored. -/
def newNotificationEvent (ingest : IngestMessage) (icon : Option String)
    (notification : NotificationRow) : RealtimeEvent where
  eventType := .newNotification
  notificationId := notification.id
  serviceSlug := ingest.serviceSlug
  notificationType := ingest.notificationType
  level := some ingest.level
  payload := some ingest.payload
  groupKey := ingest.groupKey
  metadata := some ingest.metadata
  oldState := none
  newState := none
  unseenCount := none
  actionUrl := ingest.actionUrl
  icon := icon

/-- Publish a real-time event to NATS Core (non-JetStream) for connected clients; a failure only
affects real-time streaming and is not passed on. -/
def publishRealtime (userId : String) (event : RealtimeEvent) : Program String Unit := do
  let _ ← perform (.publish s!"rt.user.{userId}" event)

/-- The row that is stored for a message. -/
def notificationOf (ingest : IngestMessage) (notifType : CachedNotificationType)
    (levelId : Option Uuid) (config : ResolvedConfig) (expiresAt nextEscalationAt : Option Time) :
    Db.Notifications.InsertNotification where
  id := ingest.notificationId
  serviceId := notifType.serviceId
  notificationTypeId := notifType.id
  levelId := levelId
  recipientUserId := ingest.recipientUserId
  state := config.state
  payload := ingest.payload
  groupKey := ingest.groupKey
  idempotencyKey := ingest.idempotencyKey
  metadata := metadataToValue ingest.metadata
  expiresAt := expiresAt
  nextEscalationAt := nextEscalationAt
  actionUrl := ingest.actionUrl
  -- per-notification icon takes precedence over type default
  icon := ingest.icon.or notifType.defaultIcon

/-- When a notification expires. -/
def expiresAtOf (config : ResolvedConfig) : Program String (Option Time) :=
  match config.ttlSeconds with
  | some ttl => some <$> fromNow ttl
  | none => pure none

/-- When a notification is first due for escalation. -/
def nextEscalationAtOf (config : ResolvedConfig) : Program String (Option Time) :=
  match config.escalationIntervalSeconds with
  | some interval => if config.maxEscalations > 0 then some <$> fromNow interval else pure none
  | none => pure none

/-- The second half of `processMessage`: persist a message whose configuration is resolved. -/
def persist (ingest : IngestMessage) (notifType : CachedNotificationType) (levelId : Option Uuid)
    (config : ResolvedConfig) : Program String Unit := do
  let expiresAt ← expiresAtOf config
  let nextEscalationAt ← nextEscalationAtOf config
  let notification ← ext.run (.notifications (.insertNotification
    (notificationOf ingest notifType levelId config expiresAt nextEscalationAt)))
  if config.shouldDeliver then
    publishRealtime ingest.recipientUserId
      (newNotificationEvent ingest (ingest.icon.or notifType.defaultIcon) notification)

/-- Process the payload of a message. -/
def processMessage (payload : Payload) : Program String Unit := do
  let ingest ← Prog.ofExcept payload
  let notifType ← getOrLoadNotifType ext inst
    (notificationTypeKey ingest.serviceSlug ingest.notificationType) ingest.serviceSlug
    ingest.notificationType
  -- the source loads the level twice, for its severity and for its id
  let levelSeverity := (← levelOf ext inst ingest).map (·.severity)
  let levelId := (← levelOf ext inst ingest).map (·.id)
  let userPrefs ← getOrLoadUserPrefs ext inst ingest.recipientUserId
  -- the clock that `resolve` reads
  let now ← utcNow
  persist ext ingest notifType levelId (resolve now userPrefs notifType levelSeverity)

/-- Acknowledge a message that was processed and hand back one that was not. A failure to do so is
only logged. -/
def settle (seq : ℕ) (result : Except String Unit) : Program String Unit := do
  match result with
  | .error _ => let _ ← perform (.nak seq)
  | .ok () => let _ ← perform (.ack seq)

/-- One iteration of `Processor::run`, on the message with sequence number `seq`. -/
def processorRun (seq : ℕ) : Program String Unit := do
  match ← perform (.receive seq) with
  | none => return ()
  | some payload => settle seq (← (processMessage ext inst payload).attempt)

end Estafeta
