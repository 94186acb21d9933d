import Estafeta.World

/-!
# Preference resolution

The effective configuration of one notification, as in `processing/preference_resolver.rs`:
service and type defaults, narrowed by the user's global toggle, mute rules, service preference and
type preference.
-/

namespace Estafeta

/-- The resolved configuration for a single notification. -/
structure ResolvedConfig where
  shouldDeliver : Bool
  ttlSeconds : Option Int32
  escalationIntervalSeconds : Option Int32
  maxEscalations : Int32
  /-- If not delivered, the reason (for logging/audit). -/
  skipReason : Option String

/-- A notification that is not delivered, for a reason. -/
def ResolvedConfig.skipped (notifType : CachedNotificationType) (reason : String) :
    ResolvedConfig where
  shouldDeliver := false
  ttlSeconds := notifType.defaultTtlSeconds
  escalationIntervalSeconds := notifType.escalationIntervalSeconds
  maxEscalations := notifType.maxEscalations
  skipReason := some reason

/-- A notification that is delivered. -/
def ResolvedConfig.delivered (notifType : CachedNotificationType) : ResolvedConfig where
  shouldDeliver := true
  ttlSeconds := notifType.defaultTtlSeconds
  escalationIntervalSeconds := notifType.escalationIntervalSeconds
  maxEscalations := notifType.maxEscalations
  skipReason := none

/-- Whether an active rule covers the service and the type of a notification. -/
def CachedMuteRule.mutes (rule : CachedMuteRule) (notifType : CachedNotificationType)
    (now : Time) : Bool :=
  (rule.serviceId.isNone || rule.serviceId = some notifType.serviceId) &&
    (rule.notificationTypeId.isNone || rule.notificationTypeId = some notifType.id) &&
    (rule.mutedUntil.isNone || rule.mutedUntil.any fun t => now < t)

/-- Why the preference for the notification's service skips it. -/
def servicePrefSkips (sp : CachedServicePref) (levelSeverity : Option Int32) : Option String :=
  if !sp.enabled then some "service disabled by user preference"
  else
    match sp.minSeverity, levelSeverity with
    | some minSev, some levelSev =>
      if levelSev < minSev then
        some s!"level severity {levelSev} below user threshold {minSev}"
      else none
    | _, _ => none

/-- Resolve the effective config by applying the preference hierarchy. -/
def resolve (now : Time) (userPrefs : CachedUserPrefs) (notifType : CachedNotificationType)
    (levelSeverity : Option Int32) : ResolvedConfig :=
  -- 1. Global user toggle
  if !userPrefs.globalEnabled then
    .skipped notifType "user has notifications globally disabled"
  -- 2. Mute rules
  else if userPrefs.muteRules.any fun rule => rule.mutes notifType now then
    .skipped notifType "muted by user rule"
  else
    -- 3. Service-level preference
    match (userPrefs.servicePrefs.find? fun p => p.serviceId = notifType.serviceId).bind
        fun sp => servicePrefSkips sp levelSeverity with
    | some reason => .skipped notifType reason
    | none =>
      -- 4. Type-level preference
      match userPrefs.typePrefs.find? fun p => p.notificationTypeId = notifType.id with
      | some tp =>
        if !tp.enabled then .skipped notifType "notification type disabled by user preference"
        else .delivered notifType
      | none => .delivered notifType

end Estafeta
