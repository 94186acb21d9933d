import Estafeta.Phases

/-!
# What the handlers do

Every handler of the four services obeys the monitor of handlers (`handle_obeys`).
-/

open Atomic

namespace Estafeta

namespace Rpc

/-! ### Rules for the parts of a handler -/

section Rules

variable {ext : Ext} {extensions : Option AuthClaims} {r : Rpc} {granted : Option CheckRequest}
  {c : AuthClaims} {α : Type} {q : Sql}

theorem claims {Q : Phase → AuthClaims → Prop}
    (returns : ∀ c, extensions = some c → Q (.rpc granted) c) :
    (AuthClaims.fromExtensions extensions).Obeys (r.monitor extensions) Handling Q
      (.rpc granted) := by
  simpa [AuthClaims.fromExtensions] using returns

theorem found {Q : Phase → α → Prop} {e : Status} {o : Option α}
    (returns : ∀ a, o = some a → Q (.rpc granted) a) :
    (Prog.okOr e o : Program Status α).Obeys (r.monitor extensions) Handling Q (.rpc granted) := by
  simpa using returns

theorem parsed {Q : Phase → α → Prop} {x : Except Status α}
    (returns : ∀ a, x = .ok a → Q (.rpc granted) a) :
    (Prog.ofExcept x : Program Status α).Obeys (r.monitor extensions) Handling Q
      (.rpc granted) := by
  simpa using returns

theorem ensured {Q : Phase → Unit → Prop} {e : Status} {b : Bool}
    (returns : b = true → Q (.rpc granted) ()) :
    (Prog.ensure b e : Program Status Unit).Obeys (r.monitor extensions) Handling Q
      (.rpc granted) := by
  simpa using returns

theorem queried {Q : Phase → q.Resp → Prop} (permitted : r.may extensions granted (.sql q))
    (returns : ∀ a, Q (.rpc (if q.reads then granted else none)) a) :
    (ext.query q).Obeys (r.monitor extensions) Handling Q (.rpc granted) :=
  (obeys_query ext q).2 ⟨permitted, fun _ => handling_rpc _ _, returns⟩

theorem registry_reads (h : q.registry = true) : q.reads = true := by
  unfold Sql.registry at h
  split at h
  · rfl
  · rfl
  · cases h

theorem registry {Q : Phase → q.Resp → Prop} (h : q.registry = true)
    (returns : ∀ a, Q (.rpc granted) a) :
    (ext.query q).Obeys (r.monitor extensions) Handling Q (.rpc granted) :=
  queried (.inl ⟨q, rfl, h⟩) (by simpa only [registry_reads h, if_true] using returns)

/-- A personal request may read and change its subject's own rows at any time. -/
theorem own {Q : Phase → q.Resp → Prop} (mine : r.personal = true)
    (subject : extensions = some c) (h : q.owner = some c.subject)
    (returns : ∀ granted a, Q (.rpc granted) a) :
    (ext.query q).Obeys (r.monitor extensions) Handling Q (.rpc granted) :=
  queried (.inr (.inl ⟨mine, q, c, rfl, subject, h⟩)) fun a => returns _ a

theorem read {Q : Phase → q.Resp → Prop} (other : r.personal = false) (h : q.reads = true)
    (returns : ∀ a, Q (.rpc granted) a) :
    (ext.query q).Obeys (r.monitor extensions) Handling Q (.rpc granted) :=
  queried (.inr (.inr ⟨other, .inl ⟨q, rfl, h⟩⟩)) (by simpa only [h, if_true] using returns)

theorem privileged {Q : Phase → q.Resp → Prop} (other : r.personal = false)
    (subject : extensions = some c) {check : CheckRequest}
    (h : Privileged c.subject r (.sql q) check) (returns : ∀ granted a, Q (.rpc granted) a) :
    (ext.query q).Obeys (r.monitor extensions) Handling Q (.rpc (some check)) :=
  queried (.inr (.inr ⟨other, .inr (.inr (.inr (.inr ⟨c, check, subject, h, rfl⟩)))⟩))
    fun a => returns _ a

theorem checked {Q : Phase → Bool → Prop} (other : r.personal = false)
    {object relation subjectId : String}
    (refuses : ∀ granted, Q (.rpc granted) false)
    (allows : Q (.rpc (some ⟨"estafeta", object, relation, subjectId⟩)) true) :
    (Keto.check object relation subjectId).Obeys (r.monitor extensions) Handling Q
      (.rpc granted) := by
  refine ⟨.inr (.inr ⟨other, .inr (.inr (.inr (.inl ⟨_, rfl⟩)))⟩), fun reply => ?_⟩
  simp only [Prog.obeys_ofExcept, monitor, next]
  refine ⟨fun _ _ => handling_rpc _ _, fun b hb => ?_⟩
  cases b with
  | false => exact refuses _
  | true => simpa only [hb] using allows

theorem requireAdmin {Q : Phase → Unit → Prop} (other : r.personal = false) {subject : String}
    (returns : Q (.rpc (some (adminCheck subject))) ()) :
    (Keto.requireAdmin subject).Obeys (r.monitor extensions) Handling Q (.rpc granted) := by
  rw [Keto.requireAdmin, Prog.obeys_bind]
  exact checked other (fun _ => ensured fun h => by cases h) (ensured fun _ => returns)

theorem requireServiceSend {Q : Phase → Unit → Prop} (other : r.personal = false)
    {serviceSlug subject : String} (returns : Q (.rpc (some (sendCheck serviceSlug subject))) ()) :
    (Keto.requireServiceSend serviceSlug subject).Obeys (r.monitor extensions) Handling Q
      (.rpc granted) := by
  rw [Keto.requireServiceSend, Prog.obeys_bind]
  exact checked other (fun _ => ensured fun h => by cases h) (ensured fun _ => returns)

theorem published {Q : Phase → Unit → Prop} (other : r.personal = false)
    (subject : extensions = some c) {serviceSlug : String} {msg : IngestMessage}
    (same : msg.serviceSlug = serviceSlug) (returns : ∀ granted, Q (.rpc granted) ()) :
    ((NotificationService.publishIngest serviceSlug msg).mapErr fun e =>
        Status.internal s!"failed to publish: {e}").Obeys (r.monitor extensions) Handling Q
      (.rpc (some (sendCheck serviceSlug c.subject))) := by
  subst same
  simp only [NotificationService.publishIngest, Prog.obeys_mapErr, Prog.obeys_call,
    Prog.obeys_ofExcept]
  refine ⟨.inr (.inr ⟨other, .inr (.inr (.inr (.inr ⟨c, _, subject, .publish, rfl⟩)))⟩),
    fun a => ⟨fun _ _ => handling_rpc _ _, fun _ _ => returns _⟩⟩

theorem identified {Q : Phase → Uuid → Prop} (other : r.personal = false)
    (returns : ∀ id, Q (.rpc granted) id) :
    (newUuid : Program Status Uuid).Obeys (r.monitor extensions) Handling Q (.rpc granted) :=
  ⟨.inr (.inr ⟨other, .inr (.inl rfl)⟩), returns⟩

theorem invalidated {Q : Phase → Unit → Prop} (other : r.personal = false) {inst : ℕ}
    {cache : Cache} {key : String} (returns : Q (.rpc granted) ()) :
    (perform (.cacheInvalidate inst cache key) : Program Status Unit).Obeys (r.monitor extensions)
      Handling Q (.rpc granted) :=
  ⟨.inr (.inr ⟨other, .inr (.inr (.inl ⟨inst, cache, key, rfl⟩))⟩), fun _ => returns⟩

end Rules

/-! ### Notification service -/

section Handlers

variable (ext : Ext) (inst : ℕ) (extensions : Option AuthClaims)

theorem sendNotification_obeys {r : Rpc} (other : r.personal = false)
    (req : SendNotificationRequest) (granted : Option CheckRequest) :
    (NotificationService.sendNotification ext extensions req).Obeys (r.monitor extensions)
      Handling Handling (.rpc granted) := by
  simp only [NotificationService.sendNotification, Prog.obeys_bind]
  refine claims fun c subject => requireServiceSend other ?_
  refine registry rfl fun service => found fun service _ => ensured fun _ => ?_
  refine registry rfl fun type => found fun type _ => ensured fun _ => ?_
  split
  next => exact handling_rpc _ _
  next =>
    simp only [Prog.obeys_bind]
    exact identified other fun id => published other subject rfl fun _ => handling_rpc _ _

theorem sendNotificationBatch_obeys (req : SendNotificationBatchRequest) :
    (NotificationService.sendNotificationBatch ext extensions req).Obeys
      ((sendNotificationBatch req).monitor extensions) Handling Handling (.rpc none) := by
  simp only [NotificationService.sendNotificationBatch, Prog.obeys_bind]
  refine claims fun c subject => ?_
  subst subject
  -- each item asks Keto anew, so that any phase of the handler will do between items
  refine Prog.obeys_foldlM (fun _ _ s => ∃ granted, s = .rpc granted) _ _ ?_ ?_ ⟨none, rfl⟩
  · rintro item _ acc _ ⟨granted, rfl⟩
    rw [NotificationService.sendBatchItem, Prog.obeys_bind, Prog.obeys_attempt]
    refine (sendNotification_obeys ext (some c) rfl item granted).mono ?_ ?_
    · rintro _ _ ⟨g, rfl⟩
      exact ⟨g, rfl⟩
    · rintro _ _ ⟨g, rfl⟩
      exact ⟨g, rfl⟩
  · rintro acc _ ⟨granted, rfl⟩
    exact handling_rpc _ _

theorem serviceIds_obeys {r : Rpc} {Q : Phase → List Uuid → Prop} (slugs : List String)
    (granted : Option CheckRequest) (returns : ∀ ids, Q (.rpc granted) ids) :
    (NotificationService.serviceIds ext slugs).Obeys (r.monitor extensions) Handling Q
      (.rpc granted) := by
  refine Prog.obeys_foldlM (fun _ _ s => s = .rpc granted) _ _ ?_ ?_ rfl
  · rintro slug _ ids _ rfl
    rw [Prog.obeys_bind]
    refine registry rfl fun svc => ?_
    split <;> rfl
  · rintro ids _ rfl
    exact returns ids

theorem getNotification_obeys (req : GetNotificationRequest) :
    (NotificationService.getNotification ext extensions req).Obeys
      ((getNotification req).monitor extensions) Handling Handling (.rpc none) := by
  simp only [NotificationService.getNotification, Prog.obeys_bind]
  refine claims fun c _ => found fun id _ => ?_
  refine read rfl rfl fun row => found fun row _ => ensured fun _ => ?_
  exact handling_rpc _ _

theorem listNotifications_obeys (req : ListNotificationsRequest) :
    (NotificationService.listNotifications ext extensions req).Obeys
      ((listNotifications req).monitor extensions) Handling Handling (.rpc none) := by
  simp only [NotificationService.listNotifications, Prog.obeys_bind]
  refine claims fun c subject => serviceIds_obeys ext extensions _ _ fun ids => ?_
  exact own rfl subject rfl fun _ _ => handling_rpc _ _

theorem markSeen_obeys (req : MarkSeenRequest) :
    (NotificationService.markSeen ext extensions req).Obeys
      ((markSeen req).monitor extensions) Handling Handling (.rpc none) := by
  simp only [NotificationService.markSeen, Prog.obeys_bind]
  refine claims fun c subject => ?_
  split
  next =>
    rw [Prog.obeys_bind]
    exact own rfl subject rfl fun _ _ => handling_rpc _ _
  next =>
    simp only [Prog.obeys_bind]
    exact parsed fun ids _ => own rfl subject rfl fun _ _ => handling_rpc _ _

theorem markRead_obeys (req : MarkReadRequest) :
    (NotificationService.markRead ext extensions req).Obeys
      ((markRead req).monitor extensions) Handling Handling (.rpc none) := by
  simp only [NotificationService.markRead, Prog.obeys_bind]
  exact claims fun c subject => parsed fun ids _ => own rfl subject rfl fun _ _ => handling_rpc _ _

theorem markUnread_obeys (req : MarkUnreadRequest) :
    (NotificationService.markUnread ext extensions req).Obeys
      ((markUnread req).monitor extensions) Handling Handling (.rpc none) := by
  simp only [NotificationService.markUnread, Prog.obeys_bind]
  exact claims fun c subject => parsed fun ids _ => own rfl subject rfl fun _ _ => handling_rpc _ _

theorem snooze_obeys (req : SnoozeRequest) :
    (NotificationService.snooze ext extensions req).Obeys
      ((snooze req).monitor extensions) Handling Handling (.rpc none) := by
  simp only [NotificationService.snooze, Prog.obeys_bind]
  refine claims fun c subject => found fun id _ => found fun t _ => found fun dt _ => ?_
  exact own rfl subject rfl fun _ _ => handling_rpc _ _

theorem archive_obeys (req : ArchiveRequest) :
    (NotificationService.archive ext extensions req).Obeys
      ((archive req).monitor extensions) Handling Handling (.rpc none) := by
  simp only [NotificationService.archive, Prog.obeys_bind]
  exact claims fun c subject => parsed fun ids _ => own rfl subject rfl fun _ _ => handling_rpc _ _

theorem unarchive_obeys (req : UnarchiveRequest) :
    (NotificationService.unarchive ext extensions req).Obeys
      ((unarchive req).monitor extensions) Handling Handling (.rpc none) := by
  simp only [NotificationService.unarchive, Prog.obeys_bind]
  exact claims fun c subject => parsed fun ids _ => own rfl subject rfl fun _ _ => handling_rpc _ _

theorem archiveAllInGroup_obeys (req : ArchiveAllInGroupRequest) :
    (NotificationService.archiveAllInGroup ext extensions req).Obeys
      ((archiveAllInGroup req).monitor extensions) Handling Handling (.rpc none) := by
  simp only [NotificationService.archiveAllInGroup, Prog.obeys_bind]
  refine claims fun c subject => registry rfl fun service => found fun service _ => ?_
  exact own rfl subject rfl fun _ _ => handling_rpc _ _

theorem producerMarkRead_obeys (req : ProducerMarkReadRequest) :
    (NotificationService.producerMarkRead ext extensions req).Obeys
      ((producerMarkRead req).monitor extensions) Handling Handling (.rpc none) := by
  simp only [NotificationService.producerMarkRead, Prog.obeys_bind]
  refine claims fun c subject => requireServiceSend rfl ?_
  exact parsed fun ids _ => privileged rfl subject .producer fun _ _ => handling_rpc _ _

theorem getUnseenCount_obeys (req : GetUnseenCountRequest) :
    (NotificationService.getUnseenCount ext extensions req).Obeys
      ((getUnseenCount req).monitor extensions) Handling Handling (.rpc none) := by
  simp only [NotificationService.getUnseenCount, Prog.obeys_bind]
  refine claims fun c subject => serviceIds_obeys ext extensions _ _ fun ids => ?_
  exact own rfl subject rfl fun _ _ => own rfl subject rfl fun _ _ => handling_rpc _ _

theorem getUnreadCount_obeys (req : GetUnreadCountRequest) :
    (NotificationService.getUnreadCount ext extensions req).Obeys
      ((getUnreadCount req).monitor extensions) Handling Handling (.rpc none) := by
  simp only [NotificationService.getUnreadCount, Prog.obeys_bind]
  refine claims fun c subject => serviceIds_obeys ext extensions _ _ fun ids => ?_
  exact own rfl subject rfl fun _ _ => own rfl subject rfl fun _ _ => handling_rpc _ _

/-! ### Schema registry service -/

theorem serviceBySlug_obeys {r : Rpc} {Q : Phase → ServiceRow → Prop} {slug : String}
    {granted : Option CheckRequest} (returns : ∀ service, Q (.rpc granted) service) :
    (SchemaRegistryService.serviceBySlug ext slug).Obeys (r.monitor extensions) Handling Q
      (.rpc granted) := by
  rw [SchemaRegistryService.serviceBySlug, Prog.obeys_bind]
  exact registry rfl fun _ => found fun service _ => returns service

theorem registerType_obeys (req : RegisterTypeRequest) :
    (SchemaRegistryService.registerType ext inst extensions req).Obeys
      ((registerType req).monitor extensions) Handling Handling (.rpc none) := by
  simp only [SchemaRegistryService.registerType, Prog.obeys_bind]
  refine claims fun c subject => requireAdmin rfl ?_
  refine registry rfl fun service => found fun service _ => ensured fun _ => ?_
  exact privileged rfl subject (.admin rfl) fun _ _ => invalidated rfl (handling_rpc _ _)

theorem updateType_obeys (req : UpdateTypeRequest) :
    (SchemaRegistryService.updateType ext inst extensions req).Obeys
      ((updateType req).monitor extensions) Handling Handling (.rpc none) := by
  simp only [SchemaRegistryService.updateType, Prog.obeys_bind]
  refine claims fun c subject => requireAdmin rfl ?_
  refine serviceBySlug_obeys ext extensions fun service => ?_
  exact privileged rfl subject (.admin rfl) fun _ _ => invalidated rfl (handling_rpc _ _)

theorem getType_obeys (req : GetTypeRequest) :
    (SchemaRegistryService.getType ext req).Obeys ((getType req).monitor extensions) Handling
      Handling (.rpc none) := by
  simp only [SchemaRegistryService.getType, Prog.obeys_bind]
  refine serviceBySlug_obeys ext extensions fun service => ?_
  exact registry rfl fun _ => found fun _ _ => handling_rpc _ _

theorem listTypes_obeys (req : ListTypesRequest) :
    (SchemaRegistryService.listTypes ext req).Obeys ((listTypes req).monitor extensions) Handling
      Handling (.rpc none) := by
  simp only [SchemaRegistryService.listTypes, Prog.obeys_bind]
  refine serviceBySlug_obeys ext extensions fun service => ?_
  exact read rfl rfl fun _ => handling_rpc _ _

theorem registerLevel_obeys (req : RegisterLevelRequest) :
    (SchemaRegistryService.registerLevel ext extensions req).Obeys
      ((registerLevel req).monitor extensions) Handling Handling (.rpc none) := by
  simp only [SchemaRegistryService.registerLevel, Prog.obeys_bind]
  refine claims fun c subject => requireAdmin rfl ?_
  refine serviceBySlug_obeys ext extensions fun service => ?_
  exact privileged rfl subject (.admin rfl) fun _ _ => handling_rpc _ _

theorem updateLevel_obeys (req : UpdateLevelRequest) :
    (SchemaRegistryService.updateLevel ext extensions req).Obeys
      ((updateLevel req).monitor extensions) Handling Handling (.rpc none) := by
  simp only [SchemaRegistryService.updateLevel, Prog.obeys_bind]
  refine claims fun c subject => requireAdmin rfl ?_
  refine serviceBySlug_obeys ext extensions fun service => ?_
  exact privileged rfl subject (.admin rfl) fun _ _ => handling_rpc _ _

theorem listLevels_obeys (req : ListLevelsRequest) :
    (SchemaRegistryService.listLevels ext req).Obeys ((listLevels req).monitor extensions) Handling
      Handling (.rpc none) := by
  simp only [SchemaRegistryService.listLevels, Prog.obeys_bind]
  refine serviceBySlug_obeys ext extensions fun service => ?_
  exact read rfl rfl fun _ => handling_rpc _ _

theorem validatePayload_obeys (req : ValidatePayloadRequest) :
    (SchemaRegistryService.validatePayload ext req).Obeys
      ((validatePayload req).monitor extensions) Handling Handling (.rpc none) := by
  simp only [SchemaRegistryService.validatePayload, Prog.obeys_bind]
  refine serviceBySlug_obeys ext extensions fun service => ?_
  refine registry rfl fun _ => found fun _ _ => ?_
  split <;> exact handling_rpc _ _

/-! ### User config service -/

theorem typeByKey_obeys {r : Rpc} {Q : Phase → NotificationTypeRow → Prop} {serviceId : Uuid}
    {typeKey : String} {granted : Option CheckRequest} (returns : ∀ nt, Q (.rpc granted) nt) :
    (UserConfigService.typeByKey ext serviceId typeKey).Obeys (r.monitor extensions) Handling Q
      (.rpc granted) := by
  rw [UserConfigService.typeByKey, Prog.obeys_bind]
  exact registry rfl fun _ => found fun nt _ => returns nt

theorem getPreferences_obeys :
    (UserConfigService.getPreferences ext extensions).Obeys (getPreferences.monitor extensions)
      Handling Handling (.rpc none) := by
  simp only [UserConfigService.getPreferences, Prog.obeys_bind]
  refine claims fun c subject => own rfl subject rfl fun _ _ => ?_
  exact own rfl subject rfl fun _ _ => own rfl subject rfl fun _ _ => handling_rpc _ _

theorem updatePreferences_obeys (req : UpdatePreferencesRequest) :
    (UserConfigService.updatePreferences ext extensions req).Obeys
      ((updatePreferences req).monitor extensions) Handling Handling (.rpc none) := by
  simp only [UserConfigService.updatePreferences, Prog.obeys_bind]
  exact claims fun c subject => own rfl subject rfl fun _ _ => handling_rpc _ _

theorem setServicePreference_obeys (req : SetServicePreferenceRequest) :
    (UserConfigService.setServicePreference ext extensions req).Obeys
      ((setServicePreference req).monitor extensions) Handling Handling (.rpc none) := by
  simp only [UserConfigService.setServicePreference, Prog.obeys_bind]
  refine claims fun c subject => serviceBySlug_obeys ext extensions fun service => ?_
  exact own rfl subject rfl fun _ _ => handling_rpc _ _

theorem deleteServicePreference_obeys (req : DeleteServicePreferenceRequest) :
    (UserConfigService.deleteServicePreference ext extensions req).Obeys
      ((deleteServicePreference req).monitor extensions) Handling Handling (.rpc none) := by
  simp only [UserConfigService.deleteServicePreference, Prog.obeys_bind]
  refine claims fun c subject => serviceBySlug_obeys ext extensions fun service => ?_
  exact own rfl subject rfl fun _ _ => handling_rpc _ _

theorem setTypePreference_obeys (req : SetTypePreferenceRequest) :
    (UserConfigService.setTypePreference ext extensions req).Obeys
      ((setTypePreference req).monitor extensions) Handling Handling (.rpc none) := by
  simp only [UserConfigService.setTypePreference, Prog.obeys_bind]
  refine claims fun c subject => serviceBySlug_obeys ext extensions fun service => ?_
  refine typeByKey_obeys ext extensions fun nt => ?_
  exact own rfl subject rfl fun _ _ => handling_rpc _ _

theorem deleteTypePreference_obeys (req : DeleteTypePreferenceRequest) :
    (UserConfigService.deleteTypePreference ext extensions req).Obeys
      ((deleteTypePreference req).monitor extensions) Handling Handling (.rpc none) := by
  simp only [UserConfigService.deleteTypePreference, Prog.obeys_bind]
  refine claims fun c subject => serviceBySlug_obeys ext extensions fun service => ?_
  refine typeByKey_obeys ext extensions fun nt => ?_
  exact own rfl subject rfl fun _ _ => handling_rpc _ _

theorem listMuteRules_obeys :
    (UserConfigService.listMuteRules ext extensions).Obeys (listMuteRules.monitor extensions)
      Handling Handling (.rpc none) := by
  simp only [UserConfigService.listMuteRules, Prog.obeys_bind]
  exact claims fun c subject => own rfl subject rfl fun _ _ => handling_rpc _ _

theorem createMuteRule_obeys (req : CreateMuteRuleRequest) :
    (UserConfigService.createMuteRule ext extensions req).Obeys
      ((createMuteRule req).monitor extensions) Handling Handling (.rpc none) := by
  simp only [UserConfigService.createMuteRule, Prog.obeys_bind]
  refine claims fun c subject => ?_
  have types : ∀ serviceId granted,
      (UserConfigService.muteType ext serviceId req.notificationType).Obeys
        ((createMuteRule req).monitor extensions) Handling
        (fun s _ => s = .rpc granted) (.rpc granted) := by
    intro serviceId granted
    unfold UserConfigService.muteType
    split
    next serviceId =>
      split
      · rw [Prog.obeys_bind]
        exact typeByKey_obeys ext extensions fun nt => rfl
      · rfl
    next => rfl
  have services : (UserConfigService.muteService ext req.serviceSlug).Obeys
      ((createMuteRule req).monitor extensions) Handling (fun s _ => s = .rpc none) (.rpc none) := by
    unfold UserConfigService.muteService
    split
    · rw [Prog.obeys_bind]
      exact serviceBySlug_obeys ext extensions fun service => rfl
    · rfl
  refine services.mono (fun _ _ h => h) ?_
  rintro _ serviceId rfl
  refine (types serviceId none).mono (fun _ _ h => h) ?_
  rintro _ typeId rfl
  exact own rfl subject rfl fun _ _ => handling_rpc _ _

theorem deleteMuteRule_obeys (req : DeleteMuteRuleRequest) :
    (UserConfigService.deleteMuteRule ext extensions req).Obeys
      ((deleteMuteRule req).monitor extensions) Handling Handling (.rpc none) := by
  simp only [UserConfigService.deleteMuteRule, Prog.obeys_bind]
  refine claims fun c subject => found fun id _ => own rfl subject rfl fun _ _ => ?_
  exact ensured fun _ => handling_rpc _ _

/-! ### Admin service -/

theorem registerService_obeys (req : RegisterServiceRequest) :
    (AdminService.registerService ext extensions req).Obeys
      ((registerService req).monitor extensions) Handling Handling (.rpc none) := by
  simp only [AdminService.registerService, Prog.obeys_bind]
  refine claims fun c subject => requireAdmin rfl ?_
  exact privileged rfl subject (.admin rfl) fun _ _ => handling_rpc _ _

theorem updateService_obeys (req : UpdateServiceRequest) :
    (AdminService.updateService ext extensions req).Obeys
      ((updateService req).monitor extensions) Handling Handling (.rpc none) := by
  simp only [AdminService.updateService, Prog.obeys_bind]
  refine claims fun c subject => requireAdmin rfl ?_
  exact privileged rfl subject (.admin rfl) fun _ _ => handling_rpc _ _

theorem listServices_obeys (req : ListServicesRequest) :
    (AdminService.listServices ext extensions req).Obeys
      ((listServices req).monitor extensions) Handling Handling (.rpc none) := by
  simp only [AdminService.listServices, Prog.obeys_bind]
  refine claims fun c subject => requireAdmin rfl ?_
  exact read rfl rfl fun _ => read rfl rfl fun _ => handling_rpc _ _

theorem disableService_obeys (req : DisableServiceRequest) :
    (AdminService.disableService ext extensions req).Obeys
      ((disableService req).monitor extensions) Handling Handling (.rpc none) := by
  simp only [AdminService.disableService, Prog.obeys_bind]
  refine claims fun c subject => requireAdmin rfl ?_
  exact privileged rfl subject (.admin rfl) fun _ _ => handling_rpc _ _

theorem enableService_obeys (req : EnableServiceRequest) :
    (AdminService.enableService ext extensions req).Obeys
      ((enableService req).monitor extensions) Handling Handling (.rpc none) := by
  simp only [AdminService.enableService, Prog.obeys_bind]
  refine claims fun c subject => requireAdmin rfl ?_
  exact privileged rfl subject (.admin rfl) fun _ _ => handling_rpc _ _

theorem setGlobalPolicy_obeys (req : SetGlobalPolicyRequest) :
    (AdminService.setGlobalPolicy ext extensions req).Obeys
      ((setGlobalPolicy req).monitor extensions) Handling Handling (.rpc none) := by
  simp only [AdminService.setGlobalPolicy, Prog.obeys_bind]
  refine claims fun c subject => requireAdmin rfl ?_
  exact privileged rfl subject (.admin rfl) fun _ _ => handling_rpc _ _

theorem getGlobalPolicy_obeys :
    (AdminService.getGlobalPolicy ext extensions).Obeys (getGlobalPolicy.monitor extensions)
      Handling Handling (.rpc none) := by
  simp only [AdminService.getGlobalPolicy, Prog.obeys_bind]
  refine claims fun c subject => requireAdmin rfl ?_
  exact read rfl rfl fun _ => handling_rpc _ _

theorem resurfaceQuery_admin (action : String) (id : Uuid) :
    (Sql.notifications (AdminService.resurfaceQuery action id)).admin = true := by
  unfold AdminService.resurfaceQuery
  split <;> rfl

theorem resurfaceNotification_obeys (req : ResurfaceNotificationRequest) :
    (AdminService.resurfaceNotification ext extensions req).Obeys
      ((resurfaceNotification req).monitor extensions) Handling Handling (.rpc none) := by
  simp only [AdminService.resurfaceNotification, Prog.obeys_bind]
  refine claims fun c subject => requireAdmin rfl (found fun id _ => ?_)
  refine read rfl rfl fun _ => found fun _ _ => ?_
  exact privileged rfl subject (.admin (resurfaceQuery_admin _ _)) fun _ _ => handling_rpc _ _

/-- Every handler obeys its monitor. -/
theorem handle_obeys (r : Rpc) :
    (r.handle ext inst extensions).Obeys (r.monitor extensions) Handling Handling (.rpc none) := by
  cases r with
  | sendNotification req => exact sendNotification_obeys ext extensions rfl req none
  | sendNotificationBatch req => exact sendNotificationBatch_obeys ext extensions req
  | getNotification req => exact getNotification_obeys ext extensions req
  | listNotifications req => exact listNotifications_obeys ext extensions req
  | markSeen req => exact markSeen_obeys ext extensions req
  | markRead req => exact markRead_obeys ext extensions req
  | markUnread req => exact markUnread_obeys ext extensions req
  | snooze req => exact snooze_obeys ext extensions req
  | archive req => exact archive_obeys ext extensions req
  | unarchive req => exact unarchive_obeys ext extensions req
  | archiveAllInGroup req => exact archiveAllInGroup_obeys ext extensions req
  | producerMarkRead req => exact producerMarkRead_obeys ext extensions req
  | getUnseenCount req => exact getUnseenCount_obeys ext extensions req
  | getUnreadCount req => exact getUnreadCount_obeys ext extensions req
  | registerType req => exact registerType_obeys ext inst extensions req
  | updateType req => exact updateType_obeys ext inst extensions req
  | getType req => exact getType_obeys ext extensions req
  | listTypes req => exact listTypes_obeys ext extensions req
  | registerLevel req => exact registerLevel_obeys ext extensions req
  | updateLevel req => exact updateLevel_obeys ext extensions req
  | listLevels req => exact listLevels_obeys ext extensions req
  | validatePayload req => exact validatePayload_obeys ext extensions req
  | getPreferences => exact getPreferences_obeys ext extensions
  | updatePreferences req => exact updatePreferences_obeys ext extensions req
  | setServicePreference req => exact setServicePreference_obeys ext extensions req
  | deleteServicePreference req => exact deleteServicePreference_obeys ext extensions req
  | setTypePreference req => exact setTypePreference_obeys ext extensions req
  | deleteTypePreference req => exact deleteTypePreference_obeys ext extensions req
  | listMuteRules => exact listMuteRules_obeys ext extensions
  | createMuteRule req => exact createMuteRule_obeys ext extensions req
  | deleteMuteRule req => exact deleteMuteRule_obeys ext extensions req
  | registerService req => exact registerService_obeys ext extensions req
  | updateService req => exact updateService_obeys ext extensions req
  | listServices req => exact listServices_obeys ext extensions req
  | disableService req => exact disableService_obeys ext extensions req
  | enableService req => exact enableService_obeys ext extensions req
  | setGlobalPolicy req => exact setGlobalPolicy_obeys ext extensions req
  | getGlobalPolicy => exact getGlobalPolicy_obeys ext extensions
  | resurfaceNotification req => exact resurfaceNotification_obeys ext extensions req

end Handlers

theorem not_background {extensions : Option AuthClaims} {r : Rpc} {s : Phase} {q : Sql}
    (h : (r.monitor extensions).may s (.sql q)) : q.background = false := by
  have apart : q.background = true →
      q.registry = false ∧ q.owner = none ∧ q.reads = false ∧ q.admin = false := by
    unfold Sql.background
    split <;> simp [Sql.registry, Sql.owner, Sql.reads, Sql.admin]
  by_contra background
  obtain ⟨registry, owner, reads, admin⟩ := apart (by simpa using background)
  cases s with
  | rpc granted =>
    rcases h with ⟨q', same, h⟩ | ⟨_, q', c, same, _, h⟩ | ⟨_, ⟨q', same, h⟩ | h | ⟨_, _, _, h⟩ |
      ⟨_, h⟩ | ⟨c, check, _, h, _⟩⟩
    · cases same
      rw [h] at registry
      cases registry
    · cases same
      rw [h] at owner
      cases owner
    · cases same
      rw [h] at reads
      cases reads
    · cases h
    · cases h
    · cases h
    · cases h with
      | admin h =>
        rw [h] at admin
        cases admin
      | producer => exact background rfl
  | _ => exact h.elim

end Rpc

end Estafeta
