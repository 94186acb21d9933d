import Estafeta.Authorization

/-!
# What each request changes

The statements with which the handler of each request changes tables. Everything else that a handler
performs changes neither a table nor the stream, but for the messages of the requests to send
(`handle_performs`); the background tasks change nothing but notifications, and create the preferences
of users.
-/

open Atomic

namespace Estafeta

/-- The statements with which the handler of a request changes tables, for a caller with these
claims. -/
inductive Rpc.Changes (c : AuthClaims) : Rpc → Sql → Prop where
  | markSeen {req ids} : Changes c (.markSeen req) (.notifications (.markSeen c.subject ids))
  | markAllSeen {req} : Changes c (.markSeen req) (.notifications (.markAllSeen c.subject))
  | markRead {req ids} : Changes c (.markRead req) (.notifications (.markRead c.subject ids))
  | markUnread {req ids} : Changes c (.markUnread req) (.notifications (.markUnread c.subject ids))
  | snooze {req id until_} : Changes c (.snooze req) (.notifications (.snooze c.subject id until_))
  | archive {req ids} : Changes c (.archive req) (.notifications (.archive c.subject ids))
  | unarchive {req ids} : Changes c (.unarchive req) (.notifications (.unarchive c.subject ids))
  | archiveAllInGroup {req id} :
    Changes c (.archiveAllInGroup req) (.notifications (.archiveAllInGroup c.subject id))
  | producerMarkRead {req ids} : Changes c (.producerMarkRead req)
    (.notifications (.producerMarkRead req.recipientUserId ids))
  | resurface {req id} :
    Changes c (.resurfaceNotification req) (.notifications (.resurfaceNotification id))
  | bump {req id} : Changes c (.resurfaceNotification req) (.notifications (.bumpNotification id))
  | createMuteRule {req service type until_} : Changes c (.createMuteRule req)
    (.muteRules (.insertMuteRule c.subject service type until_))
  | deleteMuteRule {req id} :
    Changes c (.deleteMuteRule req) (.muteRules (.deleteMuteRule c.subject id))
  | getPreferences :
    Changes c .getPreferences (.preferences (.getOrCreateUserPreference c.subject))
  | updatePreferences {req enabled catchUp sort} : Changes c (.updatePreferences req)
    (.preferences (.updateUserPreference c.subject enabled catchUp sort))
  | setServicePreference {req id enabled severity} : Changes c (.setServicePreference req)
    (.preferences (.upsertServicePreference c.subject id enabled severity))
  | deleteServicePreference {req id} : Changes c (.deleteServicePreference req)
    (.preferences (.deleteServicePreference c.subject id))
  | setTypePreference {req id enabled} : Changes c (.setTypePreference req)
    (.preferences (.upsertTypePreference c.subject id enabled))
  | deleteTypePreference {req id} : Changes c (.deleteTypePreference req)
    (.preferences (.deleteTypePreference c.subject id))
  | setGlobalPolicy {req perHour ttl escalations perSecond} : Changes c (.setGlobalPolicy req)
    (.preferences (.updateGlobalPolicy perHour ttl escalations perSecond))
  | registerType {req id key name description schema ttl interval escalations action icon} :
    Changes c (.registerType req) (.schemas (.insertNotificationType id key name description schema ttl
      interval escalations action icon))
  | updateType {req id key name description schema ttl interval escalations action icon enabled} :
    Changes c (.updateType req) (.schemas (.updateNotificationType id key name description schema ttl
      interval escalations action icon enabled))
  | registerLevel {req id key name severity color icon} : Changes c (.registerLevel req)
    (.schemas (.insertNotificationLevel id key name severity color icon))
  | updateLevel {req id key name severity color icon} : Changes c (.updateLevel req)
    (.schemas (.updateNotificationLevel id key name severity color icon))
  | registerService {req slug name description} :
    Changes c (.registerService req) (.services (.insertService slug name description))
  | updateService {req slug name description} :
    Changes c (.updateService req) (.services (.updateService slug name description))
  | disableService {req slug} :
    Changes c (.disableService req) (.services (.setServiceEnabled slug false))
  | enableService {req slug} :
    Changes c (.enableService req) (.services (.setServiceEnabled slug true))

/-- The requests to send notifications. -/
def Rpc.sends : Rpc → Bool
  | .sendNotification _ => true
  | .sendNotificationBatch _ => true
  | _ => false

/-- What the handler of a request may perform. -/
inductive Rpc.Performs (extensions : Option AuthClaims) (r : Rpc) : Op → Prop where
  | looks {o} : o.harmless = true → Performs extensions r o
  | changes {c q} : extensions = some c → r.Changes c q → Performs extensions r (.sql q)
  | publishes {subject m} : r.sends = true → Performs extensions r (.publishIngest subject m)

section

variable {ext : Ext} {extensions : Option AuthClaims} {r : Rpc} {α : Type}

theorem harmless_db {o : Op} (harmless : o.harmless = true) (x : Choice) (w : World) :
    (exec ext x o w).2.db = w.db := by
  cases o with
  | sql q => exact congrArg World.db (execSql_reads harmless)
  | _ => exact exec_db_of_not_sql fun _ same => by cases same

/-! ## Rules -/

theorem performs_claims {f : AuthClaims → Program Status α}
    (rest : ∀ c, extensions = some c → (f c).Within (r.Performs extensions)) :
    (AuthClaims.fromExtensions extensions >>= f).Within (r.Performs extensions) := by
  cases extensions with
  | none => trivial
  | some c => exact rest c rfl

theorem performs_query {q : Sql} (permitted : r.Performs extensions (.sql q)) :
    (ext.query q).Within (r.Performs extensions) :=
  Prog.Within.mapErr ⟨permitted, fun _ => Prog.within_ofExcept _⟩

theorem performs_look {q : Sql} (reads : q.reads = true) :
    (ext.query q).Within (r.Performs extensions) :=
  performs_query (.looks reads)

theorem performs_change {c : AuthClaims} (claimed : extensions = some c) {q : Sql}
    (changes : r.Changes c q) : (ext.query q).Within (r.Performs extensions) :=
  performs_query (.changes claimed changes)

theorem performs_returns {q : Sql} (permitted : (ext.query q).Within (r.Performs extensions))
    (g : q.Resp → α) : (ext.query q >>= fun a => .ret (g a)).Within (r.Performs extensions) :=
  permitted.bind fun _ => trivial

theorem performs_check (object relation subject : String) :
    (Keto.check object relation subject).Within (r.Performs extensions) :=
  ⟨.looks rfl, fun _ => Prog.within_ofExcept _⟩

theorem performs_requireAdmin (subject : String) {f : Unit → Program Status α}
    (rest : (f ()).Within (r.Performs extensions)) :
    (Keto.requireAdmin subject >>= f).Within (r.Performs extensions) :=
  Prog.Within.bind ((performs_check _ _ _).bind fun _ => Prog.within_ensure _ _) fun _ => rest

theorem performs_requireServiceSend (slug subject : String) {f : Unit → Program Status α}
    (rest : (f ()).Within (r.Performs extensions)) :
    (Keto.requireServiceSend slug subject >>= f).Within (r.Performs extensions) :=
  Prog.Within.bind ((performs_check _ _ _).bind fun _ => Prog.within_ensure _ _) fun _ => rest

theorem performs_serviceBySlug (slug : String) :
    (SchemaRegistryService.serviceBySlug ext slug).Within (r.Performs extensions) :=
  (performs_look rfl).bind fun _ => Prog.within_okOr _ _

theorem performs_typeByKey (serviceId : Uuid) (typeKey : String) :
    (UserConfigService.typeByKey ext serviceId typeKey).Within (r.Performs extensions) :=
  (performs_look rfl).bind fun _ => Prog.within_okOr _ _

theorem performs_serviceIds (slugs : List String) :
    (NotificationService.serviceIds ext slugs).Within (r.Performs extensions) := by
  refine Prog.within_foldlM (fun ids slug => (performs_look rfl).bind fun svc => ?_) []
  cases svc <;> trivial

theorem performs_muteService (slug : String) :
    (UserConfigService.muteService ext slug).Within (r.Performs extensions) := by
  unfold UserConfigService.muteService
  split
  · exact (performs_serviceBySlug slug).bind fun _ => trivial
  · trivial

theorem performs_muteType (serviceId : Option Uuid) (typeKey : String) :
    (UserConfigService.muteType ext serviceId typeKey).Within (r.Performs extensions) := by
  unfold UserConfigService.muteType
  split
  · split
    · exact (performs_typeByKey _ _).bind fun _ => trivial
    · trivial
  · trivial

theorem performs_sendNotification (sends : r.sends = true) (extensions' : Option AuthClaims)
    (req : SendNotificationRequest) :
    (NotificationService.sendNotification ext extensions' req).Within (r.Performs extensions) := by
  refine (Prog.within_okOr _ _).bind fun c => performs_requireServiceSend _ _ ?_
  refine (performs_look rfl).bind fun service => (Prog.within_okOr _ _).bind fun service => ?_
  refine (Prog.within_ensure _ _).bind fun _ => (performs_look rfl).bind fun nt => ?_
  refine (Prog.within_okOr _ _).bind fun nt => (Prog.within_ensure _ _).bind fun _ => ?_
  dsimp only
  split
  · trivial
  · refine Prog.Within.bind ⟨.looks rfl, fun _ => trivial⟩ fun id => ?_
    refine Prog.Within.bind (Prog.Within.mapErr ?_) fun _ => trivial
    exact ⟨.publishes sends, fun _ => Prog.within_ofExcept _⟩

end

/-! ## Handlers -/

section

variable (ext : Ext) (inst : ℕ) (extensions : Option AuthClaims)

theorem handle_performs (r : Rpc) : (r.handle ext inst extensions).Within (r.Performs extensions) := by
  cases r with
  | sendNotification req => exact performs_sendNotification rfl extensions req
  | sendNotificationBatch req =>
    refine performs_claims fun c _ => (Prog.within_foldlM (fun acc item => ?_) _).bind fun _ => trivial
    refine (performs_sendNotification rfl (some c) item).attempt.bind fun result => ?_
    cases result <;> trivial
  | getNotification req =>
    refine performs_claims fun c _ => (Prog.within_okOr _ _).bind fun id => ?_
    refine (performs_look rfl).bind fun row => (Prog.within_okOr _ _).bind fun row => ?_
    exact (Prog.within_ensure _ _).bind fun _ => trivial
  | listNotifications req =>
    exact performs_claims fun c _ => (performs_serviceIds _).bind fun _ =>
      performs_returns (performs_look rfl) _
  | getUnseenCount req | getUnreadCount req =>
    refine performs_claims fun c _ => (performs_serviceIds _).bind fun _ => ?_
    exact (performs_look rfl).bind fun _ => performs_returns (performs_look rfl) _
  | markSeen req =>
    refine performs_claims fun c claimed => ?_
    split
    · exact performs_returns (performs_change claimed .markAllSeen) _
    · exact (Prog.within_ofExcept _).bind fun _ =>
        performs_returns (performs_change claimed .markSeen) _
  | markRead req =>
    exact performs_claims fun c claimed => (Prog.within_ofExcept _).bind fun _ =>
      performs_returns (performs_change claimed .markRead) _
  | markUnread req =>
    exact performs_claims fun c claimed => (Prog.within_ofExcept _).bind fun _ =>
      performs_returns (performs_change claimed .markUnread) _
  | archive req =>
    exact performs_claims fun c claimed => (Prog.within_ofExcept _).bind fun _ =>
      performs_returns (performs_change claimed .archive) _
  | unarchive req =>
    exact performs_claims fun c claimed => (Prog.within_ofExcept _).bind fun _ =>
      performs_returns (performs_change claimed .unarchive) _
  | snooze req =>
    refine performs_claims fun c claimed => (Prog.within_okOr _ _).bind fun id => ?_
    refine (Prog.within_okOr _ _).bind fun time => (Prog.within_okOr _ _).bind fun _ => ?_
    exact performs_returns (performs_change claimed .snooze) _
  | archiveAllInGroup req =>
    refine performs_claims fun c claimed => (performs_look rfl).bind fun service => ?_
    exact (Prog.within_okOr _ _).bind fun _ =>
      performs_returns (performs_change claimed .archiveAllInGroup) _
  | producerMarkRead req =>
    refine performs_claims fun c claimed => performs_requireServiceSend _ _ ?_
    exact (Prog.within_ofExcept _).bind fun _ =>
      performs_returns (performs_change claimed .producerMarkRead) _
  | registerType req =>
    refine performs_claims fun c claimed => performs_requireAdmin _ ?_
    refine (performs_look rfl).bind fun service => (Prog.within_okOr _ _).bind fun service => ?_
    refine (Prog.within_ensure _ _).bind fun _ => ?_
    exact (performs_change claimed .registerType).bind fun _ => ⟨.looks rfl, fun _ => trivial⟩
  | updateType req =>
    refine performs_claims fun c claimed => performs_requireAdmin _ ?_
    refine (performs_serviceBySlug _).bind fun service => ?_
    exact (performs_change claimed .updateType).bind fun _ => ⟨.looks rfl, fun _ => trivial⟩
  | getType req =>
    refine (performs_serviceBySlug _).bind fun service => (performs_look rfl).bind fun _ => ?_
    exact (Prog.within_okOr _ _).bind fun _ => trivial
  | listTypes req | listLevels req =>
    exact (performs_serviceBySlug _).bind fun service => performs_returns (performs_look rfl) _
  | registerLevel req =>
    exact performs_claims fun c claimed => performs_requireAdmin _ <|
      (performs_serviceBySlug _).bind fun service =>
        performs_returns (performs_change claimed .registerLevel) _
  | updateLevel req =>
    exact performs_claims fun c claimed => performs_requireAdmin _ <|
      (performs_serviceBySlug _).bind fun service =>
        performs_returns (performs_change claimed .updateLevel) _
  | validatePayload req =>
    refine (performs_serviceBySlug _).bind fun service => (performs_look rfl).bind fun _ => ?_
    refine (Prog.within_okOr _ _).bind fun nt => ?_
    dsimp only
    split <;> trivial
  | getPreferences =>
    refine performs_claims fun c claimed => (performs_change claimed .getPreferences).bind fun _ => ?_
    exact (performs_look rfl).bind fun _ => performs_returns (performs_look rfl) _
  | updatePreferences req =>
    exact performs_claims fun c claimed => performs_returns (performs_change claimed .updatePreferences) _
  | setServicePreference req =>
    exact performs_claims fun c claimed => (performs_serviceBySlug _).bind fun service =>
      performs_returns (performs_change claimed .setServicePreference) _
  | deleteServicePreference req =>
    exact performs_claims fun c claimed => (performs_serviceBySlug _).bind fun service =>
      performs_change claimed .deleteServicePreference
  | setTypePreference req =>
    exact performs_claims fun c claimed => (performs_serviceBySlug _).bind fun service =>
      (performs_typeByKey _ _).bind fun nt =>
        performs_returns (performs_change claimed .setTypePreference) _
  | deleteTypePreference req =>
    exact performs_claims fun c claimed => (performs_serviceBySlug _).bind fun service =>
      (performs_typeByKey _ _).bind fun nt => performs_change claimed .deleteTypePreference
  | listMuteRules => exact performs_claims fun c _ => performs_returns (performs_look rfl) _
  | createMuteRule req =>
    refine performs_claims fun c claimed => (performs_muteService _).bind fun service => ?_
    exact (performs_muteType _ _).bind fun type =>
      performs_returns (performs_change claimed .createMuteRule) _
  | deleteMuteRule req =>
    refine performs_claims fun c claimed => (Prog.within_okOr _ _).bind fun id => ?_
    exact (performs_change claimed .deleteMuteRule).bind fun _ => Prog.within_ensure _ _
  | registerService req =>
    exact performs_claims fun c claimed => performs_requireAdmin _ <|
      performs_returns (performs_change claimed .registerService) _
  | updateService req =>
    exact performs_claims fun c claimed => performs_requireAdmin _ <|
      performs_returns (performs_change claimed .updateService) _
  | setGlobalPolicy req =>
    exact performs_claims fun c claimed => performs_requireAdmin _ <|
      performs_returns (performs_change claimed .setGlobalPolicy) _
  | getGlobalPolicy =>
    exact performs_claims fun c _ => performs_requireAdmin _ <|
      performs_returns (performs_look rfl) _
  | listServices req =>
    exact performs_claims fun c _ => performs_requireAdmin _ <|
      (performs_look rfl).bind fun rows => performs_returns (performs_look rfl) _
  | disableService req =>
    exact performs_claims fun c claimed => performs_requireAdmin _ <|
      performs_change claimed .disableService
  | enableService req =>
    exact performs_claims fun c claimed => performs_requireAdmin _ <|
      performs_change claimed .enableService
  | resurfaceNotification req =>
    refine performs_claims fun c claimed => performs_requireAdmin _ ?_
    refine (Prog.within_okOr _ _).bind fun id => (performs_look rfl).bind fun notif => ?_
    refine (Prog.within_okOr _ _).bind fun _ => performs_returns (performs_query ?_) _
    unfold AdminService.resurfaceQuery
    split
    · exact .changes claimed .resurface
    · exact .changes claimed .bump
    · exact .changes claimed .resurface

variable {ext inst extensions}

theorem performs_of_rpc {w₀ : World} {es : History} {p : State}
    (run : (system ext).Run (Pool.idle w₀) es p) {e : Event Call Op Op.Ans World Choice} (he : e ∈ es)
    {r : Rpc} (call : e.call = .rpc inst extensions r) : r.Performs extensions e.op := by
  obtain ⟨k, thread⟩ := run.started e he
  rw [call] at thread
  have within : (Call.body ext (.rpc inst extensions r)).Within (r.Performs extensions) :=
    (handle_performs ext inst extensions r).mapErr.bind fun _ => trivial
  exact (run.confined thread within).2 e he rfl

end

/-! ## Background tasks -/

/-- The call is a request. -/
def Call.serves : Call → Bool
  | .rpc .. => true
  | _ => false

/-- Operations that leave registrations and preferences as they are. -/
def Op.passive : Op → Bool
  | .sql (.notifications _) => true
  | .sql (.preferences (.getOrCreateUserPreference _)) => true
  | .sql q => q.reads
  | _ => true

section

variable {o : Op}

theorem passive_of_loads {q : Sql} (loads : q.loads = true) : (Op.sql q).passive = true := by
  unfold Sql.loads at loads
  split at loads
  · rfl
  · rfl
  · rfl
  · rfl
  · rfl
  next =>
    unfold Op.passive
    split
    · rfl
    · rfl
    next q same =>
      cases same
      exact Rpc.registry_reads loads
    · rfl

/-- Processors and the scheduler leave registrations and preferences as they are. -/
theorem passive_of_background {c : Call} {s : Phase} (permitted : c.monitor.may s o)
    (background : c.serves = false) : o.passive = true := by
  cases c with
  | rpc => cases background
  | processor inst seq =>
    simp only [Call.monitor, processorMonitor] at permitted
    split at permitted
    next => rfl
    next => rfl
    next => rfl
    next => rfl
    next q =>
      rcases permitted with loads | ⟨n, rfl, _⟩
      · exact passive_of_loads loads
      · rfl
    next => rfl
    next => rfl
    next => rfl
    next => rfl
    next => exact permitted.elim
  | escalation =>
    simp only [Call.monitor, escalationMonitor] at permitted
    split at permitted <;> first | rfl | exact permitted.elim
  | snoozeWake | ttlExpiry =>
    simp only [Call.monitor, sweepMonitor] at permitted
    split at permitted <;> first | rfl | exact permitted.elim | (subst permitted; rfl)

theorem passive_of_run {ext : Ext} {w₀ : World} {es : History} {p : State}
    (run : (system ext).Run (Pool.idle w₀) es p) {e : Event Call Op Op.Ans World Choice} (he : e ∈ es)
    (background : e.call.serves = false) : e.op.passive = true := by
  obtain ⟨g, watched, _⟩ := phased run
  obtain ⟨i, c, s, o, x, w, rfl, permitted⟩ := watched.permitted e he
  exact passive_of_background permitted background

end

end Estafeta
