import Estafeta.System

/-!
# Phases of a thread

Where a thread is, as far as its operations depend on it, and which operations a handler may perform
there: it reads, changes rows of its subject, or does what Keto has just allowed. `obeys_query` and
`obeys_run` say when a statement obeys a monitor.
-/

open Atomic

namespace Estafeta

open Db.Notifications (InsertNotification)

/-! ## Kinds of statements -/

/-- Statements that read only the services and the notification types. -/
def Sql.registry : Sql → Bool
  | .services (.getServiceBySlug _) => true
  | .schemas (.getNotificationType ..) => true
  | _ => false

/-- Statements with which handlers read, and change no table. -/
def Sql.reads : Sql → Bool
  | .notifications (.getNotification _) => true
  | .notifications (.listNotifications ..) => true
  | .notifications (.countUnseen ..) => true
  | .notifications (.countUnseenByService _) => true
  | .notifications (.countUnread ..) => true
  | .notifications (.countUnreadByService _) => true
  | .muteRules (.listMuteRules _) => true
  | .muteRules (.listActiveMuteRules _) => true
  | .preferences (.listServicePreferences _) => true
  | .preferences (.listTypePreferences _) => true
  | .preferences .getGlobalPolicy => true
  | .schemas (.getNotificationType ..) => true
  | .schemas (.getNotificationTypeById _) => true
  | .schemas (.listNotificationTypes ..) => true
  | .schemas (.listNotificationLevels _) => true
  | .schemas (.getNotificationLevel ..) => true
  | .services (.getServiceBySlug _) => true
  | .services (.listServices ..) => true
  | .services .countServices => true
  | _ => false

/-- The user whose rows, and no others, a statement reads and changes. -/
def Sql.owner : Sql → Option String
  | .notifications (.listNotifications userId ..) => some userId
  | .notifications (.countUnseen userId _) => some userId
  | .notifications (.countUnseenByService userId) => some userId
  | .notifications (.countUnread userId _) => some userId
  | .notifications (.countUnreadByService userId) => some userId
  | .notifications (.markSeen userId _) => some userId
  | .notifications (.markAllSeen userId) => some userId
  | .notifications (.markRead userId _) => some userId
  | .notifications (.markUnread userId _) => some userId
  | .notifications (.snooze userId ..) => some userId
  | .notifications (.archive userId _) => some userId
  | .notifications (.archiveAllInGroup userId _) => some userId
  | .notifications (.unarchive userId _) => some userId
  | .muteRules (.insertMuteRule userId ..) => some userId
  | .muteRules (.deleteMuteRule userId _) => some userId
  | .muteRules (.listMuteRules userId) => some userId
  | .preferences (.getOrCreateUserPreference userId) => some userId
  | .preferences (.updateUserPreference userId ..) => some userId
  | .preferences (.upsertServicePreference userId ..) => some userId
  | .preferences (.deleteServicePreference userId _) => some userId
  | .preferences (.listServicePreferences userId) => some userId
  | .preferences (.upsertTypePreference userId ..) => some userId
  | .preferences (.deleteTypePreference userId _) => some userId
  | .preferences (.listTypePreferences userId) => some userId
  | _ => none

/-- Statements that change what admins administer. -/
def Sql.admin : Sql → Bool
  | .notifications (.resurfaceNotification _) => true
  | .notifications (.bumpNotification _) => true
  | .preferences (.updateGlobalPolicy ..) => true
  | .schemas (.insertNotificationType ..) => true
  | .schemas (.updateNotificationType ..) => true
  | .schemas (.insertNotificationLevel ..) => true
  | .schemas (.updateNotificationLevel ..) => true
  | .services (.insertService ..) => true
  | .services (.updateService ..) => true
  | .services (.setServiceEnabled ..) => true
  | _ => false

/-- Statements of the background tasks, which no handler runs. -/
def Sql.background : Sql → Bool
  | .notifications (.insertNotification _) => true
  | .notifications (.wakeSnoozed _) => true
  | .notifications (.expireNotifications _) => true
  | .notifications (.getEscalationDue _) => true
  | .notifications (.updateEscalation ..) => true
  | _ => false

/-- Statements with which a processor loads what it needs to know about a message. -/
def Sql.loads : Sql → Bool
  | .schemas (.getNotificationLevel ..) => true
  | .preferences (.getOrCreateUserPreference _) => true
  | .preferences (.listServicePreferences _) => true
  | .preferences (.listTypePreferences _) => true
  | .muteRules (.listActiveMuteRules _) => true
  | q => q.registry

/-- The requests with which a user manages the own notifications and preferences. -/
def Rpc.personal : Rpc → Bool
  | .listNotifications _ => true
  | .markSeen _ => true
  | .markRead _ => true
  | .markUnread _ => true
  | .snooze _ => true
  | .archive _ => true
  | .unarchive _ => true
  | .archiveAllInGroup _ => true
  | .getUnseenCount _ => true
  | .getUnreadCount _ => true
  | .getPreferences => true
  | .updatePreferences _ => true
  | .setServicePreference _ => true
  | .deleteServicePreference _ => true
  | .setTypePreference _ => true
  | .deleteTypePreference _ => true
  | .listMuteRules => true
  | .createMuteRule _ => true
  | .deleteMuteRule _ => true
  | _ => false

/-! ## Phases -/

/-- Where a thread is, as far as its operations depend on it. -/
inductive Phase where
  /-- a handler, with the question to Keto that was answered positively and not yet used -/
  | rpc (granted : Option CheckRequest)
  /-- a processor before its message -/
  | idle
  | loading (payload : Payload)
  | stored (n : InsertNotification) (row : NotificationRow)
  | announced (n : InsertNotification)
  /-- an escalation pass before it reads what is due -/
  | scanning
  | pass (todo : List NotificationRow)
  | typed (r : NotificationRow) (type : Option NotificationTypeRow) (todo : List NotificationRow)
  | acting (r : NotificationRow) (type : Option NotificationTypeRow) (todo : List NotificationRow)
  /-- a pass of another loop -/
  | sweeping
  | over

/-! ## Handlers -/

/-- The question whether a subject is an admin. -/
def adminCheck (subject : String) : CheckRequest := ⟨"estafeta", "admin", "access", subject⟩

/-- The question whether a subject can send notifications for a service. -/
def sendCheck (serviceSlug subject : String) : CheckRequest :=
  ⟨"estafeta", s!"services/{serviceSlug}", "send", subject⟩

/-- A change that needs a positive answer of Keto, and the answer it needs. -/
inductive Rpc.Privileged (subject : String) : Rpc → Op → CheckRequest → Prop where
  | admin {r q} : q.admin = true → Privileged subject r (.sql q) (adminCheck subject)
  | producer {req ids} :
    Privileged subject (.producerMarkRead req)
      (.sql (.notifications (.producerMarkRead req.recipientUserId ids)))
      (sendCheck req.serviceSlug subject)
  | publish {r msg} :
    Privileged subject r (.publishIngest s!"notif.ingest.{msg.serviceSlug}" msg)
      (sendCheck msg.serviceSlug subject)

/-- Every handler may read the registry. A handler of a personal request works on the rows of its
subject; any other may read anything, and change what Keto has just allowed it to. -/
def Rpc.may (extensions : Option AuthClaims) (r : Rpc) (granted : Option CheckRequest) (o : Op) :
    Prop :=
  (∃ q, o = .sql q ∧ q.registry = true) ∨
    (r.personal = true ∧ ∃ q c, o = .sql q ∧ extensions = some c ∧ q.owner = some c.subject) ∨
    r.personal = false ∧
      ((∃ q, o = .sql q ∧ q.reads = true) ∨ o = .newUuid ∨ (∃ i c k, o = .cacheInvalidate i c k) ∨
        (∃ req, o = .keto req) ∨
        ∃ c check, extensions = some c ∧ Privileged c.subject r o check ∧ granted = some check)

/-- A positive answer is remembered until it is used. -/
def Rpc.next (granted : Option CheckRequest) : (o : Op) → o.Ans → Option CheckRequest
  | .keto req, reply =>
    match Keto.allowed reply with
    | .ok true => some req
    | _ => none
  | .sql q, _ => if q.reads then granted else none
  | .publishIngest .., _ => none
  | _, _ => granted

/-- The monitor of a handler. -/
def Rpc.monitor (extensions : Option AuthClaims) (r : Rpc) : Monitor Op Op.Ans Phase where
  may s o :=
    match s with
    | .rpc granted => r.may extensions granted o
    | _ => False
  next s o a :=
    match s with
    | .rpc granted => .rpc (Rpc.next granted o a)
    | s => s

/-- The handler has not left its phase. -/
def Handling {α : Type} (s : Phase) (_ : α) : Prop := ∃ granted, s = .rpc granted

@[simp] theorem handling_rpc {α : Type} (granted : Option CheckRequest) (a : α) :
    Handling (.rpc granted) a := ⟨granted, rfl⟩

section Statements

variable {σ : Type} {m : Monitor Op Op.Ans σ} {s : σ}

theorem obeys_sql (q : Sql) {E : σ → DbError → Prop} {Q : σ → q.Resp → Prop} :
    (query q).Obeys m E Q s ↔ m.may s (.sql q) ∧
      (∀ e, E (m.next s (.sql q) (.error e)) e) ∧ ∀ a, Q (m.next s (.sql q) (.ok a)) a := by
  simp only [query, Prog.obeys_call, Prog.obeys_ofExcept]
  constructor
  · rintro ⟨permitted, rest⟩
    exact ⟨permitted, fun e => (rest (.error e)).1 e rfl, fun a => (rest (.ok a)).2 a rfl⟩
  · rintro ⟨permitted, fails, returns⟩
    refine ⟨permitted, fun r => ⟨?_, ?_⟩⟩
    · rintro e rfl
      exact fails e
    · rintro a rfl
      exact returns a

theorem obeys_query (ext : Ext) (q : Sql) {E : σ → Status → Prop} {Q : σ → q.Resp → Prop} :
    (ext.query q).Obeys m E Q s ↔ m.may s (.sql q) ∧
      (∀ e, E (m.next s (.sql q) (.error e)) (.internal s!"db error: {ext.showDbError e}")) ∧
      ∀ a, Q (m.next s (.sql q) (.ok a)) a := by
  rw [Ext.query, Prog.obeys_mapErr, obeys_sql]

theorem obeys_run (ext : Ext) (q : Sql) {E : σ → String → Prop} {Q : σ → q.Resp → Prop} :
    (ext.run q).Obeys m E Q s ↔ m.may s (.sql q) ∧
      (∀ e, E (m.next s (.sql q) (.error e)) (ext.showDbError e)) ∧
      ∀ a, Q (m.next s (.sql q) (.ok a)) a := by
  rw [Ext.run, Prog.obeys_mapErr, obeys_sql]

end Statements

end Estafeta
