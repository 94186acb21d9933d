import Estafeta.Db.Tables

/-!
# Notification statements

The statements of `db/notifications.rs`. A statement that updates notifications by owner and id is
the `Update` its SQL text spells out; `Query` lists the statements with their arguments, and
`Query.exec` runs one.
-/

open Relational

namespace Estafeta.Db.Notifications

structure InsertNotification where
  id : Uuid
  serviceId : Uuid
  notificationTypeId : Uuid
  levelId : Option Uuid
  recipientUserId : String
  state : String
  payload : Json
  groupKey : Option String
  idempotencyKey : Option String
  metadata : Json
  expiresAt : Option Time
  nextEscalationAt : Option Time
  actionUrl : Option String
  icon : Option String

/-- The row that an insertion stores, with the defaults of the table. -/
def InsertNotification.row (n : InsertNotification) (now : Time) : NotificationRow where
  id := n.id
  serviceId := n.serviceId
  notificationTypeId := n.notificationTypeId
  levelId := n.levelId
  recipientUserId := n.recipientUserId
  state := n.state
  payload := n.payload
  groupKey := n.groupKey
  idempotencyKey := n.idempotencyKey
  metadata := n.metadata
  snoozedUntil := none
  expiresAt := n.expiresAt
  nextEscalationAt := n.nextEscalationAt
  escalationCount := 0
  seenAt := none
  readAt := none
  actionUrl := n.actionUrl
  icon := n.icon
  createdAt := now
  updatedAt := now

/-- The foreign keys of a notification. -/
def references (db : Db) (r : NotificationRow) : Bool :=
  (db.services.lookup (.id r.serviceId)).isSome &&
    (db.notificationTypes.lookup (.id r.notificationTypeId)).isSome &&
    r.levelId.all fun l => (db.notificationLevels.lookup (.id l)).isSome

def insertNotification (env : Env) (n : InsertNotification) : Statement NotificationRow := fun db =>
  (insertRow db.notifications (n.row env.now) (references db (n.row env.now))).map fun t =>
    (n.row env.now, { db with notifications := t })

/-! ## Queries -/

def getNotification (id : Uuid) (db : Db) : Option NotificationRow :=
  db.notifications.lookup (.id id)

def listNotifications (env : Env) (userId : String) (states : List String)
    (serviceIds typeIds : List Uuid) (groupKey : Option String) (limit offset : Int64) (db : Db) :
    Except DbError (List NotificationRow) :=
  page limit offset <| sortOn (fun r => -r.createdAt) (fun r => env.rank r.id) <|
    db.notifications.select fun r =>
      r.recipientUserId = userId && anyOf states r.state && anyOf serviceIds r.serviceId &&
        anyOf typeIds r.notificationTypeId && groupKey.all fun g => r.groupKey = some g

/-- COUNT(*) of a user's notifications in a state. -/
def countState (state userId : String) (serviceIds : List Uuid) (db : Db) : Int64 :=
  Int64.ofNat (db.notifications.select fun r =>
    r.recipientUserId = userId && r.state = state && anyOf serviceIds r.serviceId).length

/-- COUNT(*) of a user's notifications in a state, by service. -/
def countStateByService (env : Env) (state userId : String) (db : Db) : List (Uuid × Int64) :=
  countBy env.rank NotificationRow.serviceId (db.notifications.select fun r =>
    r.recipientUserId = userId && r.state = state)

def countUnseen : String → List Uuid → Db → Int64 := countState "unseen"

def countUnseenByService (env : Env) : String → Db → List (Uuid × Int64) :=
  countStateByService env "unseen"

def countUnread : String → List Uuid → Db → Int64 := countState "unread"

def countUnreadByService (env : Env) : String → Db → List (Uuid × Int64) :=
  countStateByService env "unread"

/-! ## Updates by owner -/

def markSeen (now : Time) (userId : String) (ids : List Uuid) : Update NotificationRow where
  where_ r := r.recipientUserId = userId && r.id ∈ ids && r.state = "unseen"
  set :=
    { set r := { r with state := "unread", seenAt := some now, updatedAt := now }
      keys_set _ := rfl
      check_set _ _ := rfl }

def markAllSeen (now : Time) (userId : String) : Update NotificationRow where
  where_ r := r.recipientUserId = userId && r.state = "unseen"
  set :=
    { set r := { r with state := "unread", seenAt := some now, updatedAt := now }
      keys_set _ := rfl
      check_set _ _ := rfl }

def markRead (now : Time) (userId : String) (ids : List Uuid) : Update NotificationRow where
  where_ r := r.recipientUserId = userId && r.id ∈ ids && r.state = "unread"
  set :=
    { set r := { r with state := "read", readAt := some now, updatedAt := now }
      keys_set _ := rfl
      check_set _ _ := rfl }

def markUnread (now : Time) (userId : String) (ids : List Uuid) : Update NotificationRow where
  where_ r := r.recipientUserId = userId && r.id ∈ ids && r.state = "read"
  set :=
    { set r := { r with state := "unread", readAt := none, updatedAt := now }
      keys_set _ := rfl
      check_set _ _ := rfl }

def snooze (now : Time) (userId : String) (id : Uuid) (until_ : Time) : Update NotificationRow where
  where_ r := r.recipientUserId = userId && r.id = id && r.state ∈ ["unseen", "unread", "read"]
  set :=
    { set r := { r with state := "snoozed", snoozedUntil := some until_, updatedAt := now }
      keys_set _ := rfl
      check_set _ _ := rfl }

def archive (now : Time) (userId : String) (ids : List Uuid) : Update NotificationRow where
  where_ r :=
    r.recipientUserId = userId && r.id ∈ ids && r.state ∈ ["unseen", "unread", "read", "snoozed"]
  set :=
    { set r := { r with state := "archived", updatedAt := now }
      keys_set _ := rfl
      check_set _ _ := rfl }

def archiveAllInGroup (now : Time) (userId : String) (serviceId : Uuid) :
    Update NotificationRow where
  where_ r :=
    r.recipientUserId = userId && r.serviceId = serviceId &&
      r.state ∈ ["unseen", "unread", "read", "snoozed"]
  set :=
    { set r := { r with state := "archived", updatedAt := now }
      keys_set _ := rfl
      check_set _ _ := rfl }

def unarchive (now : Time) (userId : String) (ids : List Uuid) : Update NotificationRow where
  where_ r := r.recipientUserId = userId && r.id ∈ ids && r.state = "archived"
  set :=
    { set r := { r with state := "read", updatedAt := now }
      keys_set _ := rfl
      check_set _ _ := rfl }

def producerMarkRead (now : Time) (userId : String) (ids : List Uuid) : Update NotificationRow where
  where_ r := r.recipientUserId = userId && r.id ∈ ids && r.state = "unread"
  set :=
    { set r := { r with state := "read", readAt := some now, updatedAt := now }
      keys_set _ := rfl
      check_set _ _ := rfl }

/-! ## Batches -/

/-- The ids that a `SELECT id .. ORDER BY time LIMIT batchSize` yields. -/
def batch (env : Env) (due : NotificationRow → Bool) (time : NotificationRow → Option Time)
    (batchSize : Int64) (db : Db) : Except DbError (List NotificationRow) :=
  page batchSize 0 <| sortOn (fun r => (time r).getD 0) (fun r => env.rank r.id) <|
    db.notifications.select due

/-- UPDATE .. WHERE id IN the batch .. RETURNING *. -/
def updateBatch (env : Env) (rows : List NotificationRow) (set : Assign NotificationRow) (db : Db) :
    List NotificationRow × Db :=
  let table := db.notifications.update (fun r => r.id ∈ rows.map (·.id)) set
  (sortOn (fun _ => 0) (fun r => env.rank r.id) (table.select fun r => r.id ∈ rows.map (·.id)),
    { db with notifications := table })

/-- Snoozed notifications whose snooze time has passed. -/
def snoozeOver (now : Time) (r : NotificationRow) : Bool :=
  r.state = "snoozed" && r.snoozedUntil.any fun t => t ≤ now

/-- The SET clause of `wakeSnoozed`. -/
def wake (now : Time) : Assign NotificationRow where
  set r := { r with state := "unread", snoozedUntil := none, updatedAt := now }
  keys_set _ := rfl
  check_set _ _ := rfl

/-- Wake snoozed notifications whose snooze time has passed. -/
def wakeSnoozed (env : Env) (batchSize : Int64) : Statement (List NotificationRow) := fun db =>
  (batch env (snoozeOver env.now) (·.snoozedUntil) batchSize db).map fun rows =>
    updateBatch env rows (wake env.now) db

/-- Notifications past their TTL. -/
def ttlOver (now : Time) (r : NotificationRow) : Bool :=
  (r.expiresAt.any fun t => t ≤ now) && r.state ∈ ["unseen", "unread", "read"]

/-- The SET clause of `expireNotifications`. -/
def expire (now : Time) : Assign NotificationRow where
  set r := { r with state := "expired", updatedAt := now }
  keys_set _ := rfl
  check_set _ _ := rfl

/-- Expire notifications past their TTL. -/
def expireNotifications (env : Env) (batchSize : Int64) : Statement (List NotificationRow) :=
  fun db => (batch env (ttlOver env.now) (·.expiresAt) batchSize db).map fun rows =>
    updateBatch env rows (expire env.now) db

/-! ## Escalation -/

/-- Notifications due for escalation. -/
def escalationDue (now : Time) (r : NotificationRow) : Bool :=
  r.state ∈ ["unseen", "unread"] && r.nextEscalationAt.any fun t => t ≤ now

/-- Get notifications due for escalation. The row locks that the statement takes are released when
its transaction, which is the statement alone, ends. -/
def getEscalationDue (env : Env) (batchSize : Int64) (db : Db) :
    Except DbError (List NotificationRow) :=
  batch env (escalationDue env.now) (·.nextEscalationAt) batchSize db

/-- Update escalation state after escalation action. -/
def updateEscalation (now : Time) (id : Uuid) (newEscalationCount : Int32)
    (nextEscalationAt : Option Time) : Update NotificationRow where
  where_ r := r.id = id
  set :=
    { set r :=
        { r with
          escalationCount := newEscalationCount
          nextEscalationAt := nextEscalationAt
          updatedAt := now }
      keys_set _ := rfl
      check_set _ h := h }

/-- Resurface a notification by setting it back to unseen. -/
def resurfaceNotification (now : Time) (id : Uuid) : Update NotificationRow where
  where_ r := r.id = id
  set :=
    { set r := { r with state := "unseen", seenAt := none, updatedAt := now }
      keys_set _ := rfl
      check_set _ _ := rfl }

/-- Bump a notification by updating its `updated_at` timestamp. -/
def bumpNotification (now : Time) (id : Uuid) : Update NotificationRow where
  where_ r := r.id = id
  set :=
    { set r := { r with updatedAt := now }
      keys_set _ := rfl
      check_set _ h := h }

/-! ## Statements -/

/-- The statements of the module, with their arguments. -/
inductive Query where
  | insertNotification (n : InsertNotification)
  | getNotification (id : Uuid)
  | listNotifications (userId : String) (states : List String) (serviceIds typeIds : List Uuid)
      (groupKey : Option String) (limit offset : Int64)
  | countUnseen (userId : String) (serviceIds : List Uuid)
  | countUnseenByService (userId : String)
  | countUnread (userId : String) (serviceIds : List Uuid)
  | countUnreadByService (userId : String)
  | markSeen (userId : String) (ids : List Uuid)
  | markAllSeen (userId : String)
  | markRead (userId : String) (ids : List Uuid)
  | markUnread (userId : String) (ids : List Uuid)
  | snooze (userId : String) (id : Uuid) (until_ : Time)
  | archive (userId : String) (ids : List Uuid)
  | archiveAllInGroup (userId : String) (serviceId : Uuid)
  | unarchive (userId : String) (ids : List Uuid)
  | producerMarkRead (userId : String) (ids : List Uuid)
  | wakeSnoozed (batchSize : Int64)
  | expireNotifications (batchSize : Int64)
  | getEscalationDue (batchSize : Int64)
  | updateEscalation (id : Uuid) (newEscalationCount : Int32) (nextEscalationAt : Option Time)
  | resurfaceNotification (id : Uuid)
  | bumpNotification (id : Uuid)

/-- What a statement answers. -/
@[reducible] def Query.Resp : Query → Type
  | .insertNotification _ => NotificationRow
  | .getNotification _ => Option NotificationRow
  | .listNotifications .. => List NotificationRow
  | .countUnseen .. => Int64
  | .countUnseenByService _ => List (Uuid × Int64)
  | .countUnread .. => Int64
  | .countUnreadByService _ => List (Uuid × Int64)
  | .markSeen .. => ℕ
  | .markAllSeen _ => ℕ
  | .markRead .. => ℕ
  | .markUnread .. => ℕ
  | .snooze .. => ℕ
  | .archive .. => ℕ
  | .archiveAllInGroup .. => ℕ
  | .unarchive .. => ℕ
  | .producerMarkRead .. => ℕ
  | .wakeSnoozed _ => List NotificationRow
  | .expireNotifications _ => List NotificationRow
  | .getEscalationDue _ => List NotificationRow
  | .updateEscalation .. => Unit
  | .resurfaceNotification _ => Unit
  | .bumpNotification _ => Unit

/-- Run an UPDATE and answer how many rows it affected. -/
def execute (u : Update NotificationRow) : Statement ℕ := fun db =>
  .ok (u.affected db.notifications, { db with notifications := u.apply db.notifications })

/-- Run an UPDATE and answer nothing. -/
def executeUnit (u : Update NotificationRow) : Statement Unit := fun db =>
  .ok ((), { db with notifications := u.apply db.notifications })

/-- Run a statement. -/
def Query.exec (env : Env) : (q : Query) → Statement q.Resp
  | .insertNotification n => Notifications.insertNotification env n
  | .getNotification id => fun db => .ok (Notifications.getNotification id db, db)
  | .listNotifications userId states serviceIds typeIds groupKey limit offset => fun db =>
    (Notifications.listNotifications env userId states serviceIds typeIds groupKey limit offset
      db).map fun rows => (rows, db)
  | .countUnseen userId serviceIds => fun db =>
    .ok (Notifications.countUnseen userId serviceIds db, db)
  | .countUnseenByService userId => fun db =>
    .ok (Notifications.countUnseenByService env userId db, db)
  | .countUnread userId serviceIds => fun db =>
    .ok (Notifications.countUnread userId serviceIds db, db)
  | .countUnreadByService userId => fun db =>
    .ok (Notifications.countUnreadByService env userId db, db)
  | .markSeen userId ids => execute (Notifications.markSeen env.now userId ids)
  | .markAllSeen userId => execute (Notifications.markAllSeen env.now userId)
  | .markRead userId ids => execute (Notifications.markRead env.now userId ids)
  | .markUnread userId ids => execute (Notifications.markUnread env.now userId ids)
  | .snooze userId id until_ => execute (Notifications.snooze env.now userId id until_)
  | .archive userId ids => execute (Notifications.archive env.now userId ids)
  | .archiveAllInGroup userId serviceId =>
    execute (Notifications.archiveAllInGroup env.now userId serviceId)
  | .unarchive userId ids => execute (Notifications.unarchive env.now userId ids)
  | .producerMarkRead userId ids => execute (Notifications.producerMarkRead env.now userId ids)
  | .wakeSnoozed batchSize => Notifications.wakeSnoozed env batchSize
  | .expireNotifications batchSize => Notifications.expireNotifications env batchSize
  | .getEscalationDue batchSize => fun db =>
    (Notifications.getEscalationDue env batchSize db).map fun rows => (rows, db)
  | .updateEscalation id newEscalationCount nextEscalationAt =>
    executeUnit (Notifications.updateEscalation env.now id newEscalationCount nextEscalationAt)
  | .resurfaceNotification id => executeUnit (Notifications.resurfaceNotification env.now id)
  | .bumpNotification id => executeUnit (Notifications.bumpNotification env.now id)

end Estafeta.Db.Notifications
