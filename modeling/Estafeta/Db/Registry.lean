import Mathlib.Data.String.Basic
import Estafeta.Db.Tables

/-!
# Registry statements

The statements of `db/services.rs` and `db/schemas.rs`.
-/

open Relational

namespace Estafeta.Db

namespace Services

def insertService (env : Env) (slug displayName : String) (description : Option String) :
    Statement ServiceRow := fun db =>
  let row : ServiceRow :=
    { id := env.uuid
      slug
      displayName
      description
      enabled := true
      createdAt := env.now
      updatedAt := env.now }
  (insertRow db.services row true).map fun t => (row, { db with services := t })

def getServiceBySlug (slug : String) (db : Db) : Option ServiceRow :=
  db.services.lookup (.slug slug)

def listServices (env : Env) (limit offset : Int64) (db : Db) : Except DbError (List ServiceRow) :=
  page limit offset <| sortOn (fun r => -r.createdAt) (fun r => env.rank r.id) db.services.rows

def updateService (env : Env) (slug displayName : String) (description : Option String) :
    Statement ServiceRow := fun db =>
  (updateRow db.services (.slug slug)
    { set r := { r with displayName, description, updatedAt := env.now }
      keys_set _ := rfl
      check_set _ h := h }).map fun (r, t) => (r, { db with services := t })

def setServiceEnabled (env : Env) (slug : String) (enabled : Bool) : Statement Unit := fun db =>
  .ok ((), { db with
    services := db.services.update (fun r => r.slug = slug)
      { set r := { r with enabled, updatedAt := env.now }
        keys_set _ := rfl
        check_set _ h := h } })

def countServices (db : Db) : Int64 := Int64.ofNat db.services.rows.length

/-- The statements of the module, with their arguments. -/
inductive Query where
  | insertService (slug displayName : String) (description : Option String)
  | getServiceBySlug (slug : String)
  | listServices (limit offset : Int64)
  | updateService (slug displayName : String) (description : Option String)
  | setServiceEnabled (slug : String) (enabled : Bool)
  | countServices

/-- What a statement answers. -/
@[reducible] def Query.Resp : Query → Type
  | .insertService .. => ServiceRow
  | .getServiceBySlug _ => Option ServiceRow
  | .listServices .. => List ServiceRow
  | .updateService .. => ServiceRow
  | .setServiceEnabled .. => Unit
  | .countServices => Int64

/-- Run a statement. -/
def Query.exec (env : Env) : (q : Query) → Statement q.Resp
  | .insertService slug displayName description =>
    Services.insertService env slug displayName description
  | .getServiceBySlug slug => fun db => .ok (Services.getServiceBySlug slug db, db)
  | .listServices limit offset => fun db =>
    (Services.listServices env limit offset db).map fun rows => (rows, db)
  | .updateService slug displayName description =>
    Services.updateService env slug displayName description
  | .setServiceEnabled slug enabled => Services.setServiceEnabled env slug enabled
  | .countServices => fun db => .ok (Services.countServices db, db)

end Services

namespace Schemas

def insertNotificationType (env : Env) (serviceId : Uuid) (typeKey displayName : String)
    (description : Option String) (jsonSchema : Json)
    (defaultTtlSeconds escalationIntervalSeconds : Option Int32) (maxEscalations : Int32)
    (escalationAction : String) (defaultIcon : Option String) : Statement NotificationTypeRow :=
  fun db =>
    let row : NotificationTypeRow :=
      { id := env.uuid
        serviceId
        typeKey
        displayName
        description
        jsonSchema
        defaultTtlSeconds
        escalationIntervalSeconds
        maxEscalations
        escalationAction
        defaultIcon
        enabled := true
        createdAt := env.now
        updatedAt := env.now }
    (insertRow db.notificationTypes row (db.services.lookup (.id serviceId)).isSome).map fun t =>
      (row, { db with notificationTypes := t })

def updateNotificationType (env : Env) (serviceId : Uuid) (typeKey displayName : String)
    (description : Option String) (jsonSchema : Json)
    (defaultTtlSeconds escalationIntervalSeconds : Option Int32) (maxEscalations : Int32)
    (escalationAction : String) (defaultIcon : Option String) (enabled : Bool) :
    Statement NotificationTypeRow := fun db =>
  (updateRow db.notificationTypes (.typeKey serviceId typeKey)
    { set r :=
        { r with
          displayName
          description
          jsonSchema
          defaultTtlSeconds
          escalationIntervalSeconds
          maxEscalations
          escalationAction
          defaultIcon
          enabled
          updatedAt := env.now }
      keys_set _ := rfl
      check_set _ h := h }).map fun (r, t) => (r, { db with notificationTypes := t })

def getNotificationType (serviceId : Uuid) (typeKey : String) (db : Db) :
    Option NotificationTypeRow :=
  db.notificationTypes.lookup (.typeKey serviceId typeKey)

def getNotificationTypeById (id : Uuid) (db : Db) : Option NotificationTypeRow :=
  db.notificationTypes.lookup (.id id)

def listNotificationTypes (env : Env) (serviceId : Uuid) (limit offset : Int64) (db : Db) :
    Except DbError (List NotificationTypeRow) :=
  page limit offset <| sortOn (fun r => env.collationKey r.typeKey) (fun r => env.rank r.id) <|
    db.notificationTypes.select fun r => r.serviceId = serviceId

def insertNotificationLevel (env : Env) (serviceId : Uuid) (key displayName : String)
    (severity : Int32) (color icon : Option String) : Statement NotificationLevelRow := fun db =>
  let row : NotificationLevelRow :=
    { id := env.uuid, serviceId, key, displayName, severity, color, icon }
  (insertRow db.notificationLevels row (db.services.lookup (.id serviceId)).isSome).map fun t =>
    (row, { db with notificationLevels := t })

def updateNotificationLevel (serviceId : Uuid) (key displayName : String) (severity : Int32)
    (color icon : Option String) : Statement NotificationLevelRow := fun db =>
  (updateRow db.notificationLevels (.key serviceId key)
    { set r := { r with displayName, severity, color, icon }
      keys_set _ := rfl
      check_set _ h := h }).map fun (r, t) => (r, { db with notificationLevels := t })

def listNotificationLevels (env : Env) (serviceId : Uuid) (db : Db) : List NotificationLevelRow :=
  sortOn (fun r => -r.severity.toInt) (fun r => env.rank r.id) <|
    db.notificationLevels.select fun r => r.serviceId = serviceId

def getNotificationLevel (serviceId : Uuid) (key : String) (db : Db) :
    Option NotificationLevelRow :=
  db.notificationLevels.lookup (.key serviceId key)

/-- The statements of the module, with their arguments. -/
inductive Query where
  | insertNotificationType (serviceId : Uuid) (typeKey displayName : String)
      (description : Option String) (jsonSchema : Json)
      (defaultTtlSeconds escalationIntervalSeconds : Option Int32) (maxEscalations : Int32)
      (escalationAction : String) (defaultIcon : Option String)
  | updateNotificationType (serviceId : Uuid) (typeKey displayName : String)
      (description : Option String) (jsonSchema : Json)
      (defaultTtlSeconds escalationIntervalSeconds : Option Int32) (maxEscalations : Int32)
      (escalationAction : String) (defaultIcon : Option String) (enabled : Bool)
  | getNotificationType (serviceId : Uuid) (typeKey : String)
  | getNotificationTypeById (id : Uuid)
  | listNotificationTypes (serviceId : Uuid) (limit offset : Int64)
  | insertNotificationLevel (serviceId : Uuid) (key displayName : String) (severity : Int32)
      (color icon : Option String)
  | updateNotificationLevel (serviceId : Uuid) (key displayName : String) (severity : Int32)
      (color icon : Option String)
  | listNotificationLevels (serviceId : Uuid)
  | getNotificationLevel (serviceId : Uuid) (key : String)

/-- What a statement answers. -/
@[reducible] def Query.Resp : Query → Type
  | .insertNotificationType .. => NotificationTypeRow
  | .updateNotificationType .. => NotificationTypeRow
  | .getNotificationType .. => Option NotificationTypeRow
  | .getNotificationTypeById _ => Option NotificationTypeRow
  | .listNotificationTypes .. => List NotificationTypeRow
  | .insertNotificationLevel .. => NotificationLevelRow
  | .updateNotificationLevel .. => NotificationLevelRow
  | .listNotificationLevels _ => List NotificationLevelRow
  | .getNotificationLevel .. => Option NotificationLevelRow

/-- Run a statement. -/
def Query.exec (env : Env) : (q : Query) → Statement q.Resp
  | .insertNotificationType serviceId typeKey displayName description jsonSchema ttl interval
      maxEscalations action icon =>
    Schemas.insertNotificationType env serviceId typeKey displayName description jsonSchema ttl
      interval maxEscalations action icon
  | .updateNotificationType serviceId typeKey displayName description jsonSchema ttl interval
      maxEscalations action icon enabled =>
    Schemas.updateNotificationType env serviceId typeKey displayName description jsonSchema ttl
      interval maxEscalations action icon enabled
  | .getNotificationType serviceId typeKey => fun db =>
    .ok (Schemas.getNotificationType serviceId typeKey db, db)
  | .getNotificationTypeById id => fun db => .ok (Schemas.getNotificationTypeById id db, db)
  | .listNotificationTypes serviceId limit offset => fun db =>
    (Schemas.listNotificationTypes env serviceId limit offset db).map fun rows => (rows, db)
  | .insertNotificationLevel serviceId key displayName severity color icon =>
    Schemas.insertNotificationLevel env serviceId key displayName severity color icon
  | .updateNotificationLevel serviceId key displayName severity color icon =>
    Schemas.updateNotificationLevel serviceId key displayName severity color icon
  | .listNotificationLevels serviceId => fun db =>
    .ok (Schemas.listNotificationLevels env serviceId db, db)
  | .getNotificationLevel serviceId key => fun db =>
    .ok (Schemas.getNotificationLevel serviceId key db, db)

end Schemas

end Estafeta.Db
