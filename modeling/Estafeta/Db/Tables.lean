import Estafeta.Lib.Table
import Estafeta.Messages

/-!
# The database

The rows of every table of the migrations, with the unique keys, CHECK constraints and foreign keys
that the migrations give them, and the common parts of the statements of `db/`. A statement either
fails, and then has no effect, or answers and changes the database.
-/

open Relational

namespace Estafeta

/-! ## Rows -/

structure ServiceRow where
  id : Uuid
  slug : String
  displayName : String
  description : Option String
  enabled : Bool
  createdAt : Time
  updatedAt : Time

structure NotificationTypeRow where
  id : Uuid
  serviceId : Uuid
  typeKey : String
  displayName : String
  description : Option String
  jsonSchema : Json
  defaultTtlSeconds : Option Int32
  escalationIntervalSeconds : Option Int32
  maxEscalations : Int32
  escalationAction : String
  defaultIcon : Option String
  enabled : Bool
  createdAt : Time
  updatedAt : Time

structure NotificationLevelRow where
  id : Uuid
  serviceId : Uuid
  key : String
  displayName : String
  severity : Int32
  color : Option String
  icon : Option String

structure NotificationRow where
  id : Uuid
  serviceId : Uuid
  notificationTypeId : Uuid
  levelId : Option Uuid
  recipientUserId : String
  state : String
  payload : Json
  groupKey : Option String
  idempotencyKey : Option String
  metadata : Json
  snoozedUntil : Option Time
  expiresAt : Option Time
  nextEscalationAt : Option Time
  escalationCount : Int32
  seenAt : Option Time
  readAt : Option Time
  actionUrl : Option String
  icon : Option String
  createdAt : Time
  updatedAt : Time

structure UserPreferenceRow where
  id : Uuid
  userId : String
  globalEnabled : Bool
  catchUpMode : String
  sortMode : String
  createdAt : Time
  updatedAt : Time

structure UserServicePreferenceRow where
  id : Uuid
  userId : String
  serviceId : Uuid
  enabled : Bool
  minSeverity : Option Int32

structure UserTypePreferenceRow where
  id : Uuid
  userId : String
  notificationTypeId : Uuid
  enabled : Bool

structure MuteRuleRow where
  id : Uuid
  userId : String
  serviceId : Option Uuid
  notificationTypeId : Option Uuid
  mutedUntil : Option Time
  createdAt : Time

structure GlobalPolicyRow where
  id : Uuid
  maxNotificationsPerUserPerHour : Int32
  maxTtlSeconds : Int32
  maxEscalations : Int32
  rateLimitPerServicePerSecond : Int32
  createdAt : Time
  updatedAt : Time

/-! ## Constraints -/

/-- Primary key and `UNIQUE (slug)`. -/
inductive ServiceKey where
  | id (id : Uuid)
  | slug (slug : String)
  deriving DecidableEq

instance : Schema ServiceRow where
  Key := ServiceKey
  decEqKey := inferInstance
  keys r := [.id r.id, .slug r.slug]
  check _ := true

/-- Primary key and `UNIQUE (service_id, type_key)`. -/
inductive NotificationTypeKey where
  | id (id : Uuid)
  | typeKey (serviceId : Uuid) (typeKey : String)
  deriving DecidableEq

instance : Schema NotificationTypeRow where
  Key := NotificationTypeKey
  decEqKey := inferInstance
  keys r := [.id r.id, .typeKey r.serviceId r.typeKey]
  check _ := true

/-- Primary key and `UNIQUE (service_id, key)`. -/
inductive NotificationLevelKey where
  | id (id : Uuid)
  | key (serviceId : Uuid) (key : String)
  deriving DecidableEq

instance : Schema NotificationLevelRow where
  Key := NotificationLevelKey
  decEqKey := inferInstance
  keys r := [.id r.id, .key r.serviceId r.key]
  check _ := true

/-- Primary key and the partial unique index `idx_notifications_idempotency`. -/
inductive NotificationKey where
  | id (id : Uuid)
  | idempotency (key : String)
  deriving DecidableEq

/-- The values that the CHECK constraint on `state` allows. -/
def stateNames : List String := ["unseen", "unread", "read", "snoozed", "archived", "expired"]

instance : Schema NotificationRow where
  Key := NotificationKey
  decEqKey := inferInstance
  keys r := .id r.id :: (r.idempotencyKey.map .idempotency).toList
  check r := r.state ∈ stateNames

/-- Primary key and `UNIQUE` on `user_id`. -/
inductive UserPreferenceKey where
  | id (id : Uuid)
  | userId (userId : String)
  deriving DecidableEq

instance : Schema UserPreferenceRow where
  Key := UserPreferenceKey
  decEqKey := inferInstance
  keys r := [.id r.id, .userId r.userId]
  check _ := true

/-- Primary key and `UNIQUE (user_id, service_id)`. -/
inductive UserServicePreferenceKey where
  | id (id : Uuid)
  | service (userId : String) (serviceId : Uuid)
  deriving DecidableEq

instance : Schema UserServicePreferenceRow where
  Key := UserServicePreferenceKey
  decEqKey := inferInstance
  keys r := [.id r.id, .service r.userId r.serviceId]
  check _ := true

/-- Primary key and `UNIQUE (user_id, notification_type_id)`. -/
inductive UserTypePreferenceKey where
  | id (id : Uuid)
  | type (userId : String) (notificationTypeId : Uuid)
  deriving DecidableEq

instance : Schema UserTypePreferenceRow where
  Key := UserTypePreferenceKey
  decEqKey := inferInstance
  keys r := [.id r.id, .type r.userId r.notificationTypeId]
  check _ := true

theorem userId_mem_keys {r : UserPreferenceRow} {userId : String} :
    UserPreferenceKey.userId userId ∈ Schema.keys r ↔ r.userId = userId := by
  show UserPreferenceKey.userId userId ∈ [.id r.id, .userId r.userId] ↔ _
  simp [eq_comm]

theorem service_mem_keys {r : UserServicePreferenceRow} {userId : String} {serviceId : Uuid} :
    UserServicePreferenceKey.service userId serviceId ∈ Schema.keys r ↔
      r.userId = userId ∧ r.serviceId = serviceId := by
  show UserServicePreferenceKey.service userId serviceId ∈ [.id r.id, .service r.userId r.serviceId]
    ↔ _
  simp [eq_comm]

theorem type_mem_keys {r : UserTypePreferenceRow} {userId : String} {notificationTypeId : Uuid} :
    UserTypePreferenceKey.type userId notificationTypeId ∈ Schema.keys r ↔
      r.userId = userId ∧ r.notificationTypeId = notificationTypeId := by
  show UserTypePreferenceKey.type userId notificationTypeId ∈
    [.id r.id, .type r.userId r.notificationTypeId] ↔ _
  simp [eq_comm]

instance : Schema MuteRuleRow where
  Key := Uuid
  decEqKey := inferInstance
  keys r := [r.id]
  check _ := true

instance : Schema GlobalPolicyRow where
  Key := Uuid
  decEqKey := inferInstance
  keys r := [r.id]
  check _ := true

/-- The database. -/
structure Db where
  services : Table ServiceRow
  notificationTypes : Table NotificationTypeRow
  notificationLevels : Table NotificationLevelRow
  notifications : Table NotificationRow
  userPreferences : Table UserPreferenceRow
  userServicePreferences : Table UserServicePreferenceRow
  userTypePreferences : Table UserTypePreferenceRow
  muteRules : Table MuteRuleRow
  globalPolicies : Table GlobalPolicyRow
  deriving Inhabited

/-! ## Statements -/

/-- `sqlx::Error`, as far as the statements of the model tell their failures apart. -/
inductive DbError where
  | uniqueViolation
  | checkViolation
  | foreignKeyViolation
  | negativeLimit
  | datetimeOverflow
  | rowNotFound
  | unavailable
  deriving DecidableEq

/-- The instants that a `TIMESTAMPTZ` holds: from 4713 BC to the end of the year 294276. -/
def inTimestamptz (t : Time) : Bool := -210866803200000000 ≤ t && t < 9224318016000000000

/-- What the database server decides about a statement: `now()`, the value of
`gen_random_uuid()`, the order of rows that no ORDER BY clause orders, and the sort key that its
collation gives a text. -/
structure Env where
  now : Time
  uuid : Uuid
  rank : Uuid → ℕ
  collationKey : String → String

/-- A statement fails, or answers and changes the database. -/
abbrev Statement (α : Type) := Db → Except DbError (α × Db)

/-- An UPDATE of one table: its WHERE and its SET clause. -/
structure Update (ρ : Type) [Schema ρ] where
  where_ : ρ → Bool
  set : Assign ρ

/-- The table after an UPDATE. -/
def Update.apply {ρ : Type} [Schema ρ] (u : Update ρ) (t : Table ρ) : Table ρ :=
  t.update u.where_ u.set

/-- `rows_affected` of an UPDATE. -/
def Update.affected {ρ : Type} [Schema ρ] (u : Update ρ) (t : Table ρ) : ℕ :=
  (t.select u.where_).length

theorem map_eq_ok {ε α β : Type} {f : α → β} {x : Except ε α} {b : β} :
    x.map f = .ok b ↔ ∃ a, x = .ok a ∧ f a = b := by
  cases x <;> simp [Except.map]

/-- The database's error for a rejected row. -/
def DbError.ofViolation : Violation → DbError
  | .unique => .uniqueViolation
  | .check => .checkViolation

/-- INSERT a row; the foreign keys are checked when the row has been stored. -/
def insertRow {ρ : Type} [Schema ρ] (t : Table ρ) (r : ρ) (references : Bool) :
    Except DbError (Table ρ) :=
  match t.insert r with
  | .error v => .error (.ofViolation v)
  | .ok t => if references then .ok t else .error .foreignKeyViolation

/-- INSERT .. ON CONFLICT (k) DO UPDATE .. RETURNING *. -/
def upsertRow {ρ : Type} [Schema ρ] (t : Table ρ) (k : Schema.Key ρ) (r : ρ) (f : Assign ρ)
    (references : Bool) : Except DbError (ρ × Table ρ) :=
  match t.lookup k with
  | some s => .ok (f.set s, t.update (fun s => k ∈ Schema.keys s) f)
  | none => (insertRow t r references).map fun t => (r, t)

/-- UPDATE .. WHERE the row has the key `k` RETURNING *, fetching one row. -/
def updateRow {ρ : Type} [Schema ρ] (t : Table ρ) (k : Schema.Key ρ) (f : Assign ρ) :
    Except DbError (ρ × Table ρ) :=
  match t.lookup k with
  | some s => .ok (f.set s, t.update (fun s => k ∈ Schema.keys s) f)
  | none => .error .rowNotFound

/-- LIMIT and OFFSET of a result. -/
def page {α : Type} (limit offset : Int64) (rows : List α) : Except DbError (List α) :=
  if limit < 0 ∨ offset < 0 then .error .negativeLimit
  else .ok ((rows.drop offset.toNatClampNeg).take limit.toNatClampNeg)

/-- COUNT(*) GROUP BY `group`, the groups in the order of `rank`. -/
def countBy {α : Type} (rank : Uuid → ℕ) (group : α → Uuid) (rows : List α) :
    List (Uuid × Int64) :=
  (sortOn (fun _ => 0) rank (rows.map group).dedup).map fun g =>
    (g, Int64.ofNat (rows.countP fun r => group r = g))

/-- `= ANY($n)` on an array that is NULL when the caller has no filter. -/
def anyOf {α : Type} [DecidableEq α] (filter : List α) (a : α) : Bool := filter.isEmpty || a ∈ filter

end Estafeta
