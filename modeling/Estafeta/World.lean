import Mathlib.Logic.Function.Basic
import Estafeta.Lib.Prog
import Estafeta.Db.Notifications
import Estafeta.Db.Preferences
import Estafeta.Db.Registry

/-!
# Operations and their effects

The operations through which every part of the server meets its surroundings: a statement to the
database, a question to Keto, a clock reading, a fresh id, a message to or from NATS, an access to
one of the instance's caches. `exec` is the effect of one operation on the world; what the code
does not decide (failures, clocks, generated ids, Keto's replies, evictions) is a `Choice`.
-/

open Atomic

namespace Estafeta

/-- The third-party functions that the code calls. -/
structure Ext where
  /-- `Uuid::from_str` -/
  parseUuid : String → Option Uuid
  /-- `Uuid::to_string` -/
  showUuid : Uuid → String
  /-- `DateTime::from_timestamp` -/
  fromTimestamp : Int64 → UInt32 → Option Time
  /-- `jsonschema::validator_for`, and the messages of `iter_errors` -/
  validatorFor : Json → Except String (Json → List String)
  /-- `sqlx::Error` as text -/
  showDbError : DbError → String
  /-- the sort keys of the database's collation -/
  collationKey : String → String
  /-- the float that `serde_json` reads of the text it writes for a float -/
  floatText : FiniteF64 → FiniteF64

/-! ## Caches -/

/-- Cached notification type info used during ingestion and processing. -/
structure CachedNotificationType where
  id : Uuid
  serviceId : Uuid
  typeKey : String
  jsonSchema : Json
  defaultTtlSeconds : Option Int32
  escalationIntervalSeconds : Option Int32
  maxEscalations : Int32
  escalationAction : String
  defaultIcon : Option String
  enabled : Bool

/-- Cached notification level info. -/
structure CachedNotificationLevel where
  id : Uuid
  key : String
  severity : Int32

/-- A user's notification preferences for a specific service. -/
structure CachedServicePref where
  serviceId : Uuid
  enabled : Bool
  minSeverity : Option Int32

/-- A user's notification preferences for a specific notification type. -/
structure CachedTypePref where
  notificationTypeId : Uuid
  enabled : Bool

/-- A user-defined mute rule that suppresses matching notifications. -/
structure CachedMuteRule where
  serviceId : Option Uuid
  notificationTypeId : Option Uuid
  mutedUntil : Option Time

/-- Cached user preference resolution result. -/
structure CachedUserPrefs where
  globalEnabled : Bool
  servicePrefs : List CachedServicePref
  typePrefs : List CachedTypePref
  muteRules : List CachedMuteRule

/-- The caches of an instance. -/
inductive Cache where
  | notificationTypes
  | notificationLevels
  | userPrefs
  deriving DecidableEq

/-- What a cache holds under a key. -/
@[reducible] def Cache.Value : Cache → Type
  | .notificationTypes => CachedNotificationType
  | .notificationLevels => CachedNotificationLevel
  | .userPrefs => CachedUserPrefs

/-- The contents of the caches of an instance. -/
abbrev AppCaches := (c : Cache) → String → Option c.Value

/-- Build the composite cache key for a notification type lookup. -/
def notificationTypeKey (serviceSlug typeKey : String) : String := s!"{serviceSlug}:{typeKey}"

/-- Build the composite cache key for a notification level lookup. -/
def notificationLevelKey (serviceSlug levelKey : String) : String := s!"{serviceSlug}:{levelKey}"

/-! ## Operations -/

/-- A statement of one of the modules of `db/`. -/
inductive Sql where
  | notifications (q : Db.Notifications.Query)
  | muteRules (q : Db.MuteRules.Query)
  | preferences (q : Db.Preferences.Query)
  | schemas (q : Db.Schemas.Query)
  | services (q : Db.Services.Query)

/-- What a statement answers. -/
@[reducible] def Sql.Resp : Sql → Type
  | .notifications q => q.Resp
  | .muteRules q => q.Resp
  | .preferences q => q.Resp
  | .schemas q => q.Resp
  | .services q => q.Resp

/-- The instants of a request that a statement binds. Those that the server computes are within the
68 years of an `i32` of seconds from its clock, where every `TIMESTAMPTZ` fits. -/
def Sql.instants : Sql → List Time
  | .notifications (.snooze _ _ until_) => [until_]
  | .muteRules (.insertMuteRule _ _ _ mutedUntil) => mutedUntil.toList
  | _ => []

/-- Run a statement. -/
def Sql.exec (env : Env) : (q : Sql) → Statement q.Resp
  | .notifications q => q.exec env
  | .muteRules q => q.exec env
  | .preferences q => q.exec env
  | .schemas q => q.exec env
  | .services q => q.exec env

/-- A question to Keto. -/
structure CheckRequest where
  namespace_ : String
  object : String
  relation : String
  subjectId : String
  deriving DecidableEq

/-- Keto's reply: none at all, or a status with a body that may fail to parse. -/
inductive KetoReply where
  | unreachable
  | reply (status : ℕ) (body : Option Json)

/-- The payload of a message of the stream, as `serde_json::from_slice` reads it. -/
abbrev Payload := Except String IngestMessage

/-- The operations of the server. Those on caches name the instance they are performed on. -/
inductive Op where
  | sql (q : Sql)
  | keto (req : CheckRequest)
  | utcNow
  | newUuid
  | publishIngest (subject : String) (msg : IngestMessage)
  | publish (subject : String) (event : RealtimeEvent)
  | receive (seq : ℕ)
  | ack (seq : ℕ)
  | nak (seq : ℕ)
  | cacheGet (inst : ℕ) (cache : Cache) (key : String)
  | cacheInsert (inst : ℕ) (cache : Cache) (key : String) (value : cache.Value)
  | cacheInvalidate (inst : ℕ) (cache : Cache) (key : String)

/-- The answer to an operation. -/
@[reducible] def Op.Ans : Op → Type
  | .sql q => Except DbError q.Resp
  | .keto _ => KetoReply
  | .utcNow => Time
  | .newUuid => Uuid
  | .publishIngest .. => Except String Unit
  | .publish .. => Except String Unit
  | .receive _ => Option Payload
  | .ack _ => Except String Unit
  | .nak _ => Except String Unit
  | .cacheGet _ cache _ => Option cache.Value
  | .cacheInsert .. => Unit
  | .cacheInvalidate .. => Unit

/-! ## The world -/

/-- The state outside the server's threads: the database, the messages of the ingest stream by
sequence number, the messages acknowledged, the events published, and the caches by instance. -/
structure World where
  db : Db
  stream : List Payload
  acked : List ℕ
  published : List (String × RealtimeEvent)
  caches : ℕ → AppCaches

/-- What the surroundings decide about an operation. -/
structure Choice where
  now : Time
  uuid : Uuid
  rank : Uuid → ℕ
  /-- the error of a statement that fails -/
  failure : Option DbError
  /-- the error of a NATS call that fails -/
  unsent : Option String
  /-- whether the stream keeps a message although the call that published it fails -/
  stored : Bool
  keto : KetoReply
  /-- whether the entry that is looked up has left the cache -/
  evicted : Bool

/-- Nothing fails, and rows are ordered by their ids. -/
def Choice.calm : Choice where
  now := 0
  uuid := 0
  rank id := id.toNat
  failure := none
  unsent := none
  stored := false
  keto := .unreachable
  evicted := false

theorem Choice.calm_injective : Choice.calm.rank.Injective := fun _ _ same =>
  BitVec.eq_of_toNat_eq same

/-- What the database server decides about a statement. -/
def Choice.env (ext : Ext) (x : Choice) : Env where
  now := x.now
  uuid := x.uuid
  rank := x.rank
  collationKey := ext.collationKey

/-- The answer of a NATS call. -/
def Choice.sent (x : Choice) : Except String Unit :=
  match x.unsent with
  | some e => .error e
  | none => .ok ()

/-- The world after the caches of an instance have changed. -/
def World.setCache (w : World) (inst : ℕ) (c : Cache) (key : String) (v : Option c.Value) : World :=
  { w with
    caches := Function.update w.caches inst
      (Function.update (w.caches inst) c (Function.update (w.caches inst c) key v)) }

theorem World.setCache_get (w : World) (inst i : ℕ) (c c' : Cache) (key key' : String)
    (v : Option c.Value) :
    (w.setCache inst c key v).caches i c' key' =
      if h : i = inst ∧ c' = c ∧ key' = key then h.2.1 ▸ v else w.caches i c' key' := by
  simp only [World.setCache]
  by_cases hi : i = inst
  · subst hi
    by_cases hc : c' = c
    · subst hc
      by_cases hk : key' = key
      · subst hk
        simp
      · simp [hk]
    · simp [hc]
  · simp [hi]

/-- The effect of a statement: one that fails has none, and one that binds an instant which the
database has no value for fails. -/
def execSql (ext : Ext) (x : Choice) (q : Sql) (w : World) : Except DbError q.Resp × World :=
  match x.failure with
  | some e => (.error e, w)
  | none =>
    if q.instants.all inTimestamptz then
      match q.exec (x.env ext) w.db with
      | .error e => (.error e, w)
      | .ok (a, db) => (.ok a, { w with db := db })
    else (.error .datetimeOverflow, w)

/-- The effect of an operation. -/
def exec (ext : Ext) (x : Choice) : (o : Op) → World → o.Ans × World
  | .sql q, w => execSql ext x q w
  | .keto _, w => (x.keto, w)
  | .utcNow, w => (x.now, w)
  | .newUuid, w => (x.uuid, w)
  | .publishIngest _ msg, w =>
    (x.sent,
      if x.unsent.isNone || x.stored then
        { w with stream := w.stream ++ [.ok (msg.reread ext.floatText)] }
      else w)
  | .publish subject event, w =>
    (x.sent,
      if x.unsent.isNone then { w with published := w.published ++ [(subject, event)] } else w)
  | .receive seq, w => (w.stream[seq]?, w)
  | .ack seq, w => (x.sent, if x.unsent.isNone then { w with acked := seq :: w.acked } else w)
  | .nak _, w => (x.sent, w)
  | .cacheGet inst c key, w => (if x.evicted then none else w.caches inst c key, w)
  | .cacheInsert inst c key v, w => ((), w.setCache inst c key (some v))
  | .cacheInvalidate inst c key, w => ((), w.setCache inst c key none)

/-! ## Performing operations -/

/-- Programs of the server that may end with an error of type `ε`. -/
abbrev Program (ε α : Type) := Prog Op Op.Ans ε α

/-- Perform an operation. -/
def perform {ε : Type} (o : Op) : Program ε o.Ans := .call o .ret

/-- `Utc::now`. -/
def utcNow {ε : Type} : Program ε Time := .call .utcNow .ret

/-- `Utc::now() + Duration::seconds(s)`. -/
def fromNow {ε : Type} (s : Int32) : Program ε Time := do
  return (← utcNow) + Duration.seconds s

/-- `Uuid::new_v4`. -/
def newUuid {ε : Type} : Program ε Uuid := .call .newUuid .ret

/-- Run a statement. -/
def query (q : Sql) : Program DbError q.Resp := .call (.sql q) Prog.ofExcept

/-- Run a statement whose failure a handler reports as an internal error. -/
def Ext.query (ext : Ext) (q : Sql) : Program Status q.Resp :=
  (Estafeta.query q).mapErr fun e => Status.internal s!"db error: {ext.showDbError e}"

/-- Run a statement whose failure a background task passes on. -/
def Ext.run (ext : Ext) (q : Sql) : Program String q.Resp :=
  (Estafeta.query q).mapErr ext.showDbError

end Estafeta
