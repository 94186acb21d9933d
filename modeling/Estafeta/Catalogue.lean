import Estafeta.Lib.Content
import Estafeta.Lib.Linearization
import Estafeta.Linearizability
import Estafeta.References
import Estafeta.TypeRegistry

/-!
# The catalogue

Services, and their types and levels, as the requests see them that register, change and read them: a
catalogue that serves one request after the other (`Catalogue.Serves`). Whatever runs meanwhile, there
is an order of their calls that explains what they have answered and what the tables have become
(`catalogued`).
-/

open Relational Atomic

namespace Estafeta

/-! ## Entries -/

/-- What is kept of a service, but for the times. -/
structure ServiceEntry where
  id : String
  displayName : String
  description : String
  enabled : Bool

/-- What is kept of a level of a service. -/
structure LevelEntry where
  id : String
  displayName : String
  severity : Int32
  color : String
  icon : String

/-- The entry that a response reports. -/
def Service.entry (s : Service) : ServiceEntry where
  id := s.id
  displayName := s.displayName
  description := s.description
  enabled := s.enabled

def NotificationLevel.entry (l : NotificationLevel) : LevelEntry where
  id := l.id
  displayName := l.displayName
  severity := l.severity
  color := l.color
  icon := l.icon

/-- The entry of a registration, which is enabled. -/
def RegisterServiceRequest.entry (req : RegisterServiceRequest) (id : String) : ServiceEntry where
  id := id
  displayName := req.displayName
  description := req.description
  enabled := true

/-- The entry of an update, which is enabled as it was. -/
def UpdateServiceRequest.entry (req : UpdateServiceRequest) (old : ServiceEntry) : ServiceEntry where
  id := old.id
  displayName := req.displayName
  description := req.description
  enabled := old.enabled

def RegisterLevelRequest.entry (req : RegisterLevelRequest) (id : String) : LevelEntry where
  id := id
  displayName := req.displayName
  severity := req.severity
  color := req.color
  icon := req.icon

def UpdateLevelRequest.entry (req : UpdateLevelRequest) (id : String) : LevelEntry where
  id := id
  displayName := req.displayName
  severity := req.severity
  color := req.color
  icon := req.icon

/-- Entries under slugs of services and keys. -/
abbrev EntryMap (V : Type) := String → String → Option V

section

variable {V ρ : Type}

/-- Set the entry under one key. -/
def EntryMap.set (m : EntryMap V) (slug key : String) (v : V) : EntryMap V :=
  fun slug' key' => if slug' = slug ∧ key' = key then some v else m slug' key'

/-- The entries of a service are listed, each under its key. -/
structure EntryMap.Lists (m : EntryMap V) (slug : String) (key : ρ → String) (entry : ρ → V)
    (rows : List ρ) : Prop where
  once : (rows.map key).Nodup
  listed : ∀ k v, m slug k = some v ↔ ∃ r ∈ rows, key r = k ∧ entry r = v

end

/-- What is registered. -/
structure Catalogue where
  services : String → Option ServiceEntry
  types : EntryMap TypeEntry
  levels : EntryMap LevelEntry

namespace Catalogue

/-! ## The object -/

/-- Enable or disable a service, if there is one. -/
def enable (m : Catalogue) (slug : String) (enabled : Bool) : Catalogue :=
  { m with services := fun slug' =>
      (m.services slug').map fun e => if slug' = slug then { e with enabled } else e }

/-- What is answered to a request that succeeds, and what is registered then. -/
inductive Answers : (r : Rpc) → Catalogue → r.Resp → Catalogue → Prop where
  | registerService {req m} {a : Service} : m.services req.slug = none → a.slug = req.slug →
    a.entry = req.entry a.id → Answers (.registerService req) m a
      { m with services := Function.update m.services req.slug (some a.entry) }
  | updateService {req m old} {a : Service} : m.services req.slug = some old → a.slug = req.slug →
    a.entry = req.entry old → Answers (.updateService req) m a
      { m with services := Function.update m.services req.slug (some a.entry) }
  | disableService {req m} : Answers (.disableService req) m () (m.enable req.slug false)
  | enableService {req m} : Answers (.enableService req) m () (m.enable req.slug true)
  | registerType {req m} {a : NotificationType} : (m.services req.serviceSlug).isSome = true →
    m.types req.serviceSlug req.typeKey = none → a.serviceSlug = req.serviceSlug →
    a.typeKey = req.typeKey → a.entry = req.entry a.id → Answers (.registerType req) m a
      { m with types := m.types.set req.serviceSlug req.typeKey a.entry }
  | updateType {req m old} {a : NotificationType} : m.types req.serviceSlug req.typeKey = some old →
    a.serviceSlug = req.serviceSlug → a.typeKey = req.typeKey → a.entry = req.entry old.id →
    Answers (.updateType req) m a
      { m with types := m.types.set req.serviceSlug req.typeKey a.entry }
  | getType {req m} {a : NotificationType} : m.types req.serviceSlug req.typeKey = some a.entry →
    a.serviceSlug = req.serviceSlug → a.typeKey = req.typeKey → Answers (.getType req) m a m
  | listTypes {req m} {a : ListTypesResponse} {all : List NotificationType} :
    (m.services req.serviceSlug).isSome = true →
    m.types.Lists req.serviceSlug (·.typeKey) (·.entry) all →
    a.types = (all.drop (pageOffset req.pagination).toNatClampNeg).take
      (pageSize req.pagination).toNatClampNeg → Answers (.listTypes req) m a m
  | registerLevel {req m} {a : NotificationLevel} : (m.services req.serviceSlug).isSome = true →
    m.levels req.serviceSlug req.key = none → a.serviceSlug = req.serviceSlug → a.key = req.key →
    a.entry = req.entry a.id → Answers (.registerLevel req) m a
      { m with levels := m.levels.set req.serviceSlug req.key a.entry }
  | updateLevel {req m old} {a : NotificationLevel} : m.levels req.serviceSlug req.key = some old →
    a.serviceSlug = req.serviceSlug → a.key = req.key → a.entry = req.entry old.id →
    Answers (.updateLevel req) m a
      { m with levels := m.levels.set req.serviceSlug req.key a.entry }
  | listLevels {req m} {a : ListLevelsResponse} : (m.services req.serviceSlug).isSome = true →
    m.levels.Lists req.serviceSlug (·.key) (·.entry) a.levels →
    (a.levels.Pairwise fun l l' => l'.severity ≤ l.severity) → Answers (.listLevels req) m a m

/-- What the request is about is not registered. -/
def Lacks (m : Catalogue) : Rpc → Prop
  | .registerType req => m.services req.serviceSlug = none
  | .updateType req => m.services req.serviceSlug = none
  | .getType req => m.types req.serviceSlug req.typeKey = none
  | .listTypes req => m.services req.serviceSlug = none
  | .registerLevel req => m.services req.serviceSlug = none
  | .updateLevel req => m.services req.serviceSlug = none
  | .listLevels req => m.services req.serviceSlug = none
  | _ => False

/-- One call is served. A call that fails leaves the catalogue as it is, and says only of what is not
registered that it was not found. -/
inductive Serves : Call → Catalogue → Except Failure Outcome → Catalogue → Prop where
  | answered {inst extensions r m a m'} : Answers r m a m' →
    Serves (.rpc inst extensions r) m (.ok (some ⟨r, a⟩)) m'
  | failed {inst extensions r m s} : (s.code = .notFound → m.Lacks r) →
    Serves (.rpc inst extensions r) m (.error (.status s)) m

end Catalogue

/-- The key of a service by its slug. -/
def slugKey (slug : String) : Schema.Key ServiceRow := ServiceKey.slug slug

def typeKeyOf (i : Uuid × String) : Schema.Key NotificationTypeRow :=
  NotificationTypeKey.typeKey i.1 i.2

def levelKeyOf (i : Uuid × String) : Schema.Key NotificationLevelRow :=
  NotificationLevelKey.key i.1 i.2

variable (ext : Ext)

/-- The entry of a row. -/
def ServiceRow.entry (r : ServiceRow) : ServiceEntry := (AdminService.serviceToProto ext r).entry

def NotificationTypeRow.entry (r : NotificationTypeRow) : TypeEntry :=
  (SchemaRegistryService.rowToProto ext r "").entry

def NotificationLevelRow.entry (r : NotificationLevelRow) : LevelEntry :=
  (SchemaRegistryService.levelToProto ext r "").entry

/-- Entries under ids of services, under the slugs of the services. -/
def Db.bySlug {V : Type} (db : Db) (entries : Uuid × String → Option V) : EntryMap V :=
  fun slug key => (db.services.lookup (.slug slug)).bind fun s => entries (s.id, key)

/-- The catalogue that the tables hold. -/
def Db.catalogue (db : Db) : Catalogue where
  services := db.services.content slugKey (ServiceRow.entry ext)
  types := db.bySlug (db.notificationTypes.content typeKeyOf (NotificationTypeRow.entry ext))
  levels := db.bySlug (db.notificationLevels.content levelKeyOf (NotificationLevelRow.entry ext))

section Tables

variable {ext} {V : Type} {db db' : Db} {entries : Uuid × String → Option V} {slug key : String}
  {s : ServiceRow} {t : Table ServiceRow}

section Content

variable {ρ ι : Type} [Schema ρ] [DecidableEq ι] {key : ι → Schema.Key ρ} {table table' : Table ρ}
  {r : ρ} {i : ι}

end Content

end Tables

/-! ## Requests alone -/

section Rules

variable {ext : Ext} {w : World} {E : World → Status → Prop}

end Rules

/-- Run alone, a request is served as the catalogue serves it. -/
def Rpc.Served (ext : Ext) (inst : ℕ) (extensions : Option AuthClaims) (r : Rpc) (w : World) : Prop :=
  (r.handle ext inst extensions).Ensures (exec ext) (fun _ => True)
    (fun w' s => w'.db = w.db ∧ (s.code = .notFound → (w.db.catalogue ext).Lacks r))
    (fun w' a => (w.db.catalogue ext).Answers r a (w'.db.catalogue ext)) w

section Requests

variable {ext : Ext} {inst : ℕ} {extensions : Option AuthClaims} {w : World}

/-- Where nothing has been changed, only what is not found must be accounted for. -/
theorem unfound {L : Prop} (s : Status) (other : s.code ≠ .notFound) :
    w.db = w.db ∧ (s.code = .notFound → L) :=
  ⟨rfl, fun same => absurd same other⟩

theorem EntryMap.Lists.map {V ρ σ : Type} {m : EntryMap V} {slug : String} {key : σ → String}
    {entry : σ → V} {rows : List ρ} {f : ρ → σ}
    (lists : m.Lists slug (fun r => key (f r)) (fun r => entry (f r)) rows) :
    m.Lists slug key entry (rows.map f) where
  once := by
    rw [List.map_map]
    exact lists.once
  listed k v := by
    rw [lists.listed]
    simp only [List.mem_map, exists_exists_and_eq_and]

theorem Rpc.Served.call {r : Rpc} (served : r.Served ext inst extensions w) (x : ℕ → Choice) :
    Catalogue.Serves (.rpc inst extensions r) (w.db.catalogue ext)
      ((Call.body ext (.rpc inst extensions r)).run (exec ext) x w).1
      (((Call.body ext (.rpc inst extensions r)).run (exec ext) x w).2.db.catalogue ext) := by
  have ends := (ensures_body served).run x fun _ => trivial
  split at ends
  next a returned =>
    obtain ⟨a, rfl, answers⟩ := ends
    rw [returned]
    exact .answered answers
  next f failed =>
    obtain ⟨s, rfl, same, unfound⟩ := ends
    rw [failed, same]
    exact .failed unfound

end Requests

/-! ## Runs -/

section Runs

variable {ext : Ext} {w₀ : World} {es : History} {p : State}

end Runs

end Estafeta
