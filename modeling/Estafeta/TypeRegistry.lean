import Estafeta.Fidelity
import Estafeta.Registrations
import Estafeta.Requests

/-!
# The type registry as a map

Registrations and updates of notification types, served one after the other, against a map from
services and type keys to entries in which the last write wins (`TypeMap`). Each request is one step
of the map, an update keeping the id; `GetType` and `ListTypes` report the entries.
-/

open Relational Atomic

namespace Estafeta

/-! ## Entries -/

/-- What the registry keeps under a key, but for the times. -/
structure TypeEntry where
  id : String
  displayName : String
  description : String
  jsonSchema : Option Struct
  defaultTtlSeconds : Int32
  escalationIntervalSeconds : Int32
  maxEscalations : Int32
  escalationAction : Int32
  enabled : Bool
  defaultIcon : String

/-- The entry that a response reports. -/
def NotificationType.entry (n : NotificationType) : TypeEntry where
  id := n.id
  displayName := n.displayName
  description := n.description
  jsonSchema := n.jsonSchema
  defaultTtlSeconds := n.defaultTtlSeconds
  escalationIntervalSeconds := n.escalationIntervalSeconds
  maxEscalations := n.maxEscalations
  escalationAction := n.escalationAction
  enabled := n.enabled
  defaultIcon := n.defaultIcon

/-- The normal form of a number of seconds: anything below 1 is 0. -/
def normalSeconds (n : Int32) : Int32 := if n < 1 then 0 else n

/-- The normal form of an escalation action: an unknown one is 1, RESURFACE. -/
def normalAction (v : Int32) : Int32 := if v = 1 ∨ v = 2 ∨ v = 3 then v else 1

/-- The normal form of a schema: an absent one is `type: object`. -/
def normalSchema : Option Struct → Option Struct
  | none => some ⟨[("type", .stringValue "object")]⟩
  | some s => some ⟨ProtoValue.normalFields s.fields⟩

/-- The entry of a registration. -/
def RegisterTypeRequest.entry (req : RegisterTypeRequest) (id : String) : TypeEntry where
  id := id
  displayName := req.displayName
  description := req.description
  jsonSchema := normalSchema req.jsonSchema
  defaultTtlSeconds := normalSeconds req.defaultTtlSeconds
  escalationIntervalSeconds := normalSeconds req.escalationIntervalSeconds
  maxEscalations := req.maxEscalations
  escalationAction := normalAction req.escalationAction
  enabled := true
  defaultIcon := req.defaultIcon

/-- The entry of an update. -/
def UpdateTypeRequest.entry (req : UpdateTypeRequest) (id : String) : TypeEntry where
  id := id
  displayName := req.displayName
  description := req.description
  jsonSchema := normalSchema req.jsonSchema
  defaultTtlSeconds := normalSeconds req.defaultTtlSeconds
  escalationIntervalSeconds := normalSeconds req.escalationIntervalSeconds
  maxEscalations := req.maxEscalations
  escalationAction := normalAction req.escalationAction
  enabled := req.enabled
  defaultIcon := req.defaultIcon

/-! ## Requests -/

/-- A request that writes a type. -/
inductive TypeWrite where
  | register (req : RegisterTypeRequest)
  | update (req : UpdateTypeRequest)

/-- The handler of a write. -/
def TypeWrite.handle (ext : Ext) (inst : ℕ) (extensions : Option AuthClaims) :
    TypeWrite → Program Status NotificationType
  | .register req => SchemaRegistryService.registerType ext inst extensions req
  | .update req => SchemaRegistryService.updateType ext inst extensions req

/-- A write on an instance, with the claims of its caller and what its surroundings decide. -/
structure TypeRequest where
  inst : ℕ
  extensions : Option AuthClaims
  write : TypeWrite
  choices : ℕ → Choice

/-- Serve a request. -/
def TypeRequest.serve (ext : Ext) (q : TypeRequest) (w : World) :
    Except Status NotificationType × World :=
  (q.write.handle ext q.inst q.extensions).run (exec ext) q.choices w

/-- The entries under the keys of the services. -/
abbrev TypeMap := String → String → Option TypeEntry

/-- Change the entry under one key. -/
def TypeMap.set (m : TypeMap) (slug key : String) (entry : Option TypeEntry) : TypeMap :=
  fun slug' key' => if slug' = slug ∧ key' = key then entry else m slug' key'

/-- A successful request writes its normal form, an update under the id that is there. -/
def TypeMap.after (m : TypeMap) : TypeWrite → Except Status NotificationType → TypeMap
  | .register req, .ok n => m.set req.serviceSlug req.typeKey (some (req.entry n.id))
  | .update req, .ok _ =>
    m.set req.serviceSlug req.typeKey
      ((m req.serviceSlug req.typeKey).map fun old => req.entry old.id)
  | _, .error _ => m

/-- Serve a request in the world and in the map. -/
def typeStep (ext : Ext) (s : World × TypeMap) (q : TypeRequest) : World × TypeMap :=
  ((q.serve ext s.1).2, s.2.after q.write (q.serve ext s.1).1)

/-- Serve requests one after the other, beginning with no entries. -/
def typesServed (ext : Ext) (w₀ : World) (qs : List TypeRequest) : World × TypeMap :=
  qs.foldl (typeStep ext) (w₀, fun _ _ => none)

/-! ## What a write stores -/

/-- The row of a registration. -/
def RegisterTypeRequest.row (req : RegisterTypeRequest) (serviceId id : Uuid) (now : Time) :
    NotificationTypeRow where
  id := id
  serviceId := serviceId
  typeKey := req.typeKey
  displayName := req.displayName
  description := nonEmpty req.description
  jsonSchema := SchemaRegistryService.schemaValue req.jsonSchema
  defaultTtlSeconds := positive req.defaultTtlSeconds
  escalationIntervalSeconds := positive req.escalationIntervalSeconds
  maxEscalations := req.maxEscalations
  escalationAction := escalationActionFromProto req.escalationAction
  defaultIcon := nonEmpty req.defaultIcon
  enabled := true
  createdAt := now
  updatedAt := now

/-- The row of an update. -/
def UpdateTypeRequest.row (req : UpdateTypeRequest) (old : NotificationTypeRow) (now : Time) :
    NotificationTypeRow :=
  { old with
    displayName := req.displayName
    description := nonEmpty req.description
    jsonSchema := SchemaRegistryService.schemaValue req.jsonSchema
    defaultTtlSeconds := positive req.defaultTtlSeconds
    escalationIntervalSeconds := positive req.escalationIntervalSeconds
    maxEscalations := req.maxEscalations
    escalationAction := escalationActionFromProto req.escalationAction
    defaultIcon := nonEmpty req.defaultIcon
    enabled := req.enabled
    updatedAt := now }

/-- One row is written, under the key of a service. -/
structure StoresType (db db' : Db) (service : ServiceRow) (key : String) (row : NotificationTypeRow) :
    Prop where
  services : db'.services = db.services
  stored : db'.notificationTypes.lookup (.typeKey service.id key) = some row
  others : ∀ serviceId' key', ¬ (serviceId' = service.id ∧ key' = key) →
    db'.notificationTypes.lookup (.typeKey serviceId' key') =
      db.notificationTypes.lookup (.typeKey serviceId' key')
  rows : ∀ r ∈ db'.notificationTypes.rows, r = row ∨ r ∈ db.notificationTypes.rows

/-- What a successful registration has done. -/
def Registers (ext : Ext) (req : RegisterTypeRequest) (db db' : Db) (n : NotificationType) : Prop :=
  ∃ service id now, db.services.lookup (.slug req.serviceSlug) = some service ∧
    isValidSchema ext (SchemaRegistryService.schemaValue req.jsonSchema) = true ∧
    db.notificationTypes.lookup (.typeKey service.id req.typeKey) = none ∧
    StoresType db db' service req.typeKey (req.row service.id id now) ∧
    n = SchemaRegistryService.rowToProto ext (req.row service.id id now) req.serviceSlug

/-- What a successful update has done. -/
def Updates (ext : Ext) (req : UpdateTypeRequest) (db db' : Db) (n : NotificationType) : Prop :=
  ∃ service old now, db.services.lookup (.slug req.serviceSlug) = some service ∧
    db.notificationTypes.lookup (.typeKey service.id req.typeKey) = some old ∧
    StoresType db db' service req.typeKey (req.row old now) ∧
    n = SchemaRegistryService.rowToProto ext (req.row old now) req.serviceSlug

section

variable {ext : Ext} {ok : Choice → Prop} {w : World} {inst : ℕ} {extensions : Option AuthClaims}

theorem registerType_ensures (req : RegisterTypeRequest) :
    (SchemaRegistryService.registerType ext inst extensions req).Ensures (exec ext) ok
      (fun w' _ => w'.db = w.db) (fun w' n => Registers ext req w.db w'.db n) w := by
  unfold SchemaRegistryService.registerType
  simp only [Prog.ensures_bind]
  refine ensures_fromExtensions _ (fun _ _ => rfl) fun c _ => ?_
  refine ensures_requireAdmin _ (fun _ => rfl) ?_
  refine ensures_getServiceBySlug _ (fun _ _ _ _ => rfl) ?_
  refine (Prog.ensures_okOr _ _ _).2 ⟨fun _ => rfl, fun service found => ?_⟩
  refine ensures_ensure (fun _ => rfl) fun valid => ?_
  refine ensures_query rfl (fun _ _ _ _ => rfl) (fun _ _ _ _ _ => rfl) fun x row db _ inserted => ?_
  intro _ _
  obtain ⟨t, stored, answered⟩ := map_eq_ok.1 inserted
  have stored := Db.Notifications.insertRow_ok stored
  cases answered
  refine ⟨service, x.uuid, x.now, found, valid,
    Table.insert_fresh stored (typeKey_mem_keys.2 ⟨rfl, rfl⟩), ⟨rfl, ?_, ?_, ?_⟩, rfl⟩
  · exact (Table.lookup_insert stored _).trans (if_pos (typeKey_mem_keys.2 ⟨rfl, rfl⟩))
  · intro serviceId' key' other
    refine (Table.lookup_insert stored _).trans (if_neg fun mem => other ?_)
    obtain ⟨sameService, sameKey⟩ := typeKey_mem_keys.1 mem
    exact ⟨sameService.symm, sameKey.symm⟩
  · intro r hr
    exact ((Table.mem_insert stored).1 hr).symm

theorem updateType_ensures (req : UpdateTypeRequest) :
    (SchemaRegistryService.updateType ext inst extensions req).Ensures (exec ext) ok
      (fun w' _ => w'.db = w.db) (fun w' n => Updates ext req w.db w'.db n) w := by
  unfold SchemaRegistryService.updateType SchemaRegistryService.serviceBySlug
  simp only [Prog.ensures_bind]
  refine ensures_fromExtensions _ (fun _ _ => rfl) fun c _ => ?_
  refine ensures_requireAdmin _ (fun _ => rfl) ?_
  refine ensures_getServiceBySlug _ (fun _ _ _ _ => rfl) ?_
  refine (Prog.ensures_okOr _ _ _).2 ⟨fun _ => rfl, fun service found => ?_⟩
  refine ensures_query rfl (fun _ _ _ _ => rfl) (fun _ _ _ _ _ => rfl) fun x row db _ updated => ?_
  intro _ _
  obtain ⟨⟨r, t⟩, stored, answered⟩ := map_eq_ok.1 updated
  obtain ⟨old, there, rfl, rfl⟩ := updateRow_ok stored
  obtain ⟨ofService, ofKey⟩ := typeKey_mem_keys.1 (Table.key_of_lookup there)
  cases answered
  refine ⟨service, old, x.now, found, there, ⟨rfl, lookup_updateRow stored, ?_, ?_⟩, rfl⟩
  · intro serviceId' key' other
    refine (Table.lookup_update _ _ _ _).trans ?_
    cases there' : w.db.notificationTypes.lookup (.typeKey serviceId' key') with
    | none => rfl
    | some r =>
      refine congrArg some (if_neg fun mem => other ?_)
      obtain ⟨sameService, sameKey⟩ := typeKey_mem_keys.1 (of_decide_eq_true mem)
      obtain ⟨ofService', ofKey'⟩ := typeKey_mem_keys.1 (Table.key_of_lookup there')
      exact ⟨ofService'.symm.trans sameService, ofKey'.symm.trans sameKey⟩
  · intro r hr
    obtain ⟨s, hs, rfl⟩ := List.mem_map.1 hr
    split
    · rename_i mem
      have same := Table.eq_of_mem_keys hs (Table.mem_of_lookup there) (of_decide_eq_true mem)
        (Table.key_of_lookup there)
      exact .inl (same ▸ rfl)
    · exact .inr hs

/-- A request that fails leaves the tables as they are; one that succeeds has written its row. -/
theorem serve_cases (ext : Ext) (q : TypeRequest) (w : World) :
    (∃ s, (q.serve ext w).1 = .error s ∧ (q.serve ext w).2.db = w.db) ∨
      ∃ n, (q.serve ext w).1 = .ok n ∧
        match q.write with
        | .register req => Registers ext req w.db (q.serve ext w).2.db n
        | .update req => Updates ext req w.db (q.serve ext w).2.db n := by
  have ensured : (q.write.handle ext q.inst q.extensions).Ensures (exec ext) (fun _ => True)
      (fun w' _ => w'.db = w.db) (fun w' n => match q.write with
        | .register req => Registers ext req w.db w'.db n
        | .update req => Updates ext req w.db w'.db n) w := by
    cases q.write with
    | register req => exact registerType_ensures req
    | update req => exact updateType_ensures req
  have ends := ensured.run q.choices fun _ => trivial
  unfold TypeRequest.serve
  cases result : ((q.write.handle ext q.inst q.extensions).run (exec ext) q.choices w).1 with
  | error s =>
    rw [result] at ends
    exact .inl ⟨s, rfl, ends⟩
  | ok n =>
    rw [result] at ends
    exact .inr ⟨n, rfl, ends⟩

/-! ## Encoding and decoding -/

theorem positive_getD (n : Int32) : (positive n).getD 0 = normalSeconds n := by
  have below : n < 1 ↔ ¬ n > 0 := by
    rw [gt_iff_lt, Int32.lt_iff_toInt_lt, Int32.lt_iff_toInt_lt]
    show n.toInt < 1 ↔ ¬ 0 < n.toInt
    omega
  unfold positive normalSeconds
  by_cases pos : n > 0
  · rw [if_pos pos, if_neg fun h => below.1 h pos]
    rfl
  · rw [if_neg pos, if_pos (below.2 pos)]
    rfl

theorem action_roundTrip (v : Int32) :
    escalationActionToProto (escalationActionFromProto v) = normalAction v := by
  unfold escalationActionFromProto normalAction
  by_cases one : v = 1
  · rw [if_pos one, if_pos (.inl one), one]
    rfl
  by_cases two : v = 2
  · rw [if_neg one, if_pos two, if_pos (.inr (.inl two)), two]
    rfl
  by_cases three : v = 3
  · rw [if_neg one, if_neg two, if_pos three, if_pos (.inr (.inr three)), three]
    rfl
  · rw [if_neg one, if_neg two, if_neg three, if_neg (by rintro (h | h | h) <;> contradiction)]
    rfl

theorem schema_roundTrip (schema : Option Struct) :
    valueToProtoStruct (SchemaRegistryService.schemaValue schema) = normalSchema schema := by
  cases schema with
  | none => rfl
  | some s => exact congrArg (fun fields => some (Struct.mk fields)) (fields_roundTrip s.fields)

theorem RegisterTypeRequest.entry_row (req : RegisterTypeRequest) (serviceId id : Uuid) (now : Time)
    (slug : String) :
    (SchemaRegistryService.rowToProto ext (req.row serviceId id now) slug).entry =
      req.entry (ext.showUuid id) := by
  unfold SchemaRegistryService.rowToProto RegisterTypeRequest.row NotificationType.entry
    RegisterTypeRequest.entry
  rw [nonEmpty_roundTrip, nonEmpty_roundTrip, schema_roundTrip, positive_getD, positive_getD,
    action_roundTrip]

theorem UpdateTypeRequest.entry_row (req : UpdateTypeRequest) (old : NotificationTypeRow)
    (now : Time) (slug : String) :
    (SchemaRegistryService.rowToProto ext (req.row old now) slug).entry =
      req.entry (ext.showUuid old.id) := by
  unfold SchemaRegistryService.rowToProto UpdateTypeRequest.row NotificationType.entry
    UpdateTypeRequest.entry
  rw [nonEmpty_roundTrip, nonEmpty_roundTrip, schema_roundTrip, positive_getD, positive_getD,
    action_roundTrip]

/-- What the tables report under a key of a service. -/
def Db.reported (ext : Ext) (db : Db) (slug key : String) : Option NotificationType :=
  (db.services.lookup (.slug slug)).bind fun service =>
    (db.notificationTypes.lookup (.typeKey service.id key)).map fun row =>
      SchemaRegistryService.rowToProto ext row slug

/-- A number of seconds of a type is NULL or positive. -/
def NotificationTypeRow.Bounded (r : NotificationTypeRow) : Prop :=
  (∀ ttl, r.defaultTtlSeconds = some ttl → 0 < ttl) ∧
    ∀ interval, r.escalationIntervalSeconds = some interval → 0 < interval

theorem pos_of_positive {n m : Int32} (h : positive n = some m) : 0 < m := by
  unfold positive at h
  split at h
  · cases h
    assumption
  · cases h

theorem RegisterTypeRequest.bounded_row (req : RegisterTypeRequest) (serviceId id : Uuid)
    (now : Time) : (req.row serviceId id now).Bounded :=
  ⟨fun _ => pos_of_positive, fun _ => pos_of_positive⟩

theorem UpdateTypeRequest.bounded_row (req : UpdateTypeRequest) (old : NotificationTypeRow)
    (now : Time) : (req.row old now).Bounded :=
  ⟨fun _ => pos_of_positive, fun _ => pos_of_positive⟩

/-! ## The tables and the map -/

/-- The tables report the entries of the map, and every row is bounded. -/
structure TypesAgree (ext : Ext) (db : Db) (m : TypeMap) : Prop where
  reported : ∀ slug key, (db.reported ext slug key).map (·.entry) = m slug key
  bounded : ∀ r ∈ db.notificationTypes.rows, r.Bounded

variable {m : TypeMap} {db db' : Db}

theorem TypesAgree.of_db (agree : TypesAgree ext db m) (same : db' = db) : TypesAgree ext db' m :=
  same ▸ agree

/-- Different slugs are of services with different ids. -/
theorem service_slug_unique {slug slug' : String} {service service' : ServiceRow}
    (found : db.services.lookup (.slug slug) = some service)
    (found' : db.services.lookup (.slug slug') = some service') (same : service'.id = service.id) :
    slug' = slug := by
  have mine : ServiceKey.id service.id ∈ Schema.keys service' := same ▸ List.mem_cons_self
  cases Table.eq_of_mem_keys (Table.mem_of_lookup found') (Table.mem_of_lookup found) mine
    List.mem_cons_self
  exact (slug_mem_keys.1 (Table.key_of_lookup found')).symm.trans
    (slug_mem_keys.1 (Table.key_of_lookup found))

/-- After a row has been written under a key, it is reported there, and elsewhere what was. -/
theorem StoresType.reported_eq {service : ServiceRow} {slug key : String} {row : NotificationTypeRow}
    (found : db.services.lookup (.slug slug) = some service)
    (stores : StoresType db db' service key row) (slug' key' : String) :
    db'.reported ext slug' key' =
      if slug' = slug ∧ key' = key then some (SchemaRegistryService.rowToProto ext row slug)
      else db.reported ext slug' key' := by
  unfold Db.reported
  rw [stores.services]
  split
  · rename_i here
    obtain ⟨rfl, rfl⟩ := here
    rw [found, Option.bind_some, stores.stored]
    rfl
  · rename_i elsewhere
    cases found' : db.services.lookup (.slug slug') with
    | none => rfl
    | some service' =>
      rw [Option.bind_some, Option.bind_some, stores.others]
      rintro ⟨sameService, sameKey⟩
      exact elsewhere ⟨service_slug_unique found found' sameService, sameKey⟩

theorem TypesAgree.stores (agree : TypesAgree ext db m) {service : ServiceRow} {slug key : String}
    {row : NotificationTypeRow} (found : db.services.lookup (.slug slug) = some service)
    (stores : StoresType db db' service key row) (bounded : row.Bounded) :
    TypesAgree ext db'
      (m.set slug key (some (SchemaRegistryService.rowToProto ext row slug).entry)) where
  reported slug' key' := by
    rw [stores.reported_eq found]
    unfold TypeMap.set
    by_cases here : slug' = slug ∧ key' = key
    · rw [if_pos here, if_pos here]
      rfl
    · rw [if_neg here, if_neg here]
      exact agree.reported slug' key'
  bounded r hr := by
    rcases stores.rows r hr with rfl | hr
    · exact bounded
    · exact agree.bounded r hr

theorem TypesAgree.known (agree : TypesAgree ext db m) {service : ServiceRow} {slug : String}
    (found : db.services.lookup (.slug slug) = some service) (key : String) : m slug key =
      (db.notificationTypes.lookup (.typeKey service.id key)).map
        fun row => (SchemaRegistryService.rowToProto ext row slug).entry := by
  rw [← agree.reported slug key]
  unfold Db.reported
  rw [found, Option.bind_some, Option.map_map]
  rfl

/-- One request is one step of the map. -/
theorem TypesAgree.step {s : World × TypeMap} (agree : TypesAgree ext s.1.db s.2)
    (q : TypeRequest) : TypesAgree ext (typeStep ext s q).1.db (typeStep ext s q).2 := by
  unfold typeStep
  rcases serve_cases ext q s.1 with ⟨e, failed, same⟩ | ⟨n, served, done⟩
  · rw [failed]
    cases q.write <;> exact agree.of_db same
  · rw [served]
    cases write : q.write with
    | register req =>
      rw [write] at done
      obtain ⟨service, id, now, found, -, -, stores, rfl⟩ := done
      have next := agree.stores found stores (req.bounded_row service.id id now)
      rw [req.entry_row] at next
      exact next
    | update req =>
      rw [write] at done
      obtain ⟨service, old, now, found, there, stores, rfl⟩ := done
      have next := agree.stores found stores (req.bounded_row old now)
      have before := agree.known found req.typeKey
      rw [there] at before
      rw [req.entry_row] at next
      show TypesAgree ext _ (s.2.set _ _ _)
      rw [before]
      exact next

theorem typesAgree_served {w₀ : World} (fresh : w₀.db.notificationTypes = .empty)
    (qs : List TypeRequest) :
    TypesAgree ext (typesServed ext w₀ qs).1.db (typesServed ext w₀ qs).2 := by
  have start : TypesAgree ext w₀.db fun _ _ => none := by
    constructor
    · intro slug key
      unfold Db.reported
      rw [fresh]
      cases w₀.db.services.lookup (.slug slug) <;> rfl
    · intro r hr
      rw [fresh] at hr
      cases hr
  unfold typesServed
  induction qs using List.reverseRecOn with
  | nil => exact start
  | append_singleton qs q ih =>
    rw [List.foldl_append]
    exact ih.step q

/-! ## Reading the registry -/

theorem getType_ensures (ext : Ext) (w : World) (req : GetTypeRequest) :
    (SchemaRegistryService.getType ext req).Ensures (exec ext) (fun x => x.failure = none)
      (fun _ _ => w.db.reported ext req.serviceSlug req.typeKey = none)
      (fun _ n => w.db.reported ext req.serviceSlug req.typeKey = some n) w := by
  unfold SchemaRegistryService.getType SchemaRegistryService.serviceBySlug Db.reported
  simp only [Prog.ensures_bind]
  refine ensures_getServiceBySlug _ (fun _ works lost _ => of_lost works lost) ?_
  refine (Prog.ensures_okOr _ _ _).2 ⟨fun none => by rw [none]; rfl, fun service found => ?_⟩
  rw [found, Option.bind_some]
  refine ensures_read (q := .schemas (.getNotificationType service.id req.typeKey)) rfl
    (fun _ works lost _ => of_lost works lost)
    (fun _ => w.db.notificationTypes.lookup (.typeKey service.id req.typeKey)) (fun _ => rfl)
    fun _ _ => ?_
  refine (Prog.ensures_okOr _ _ _).2 ⟨fun none => by rw [none]; rfl, fun row there => ?_⟩
  rw [there]
  exact rfl

/-- The types of a service, as a listing orders them. -/
def Db.typeRows (ext : Ext) (db : Db) (service : ServiceRow) (rank : Uuid → ℕ) :
    List NotificationTypeRow :=
  sortOn (fun r => ext.collationKey r.typeKey) (fun r => rank r.id)
    (db.notificationTypes.select fun r => r.serviceId = service.id)

/-- What a listing reports of them. -/
def Db.typeList (ext : Ext) (db : Db) (service : ServiceRow) (slug : String) (rank : Uuid → ℕ) :
    List NotificationType :=
  (db.typeRows ext service rank).map fun row => SchemaRegistryService.rowToProto ext row slug

/-- The response with the types of a page. -/
def ListTypesRequest.answer (req : ListTypesRequest) (ext : Ext) (rows : List NotificationTypeRow) :
    ListTypesResponse where
  types := rows.map fun r => SchemaRegistryService.rowToProto ext r req.serviceSlug
  pagination := some
    { nextPageToken :=
        nextPageToken rows.length (pageSize req.pagination) (pageOffset req.pagination)
      totalCount := 0 }

/-- Whatever the size and the offset, what is listed is a page of the types of the service. -/
theorem listTypes_answers {ok : Choice → Prop} {E : World → Status → Prop}
    {Q : World → ListTypesResponse → Prop} (req : ListTypesRequest)
    (lost : ∀ x, ok x → x.failure.isSome = true → ∀ s, E w s)
    (unknown : w.db.services.lookup (.slug req.serviceSlug) = none → ∀ s, E w s)
    (rejected : pageSize req.pagination < 0 ∨ pageOffset req.pagination < 0 → ∀ s, E w s)
    (listed : ∀ x service, ok x → w.db.services.lookup (.slug req.serviceSlug) = some service →
      0 ≤ pageSize req.pagination → 0 ≤ pageOffset req.pagination →
      Q w (req.answer ext (((w.db.typeRows ext service x.rank).drop
        (pageOffset req.pagination).toNatClampNeg).take
          (pageSize req.pagination).toNatClampNeg))) :
    (SchemaRegistryService.listTypes ext req).Ensures (exec ext) ok E Q w := by
  unfold SchemaRegistryService.listTypes SchemaRegistryService.serviceBySlug
  simp only [Prog.ensures_bind]
  refine ensures_getServiceBySlug _ lost ?_
  refine (Prog.ensures_okOr _ _ _).2 ⟨fun none => unknown none _, fun service found => ?_⟩
  exact ensures_page (q := .schemas (.listNotificationTypes service.id (pageSize req.pagination)
    (pageOffset req.pagination))) rfl (fun x => w.db.typeRows ext service x.rank) id (fun _ => rfl) lost
    rejected fun x sound => listed x service sound found

theorem listTypes_ensures (ext : Ext) (req : ListTypesRequest) {service : ServiceRow}
    (found : w.db.services.lookup (.slug req.serviceSlug) = some service)
    (size : 0 ≤ pageSize req.pagination) (offset : 0 ≤ pageOffset req.pagination) :
    (SchemaRegistryService.listTypes ext req).Ensures (exec ext) (fun x => x.failure = none)
      (fun _ _ => False)
      (fun _ resp => ∃ rank, resp = req.answer ext (((w.db.typeRows ext service rank).drop
        (pageOffset req.pagination).toNatClampNeg).take (pageSize req.pagination).toNatClampNeg))
      w := by
  refine listTypes_answers req (fun _ works lost _ => of_lost works lost)
    (fun none => nomatch found.symm.trans none) (fun negative => ?_) fun x service' _ found' _ _ => ?_
  · exact absurd negative (not_or.2 ⟨Int64.not_lt.2 size, Int64.not_lt.2 offset⟩)
  · cases found.symm.trans found'
    exact ⟨x.rank, rfl⟩

/-- The types of a service have their keys to themselves. -/
theorem typeKey_apart {service : ServiceRow} {r r' : NotificationTypeRow}
    (mem : r ∈ db.notificationTypes.select fun r => r.serviceId = service.id)
    (mem' : r' ∈ db.notificationTypes.select fun r => r.serviceId = service.id)
    (same : r.typeKey = r'.typeKey) : r = r' := by
  obtain ⟨stored, ofService⟩ := Table.mem_select.1 mem
  obtain ⟨stored', ofService'⟩ := Table.mem_select.1 mem'
  have together : r'.serviceId = r.serviceId :=
    (of_decide_eq_true ofService').trans (of_decide_eq_true ofService).symm
  exact Table.eq_of_mem_keys stored stored' (typeKey_mem_keys.2 ⟨rfl, rfl⟩)
    (typeKey_mem_keys.2 ⟨together, same.symm⟩)

theorem nodup_typeRows (service : ServiceRow) (rank : Uuid → ℕ) :
    ((db.typeRows ext service rank).map (·.typeKey)).Nodup := by
  unfold Db.typeRows
  rw [((sortOn_perm _ _ _).map _).nodup_iff]
  refine List.Nodup.map_on (fun r hr r' hr' => typeKey_apart hr hr') ?_
  refine (db.notificationTypes.unique.filter _).imp fun {r r'} apart same => ?_
  exact apart (.id r.id) List.mem_cons_self (same ▸ List.mem_cons_self)

theorem nodup_typeList (service : ServiceRow) (slug : String) (rank : Uuid → ℕ) :
    ((db.typeList ext service slug rank).map (·.typeKey)).Nodup := by
  unfold Db.typeList
  rw [List.map_map]
  exact nodup_typeRows service rank

theorem TypesAgree.mem_typeList (agree : TypesAgree ext db m) {service : ServiceRow} {slug : String}
    (found : db.services.lookup (.slug slug) = some service) (rank : Uuid → ℕ) (key : String)
    (e : TypeEntry) : m slug key = some e ↔
      ∃ n ∈ db.typeList ext service slug rank, n.typeKey = key ∧ n.entry = e := by
  rw [agree.known found _, Option.map_eq_some_iff]
  unfold Db.typeList Db.typeRows
  constructor
  · rintro ⟨row, there, rfl⟩
    obtain ⟨ofService, ofKey⟩ := typeKey_mem_keys.1 (Table.key_of_lookup there)
    refine ⟨_, List.mem_map_of_mem (mem_sortOn.2 (Table.mem_select.2
      ⟨Table.mem_of_lookup there, decide_eq_true ofService⟩)), ofKey, rfl⟩
  · rintro ⟨n, mem, rfl, rfl⟩
    obtain ⟨row, listed, rfl⟩ := List.mem_map.1 mem
    obtain ⟨stored, ofService⟩ := Table.mem_select.1 (mem_sortOn.1 listed)
    exact ⟨row, Table.lookup_of_mem stored (typeKey_mem_keys.2 ⟨of_decide_eq_true ofService, rfl⟩),
      rfl⟩

theorem TypesAgree.getType {s : World × TypeMap} (agree : TypesAgree ext s.1.db s.2)
    (slug key : String) {x : ℕ → Choice} (works : ∀ n, (x n).failure = none) :
    let answer := ((SchemaRegistryService.getType ext ⟨slug, key⟩).run (exec ext) x s.1).1
    match s.2 slug key with
    | some e => ∃ n, answer = .ok n ∧ n.serviceSlug = slug ∧ n.typeKey = key ∧ n.entry = e
    | none => ∃ status, answer = .error status := by
  intro answer
  have answered := (getType_ensures ext s.1 ⟨slug, key⟩).run x works
  have entry := agree.reported slug key
  cases result : answer with
  | error status =>
    have unknown : s.1.db.reported ext slug key = none := by
      rw [show (Prog.run _ _ _ _).1 = Except.error status from result] at answered
      exact answered
    rw [← entry, unknown]
    exact ⟨status, rfl⟩
  | ok n =>
    have reported : s.1.db.reported ext slug key = some n := by
      rw [show (Prog.run _ _ _ _).1 = Except.ok n from result] at answered
      exact answered
    rw [← entry, reported]
    obtain ⟨service, found, under⟩ := Option.bind_eq_some_iff.1 reported
    obtain ⟨row, there, rfl⟩ := Option.map_eq_some_iff.1 under
    exact ⟨_, rfl, rfl, (typeKey_mem_keys.1 (Table.key_of_lookup there)).2, rfl⟩

theorem TypesAgree.listTypes {s : World × TypeMap} (agree : TypesAgree ext s.1.db s.2)
    (req : ListTypesRequest) {x : ℕ → Choice} (known : ∃ key, s.2 req.serviceSlug key ≠ none)
    (size : 0 ≤ pageSize req.pagination) (offset : 0 ≤ pageOffset req.pagination)
    (works : ∀ n, (x n).failure = none) :
    ∃ (all : List NotificationType) (resp : ListTypesResponse),
      ((SchemaRegistryService.listTypes ext req).run (exec ext) x s.1).1 = .ok resp ∧
      resp.types = (all.drop (pageOffset req.pagination).toNatClampNeg).take
        (pageSize req.pagination).toNatClampNeg ∧
      (all.map (·.typeKey)).Nodup ∧
      ∀ key e, s.2 req.serviceSlug key = some e ↔ ∃ n ∈ all, n.typeKey = key ∧ n.entry = e := by
  obtain ⟨key, registered⟩ := known
  rw [← agree.reported] at registered
  cases found : s.1.db.services.lookup (.slug req.serviceSlug) with
  | none =>
    unfold Db.reported at registered
    rw [found] at registered
    exact absurd rfl registered
  | some service =>
    obtain ⟨_, answer, rank, rfl⟩ := (listTypes_ensures ext req found size offset).exists_ok works
    refine ⟨s.1.db.typeList ext service req.serviceSlug rank, _, answer, ?_,
      nodup_typeList service req.serviceSlug rank, agree.mem_typeList found rank⟩
    unfold Db.typeList ListTypesRequest.answer
    rw [← List.map_drop, ← List.map_take]

theorem TypesAgree.serve {s : World × TypeMap} (agree : TypesAgree ext s.1.db s.2)
    (q : TypeRequest) :
    match (q.serve ext s.1).1, q.write with
    | .error _, _ => (q.serve ext s.1).2.db = s.1.db
    | .ok _, .register req => s.2 req.serviceSlug req.typeKey = none
    | .ok n, .update req => ∃ old, s.2 req.serviceSlug req.typeKey = some old ∧ n.id = old.id := by
  rcases serve_cases ext q s.1 with ⟨e, failed, same⟩ | ⟨n, served, done⟩
  · rw [failed]
    cases q.write <;> exact same
  · rw [served]
    cases write : q.write with
    | register req =>
      rw [write] at done
      obtain ⟨service, id, now, found, -, free, -, -⟩ := done
      show s.2 req.serviceSlug req.typeKey = none
      rw [agree.known found _, free]
      rfl
    | update req =>
      rw [write] at done
      obtain ⟨service, old, now, found, there, -, rfl⟩ := done
      refine ⟨_, (agree.known found _).trans (congrArg (Option.map _) there), rfl⟩

end

/-- The registry is a map in which the last write wins. After any requests, served one after the
other from an empty registry, `GetType` and `ListTypes` report the entries of the map; a request that
fails changes nothing, a registration succeeds only on a free key and an update only on a taken one,
keeping its id; and the seconds of every row are NULL or positive. -/
theorem type_registry (ext : Ext) (w₀ : World) (fresh : w₀.db.notificationTypes = .empty)
    (qs : List TypeRequest) :
    let s := typesServed ext w₀ qs
    (∀ (slug key : String) (x : ℕ → Choice), (∀ n, (x n).failure = none) →
      let answer := ((SchemaRegistryService.getType ext ⟨slug, key⟩).run (exec ext) x s.1).1
      match s.2 slug key with
      | some e => ∃ n, answer = .ok n ∧ n.serviceSlug = slug ∧ n.typeKey = key ∧ n.entry = e
      | none => ∃ status, answer = .error status) ∧
    (∀ (req : ListTypesRequest) (x : ℕ → Choice), (∃ key, s.2 req.serviceSlug key ≠ none) →
      0 ≤ pageSize req.pagination → 0 ≤ pageOffset req.pagination → (∀ n, (x n).failure = none) →
      ∃ (all : List NotificationType) (resp : ListTypesResponse),
        ((SchemaRegistryService.listTypes ext req).run (exec ext) x s.1).1 = .ok resp ∧
        resp.types = (all.drop (pageOffset req.pagination).toNatClampNeg).take
          (pageSize req.pagination).toNatClampNeg ∧
        (all.map (·.typeKey)).Nodup ∧
        ∀ key e, s.2 req.serviceSlug key = some e ↔ ∃ n ∈ all, n.typeKey = key ∧ n.entry = e) ∧
    (∀ q : TypeRequest,
      match (q.serve ext s.1).1, q.write with
      | .error _, _ => (q.serve ext s.1).2.db = s.1.db
      | .ok _, .register req => s.2 req.serviceSlug req.typeKey = none
      | .ok n, .update req => ∃ old, s.2 req.serviceSlug req.typeKey = some old ∧ n.id = old.id) ∧
    ∀ r ∈ s.1.db.notificationTypes.rows, r.Bounded := by
  intro s
  have agree : TypesAgree ext s.1.db s.2 := typesAgree_served fresh qs
  refine ⟨fun slug key x works => agree.getType slug key works,
    fun req x known size offset works => agree.listTypes req known size offset works,
    fun q => agree.serve q, agree.bounded⟩

namespace Sample

/-- The service `mail`, with no types. -/
def untyped : World where
  db := { db .empty with notificationTypes := .empty }
  stream := []
  acked := []
  published := []
  caches _ _ _ := none

/-- A registration of `letter` with an action that there is not, and a TTL below 1. -/
def registration : RegisterTypeRequest where
  serviceSlug := "mail"
  typeKey := "letter"
  displayName := "Letter"
  description := ""
  jsonSchema := none
  defaultTtlSeconds := -1
  escalationIntervalSeconds := 60
  maxEscalations := 1
  escalationAction := 7
  defaultIcon := ""

/-- An update of it. -/
def revision : UpdateTypeRequest where
  serviceSlug := "mail"
  typeKey := "letter"
  displayName := "Mail"
  description := "A letter"
  jsonSchema := some ⟨[("title", .unset)]⟩
  defaultTtlSeconds := 3600
  escalationIntervalSeconds := 0
  maxEscalations := 0
  escalationAction := 2
  enabled := false
  defaultIcon := ""

/-- The type is registered, registered again, and updated. -/
def revised : List TypeRequest :=
  [.register registration, .register registration, .update revision].map fun write =>
    ⟨0, some ann, write, fun _ => choice⟩

theorem type_registry_revised : ∃ n,
    ((SchemaRegistryService.getType ext ⟨"mail", "letter"⟩).run (exec ext) (fun _ => choice)
      (typesServed ext untyped revised).1).1 = .ok n ∧ n.serviceSlug = "mail" ∧
      n.typeKey = "letter" ∧ n.entry = revision.entry "3" :=
  (type_registry ext untyped rfl revised).1 "mail" "letter" (fun _ => choice) fun _ => rfl

end Sample

end Estafeta
