import Estafeta.Statements

/-!
# Registrations

Services, notification types and levels are never deleted, and keep their keys: what has been found
under a slug or a key once is found there, with the same id, from then on. A type changes only where
a statement writes it (`typeWritten`).
-/

open Relational Atomic

namespace Estafeta

/-! ## Statements -/

section

variable {ρ : Type} [Schema ρ] {t t' : Table ρ} {k : Schema.Key ρ} {r s : ρ} {f : Assign ρ}
  {references : Bool}

theorem insertRow_grows (h : insertRow t r references = .ok t') : t.Grows t' :=
  Table.grows_insert (Db.Notifications.insertRow_ok h)

theorem updateRow_ok (h : updateRow t k f = .ok (s, t')) :
    ∃ r, t.lookup k = some r ∧ s = f.set r ∧
      t' = t.update (fun r => k ∈ Schema.keys r) f := by
  unfold updateRow at h
  split at h
  next r found =>
    cases h
    exact ⟨r, found, rfl, rfl⟩
  next => cases h

theorem updateRow_grows (h : updateRow t k f = .ok (s, t')) : t.Grows t' := by
  obtain ⟨_, _, _, rfl⟩ := updateRow_ok h
  exact Table.grows_update _ _ _

theorem lookup_updateRow (h : updateRow t k f = .ok (s, t')) : t'.lookup k = some s := by
  obtain ⟨r, found, rfl, rfl⟩ := updateRow_ok h
  rw [Table.lookup_update, found]
  simp [Table.key_of_lookup found]

end

/-- No registration is lost. -/
structure Db.Registered (db db' : Db) : Prop where
  services : db.services.Grows db'.services
  notificationTypes : db.notificationTypes.Grows db'.notificationTypes
  notificationLevels : db.notificationLevels.Grows db'.notificationLevels

theorem Db.Registered.refl (db : Db) : db.Registered db := ⟨.refl _, .refl _, .refl _⟩

theorem Db.Registered.trans {db db' db'' : Db} (first : db.Registered db')
    (second : db'.Registered db'') : db.Registered db'' :=
  ⟨first.services.trans second.services, first.notificationTypes.trans second.notificationTypes,
    first.notificationLevels.trans second.notificationLevels⟩

theorem Db.Services.Query.registered {env : Env} {db db' : Db} {q : Services.Query} {a : q.Resp}
    (h : q.exec env db = .ok (a, db')) : db.Registered db' := by
  cases q with
  | insertService =>
    obtain ⟨t, stored, h⟩ := map_eq_ok.1 h
    cases h
    exact ⟨insertRow_grows stored, .refl _, .refl _⟩
  | updateService =>
    obtain ⟨⟨r, t⟩, stored, h⟩ := map_eq_ok.1 h
    cases h
    exact ⟨updateRow_grows stored, .refl _, .refl _⟩
  | setServiceEnabled =>
    cases h
    exact ⟨Table.grows_update _ _ _, .refl _, .refl _⟩
  | listServices =>
    obtain ⟨_, _, h⟩ := map_eq_ok.1 h
    cases h
    exact .refl _
  | getServiceBySlug | countServices =>
    cases h
    exact .refl _

theorem Db.Schemas.Query.registered {env : Env} {db db' : Db} {q : Schemas.Query} {a : q.Resp}
    (h : q.exec env db = .ok (a, db')) : db.Registered db' := by
  cases q with
  | insertNotificationType =>
    obtain ⟨t, stored, h⟩ := map_eq_ok.1 h
    cases h
    exact ⟨.refl _, insertRow_grows stored, .refl _⟩
  | updateNotificationType =>
    obtain ⟨⟨r, t⟩, stored, h⟩ := map_eq_ok.1 h
    cases h
    exact ⟨.refl _, updateRow_grows stored, .refl _⟩
  | insertNotificationLevel =>
    obtain ⟨t, stored, h⟩ := map_eq_ok.1 h
    cases h
    exact ⟨.refl _, .refl _, insertRow_grows stored⟩
  | updateNotificationLevel =>
    obtain ⟨⟨r, t⟩, stored, h⟩ := map_eq_ok.1 h
    cases h
    exact ⟨.refl _, .refl _, updateRow_grows stored⟩
  | listNotificationTypes =>
    obtain ⟨_, _, h⟩ := map_eq_ok.1 h
    cases h
    exact .refl _
  | _ =>
    cases h
    exact .refl _

/-! ## Operations -/

variable {ext : Ext} {x : Choice} {o : Op} {w : World}

theorem registered_exec (ext : Ext) (x : Choice) (o : Op) (w : World) :
    w.db.Registered (exec ext x o w).2.db := by
  rcases exec_db_cases ext x o w with same | ⟨q, a, rfl, -, ok⟩
  · rw [same]
    exact .refl _
  · generalize (exec ext x (.sql q) w).2.db = db at ok
    cases q with
    | notifications q =>
      rw [(Db.Notifications.Query.exec_cases ok).1]
      exact ⟨.refl _, .refl _, .refl _⟩
    | muteRules q =>
      rw [Db.MuteRules.Query.exec_frame ok]
      exact ⟨.refl _, .refl _, .refl _⟩
    | preferences q =>
      rw [Db.Preferences.Query.exec_frame ok]
      exact ⟨.refl _, .refl _, .refl _⟩
    | schemas q => exact Db.Schemas.Query.registered ok
    | services q => exact Db.Services.Query.registered ok

theorem schemas_exec (ext : Ext) (x : Choice) (o : Op) (w : World)
    (other : ¬ ∃ q, o = .sql (.schemas q)) :
    (exec ext x o w).2.db.notificationTypes = w.db.notificationTypes ∧
      (exec ext x o w).2.db.notificationLevels = w.db.notificationLevels := by
  rcases exec_db_cases ext x o w with same | ⟨q, a, rfl, -, ok⟩
  · rw [same]
    exact ⟨rfl, rfl⟩
  · generalize (exec ext x (.sql q) w).2.db = db at ok
    cases q with
    | notifications q =>
      rw [(Db.Notifications.Query.exec_cases ok).1]
      exact ⟨rfl, rfl⟩
    | muteRules q =>
      rw [Db.MuteRules.Query.exec_frame ok]
      exact ⟨rfl, rfl⟩
    | preferences q =>
      rw [Db.Preferences.Query.exec_frame ok]
      exact ⟨rfl, rfl⟩
    | schemas q => exact absurd ⟨q, rfl⟩ other
    | services q =>
      rw [Db.Services.Query.exec_frame ok]
      exact ⟨rfl, rfl⟩

/-- A service is found under its slug from then on, with the same id. -/
theorem service_exec (ext : Ext) (x : Choice) (o : Op) {slug : String} {r : ServiceRow}
    (found : w.db.services.lookup (.slug slug) = some r) :
    ∃ r', (exec ext x o w).2.db.services.lookup (.slug slug) = some r' ∧ r'.id = r.id := by
  obtain ⟨r', found', same⟩ := (registered_exec ext x o w).services _ r found
  simp only [Schema.keys, List.cons.injEq, ServiceKey.id.injEq] at same
  exact ⟨r', found', same.1⟩

theorem level_exec (ext : Ext) (x : Choice) (o : Op) {serviceId : Uuid} {key : String}
    {r : NotificationLevelRow}
    (found : w.db.notificationLevels.lookup (.key serviceId key) = some r) :
    ∃ r', (exec ext x o w).2.db.notificationLevels.lookup (.key serviceId key) = some r' ∧
      r'.id = r.id := by
  obtain ⟨r', found', same⟩ := (registered_exec ext x o w).notificationLevels _ r found
  simp only [Schema.keys, List.cons.injEq, NotificationLevelKey.id.injEq] at same
  exact ⟨r', found', same.1⟩

theorem type_exec (ext : Ext) (x : Choice) (o : Op) {serviceId : Uuid} {typeKey : String}
    {r : NotificationTypeRow}
    (found : w.db.notificationTypes.lookup (.typeKey serviceId typeKey) = some r) :
    ∃ r', (exec ext x o w).2.db.notificationTypes.lookup (.typeKey serviceId typeKey) = some r' ∧
      r'.id = r.id := by
  obtain ⟨r', found', same⟩ := (registered_exec ext x o w).notificationTypes _ r found
  simp only [Schema.keys, List.cons.injEq, NotificationTypeKey.id.injEq] at same
  exact ⟨r', found', same.1⟩

/-! ## Writing a type -/

/-- The type that an operation has written, and its keys. -/
def typeWritten : (o : Op) → o.Ans → Option (Uuid × String × NotificationTypeRow)
  | .sql (.schemas (.insertNotificationType serviceId typeKey ..)), .ok row =>
    some (serviceId, typeKey, row)
  | .sql (.schemas (.updateNotificationType serviceId typeKey ..)), .ok row =>
    some (serviceId, typeKey, row)
  | _, _ => none

theorem slug_mem_keys {r : ServiceRow} {slug : String} :
    ServiceKey.slug slug ∈ Schema.keys r ↔ r.slug = slug := by
  show ServiceKey.slug slug ∈ [.id r.id, .slug r.slug] ↔ _
  simp [eq_comm]

theorem typeKey_mem_keys {r : NotificationTypeRow} {serviceId : Uuid} {typeKey : String} :
    NotificationTypeKey.typeKey serviceId typeKey ∈ Schema.keys r ↔
      r.serviceId = serviceId ∧ r.typeKey = typeKey := by
  show NotificationTypeKey.typeKey serviceId typeKey ∈ [.id r.id, .typeKey r.serviceId r.typeKey] ↔ _
  simp [eq_comm]

theorem typeWritten_error (q : Sql) (e : DbError) : typeWritten (.sql q) (.error e) = none := by
  cases q with
  | schemas q => cases q <;> rfl
  | _ => rfl

theorem typeWritten_schemas {o : Op} {a : o.Ans} {written : Uuid × String × NotificationTypeRow}
    (h : typeWritten o a = some written) : ∃ q, o = .sql (.schemas q) := by
  unfold typeWritten at h
  split at h
  · exact ⟨_, rfl⟩
  · exact ⟨_, rfl⟩
  · cases h

theorem typeWritten_read {o : Op} (a : o.Ans) {serviceId : Uuid} {typeKey : String}
    (read : o = .sql (.schemas (.getNotificationType serviceId typeKey))) :
    typeWritten o a = none := by
  subst read
  rfl

/-- What is found under the key of a type after a statement: what it has written, or what was found
before. -/
theorem Db.Schemas.Query.types_exec {env : Env} {db db' : Db} {q : Schemas.Query} {a : q.Resp}
    (h : q.exec env db = .ok (a, db')) (serviceId : Uuid) (typeKey : String) :
    (∃ row, typeWritten (.sql (.schemas q)) (.ok a) = some (serviceId, typeKey, row) ∧
        db'.notificationTypes.lookup (.typeKey serviceId typeKey) = some row) ∨
      (∀ row, typeWritten (.sql (.schemas q)) (.ok a) ≠ some (serviceId, typeKey, row)) ∧
        db'.notificationTypes.lookup (.typeKey serviceId typeKey) =
          db.notificationTypes.lookup (.typeKey serviceId typeKey) := by
  cases q with
  | insertNotificationType serviceId' typeKey' =>
    obtain ⟨t, stored, h⟩ := map_eq_ok.1 h
    cases h
    have lookup := Table.lookup_insert (Db.Notifications.insertRow_ok stored)
      (.typeKey serviceId typeKey)
    by_cases same : serviceId' = serviceId ∧ typeKey' = typeKey
    · obtain ⟨rfl, rfl⟩ := same
      exact .inl ⟨_, rfl, lookup.trans (if_pos (typeKey_mem_keys.2 ⟨rfl, rfl⟩))⟩
    · refine .inr ⟨fun row written => same ?_, lookup.trans (if_neg fun key => ?_)⟩
      · cases written
        exact ⟨rfl, rfl⟩
      · exact same (typeKey_mem_keys.1 key)
  | updateNotificationType serviceId' typeKey' =>
    obtain ⟨⟨r, t⟩, stored, h⟩ := map_eq_ok.1 h
    cases h
    by_cases same : serviceId' = serviceId ∧ typeKey' = typeKey
    · obtain ⟨rfl, rfl⟩ := same
      exact .inl ⟨_, rfl, lookup_updateRow stored⟩
    · refine .inr ⟨fun row written => same ?_, ?_⟩
      · cases written
        exact ⟨rfl, rfl⟩
      · obtain ⟨_, _, _, rfl⟩ := updateRow_ok stored
        rw [Table.lookup_update]
        rcases found : db.notificationTypes.lookup (.typeKey serviceId typeKey) with _ | s
        · rfl
        · refine congrArg some (if_neg fun key => same ?_)
          obtain ⟨rfl, rfl⟩ := typeKey_mem_keys.1 (Table.key_of_lookup found)
          obtain ⟨same, same'⟩ := typeKey_mem_keys.1 (of_decide_eq_true key)
          exact ⟨same.symm, same'.symm⟩
  | insertNotificationLevel =>
    obtain ⟨t, stored, h⟩ := map_eq_ok.1 h
    cases h
    exact .inr ⟨fun _ written => (nomatch written), rfl⟩
  | updateNotificationLevel =>
    obtain ⟨⟨r, t⟩, stored, h⟩ := map_eq_ok.1 h
    cases h
    exact .inr ⟨fun _ written => (nomatch written), rfl⟩
  | listNotificationTypes =>
    obtain ⟨_, _, h⟩ := map_eq_ok.1 h
    cases h
    exact .inr ⟨fun _ written => (nomatch written), rfl⟩
  | _ =>
    cases h
    exact .inr ⟨fun _ written => (nomatch written), rfl⟩

/-- What is found under the key of a type after an operation: what it has written, or what was found
before. -/
theorem types_exec (ext : Ext) (x : Choice) (o : Op) (w : World) (serviceId : Uuid)
    (typeKey : String) :
    (∃ row, typeWritten o (exec ext x o w).1 = some (serviceId, typeKey, row) ∧
        (exec ext x o w).2.db.notificationTypes.lookup (.typeKey serviceId typeKey) = some row) ∨
      (∀ row, typeWritten o (exec ext x o w).1 ≠ some (serviceId, typeKey, row)) ∧
        (exec ext x o w).2.db.notificationTypes.lookup (.typeKey serviceId typeKey) =
          w.db.notificationTypes.lookup (.typeKey serviceId typeKey) := by
  by_cases schemas : ∃ q, o = .sql (.schemas q)
  · obtain ⟨q, rfl⟩ := schemas
    rcases execSql_cases ext x (.schemas q) w with ⟨e, failed⟩ | ⟨a, db, ok, answered⟩
    · simp only [exec, failed]
      refine .inr ⟨fun _ written => ?_, trivial⟩
      cases (typeWritten_error _ e).symm.trans written
    · simp only [exec, answered]
      exact Db.Schemas.Query.types_exec ok serviceId typeKey
  · refine .inr ⟨fun _ written => schemas (typeWritten_schemas written), ?_⟩
    rw [(schemas_exec ext x o w schemas).1]

/-- A type that is registered after an operation is one that it has written, or was registered
before. -/
theorem type_written_or_kept {typeId : Uuid} {row : NotificationTypeRow}
    (after : (exec ext x o w).2.db.notificationTypes.lookup (.id typeId) = some row) :
    (∃ serviceId typeKey, typeWritten o (exec ext x o w).1 = some (serviceId, typeKey, row)) ∨
      w.db.notificationTypes.lookup (.id typeId) = some row := by
  have keyed : (exec ext x o w).2.db.notificationTypes.lookup
      (.typeKey row.serviceId row.typeKey) = some row :=
    Table.lookup_of_mem (Table.mem_of_lookup after) (typeKey_mem_keys.2 ⟨rfl, rfl⟩)
  rcases types_exec ext x o w row.serviceId row.typeKey with ⟨row', written, found⟩ | ⟨-, same⟩
  · cases found.symm.trans keyed
    exact .inl ⟨_, _, written⟩
  · rw [same] at keyed
    exact .inr (Table.lookup_of_mem (Table.mem_of_lookup keyed) (Table.key_of_lookup after))

end Estafeta
