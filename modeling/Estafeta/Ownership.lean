import Estafeta.Histories

/-!
# Whose rows a statement changes

A statement with an owner changes nothing but rows of its owner (`owner_exec`), and a statement that
reads changes nothing at all (`reads_exec`).
-/

open Relational Atomic

namespace Estafeta

/-- Two databases differ only in rows of a user. -/
structure Db.OnlyRowsOf (userId : String) (db db' : Db) : Prop where
  services : db'.services = db.services
  notificationTypes : db'.notificationTypes = db.notificationTypes
  notificationLevels : db'.notificationLevels = db.notificationLevels
  globalPolicies : db'.globalPolicies = db.globalPolicies
  notifications : db'.notifications.select (fun r => r.recipientUserId ≠ userId) =
    db.notifications.select fun r => r.recipientUserId ≠ userId
  userPreferences : db'.userPreferences.select (fun r => r.userId ≠ userId) =
    db.userPreferences.select fun r => r.userId ≠ userId
  userServicePreferences : db'.userServicePreferences.select (fun r => r.userId ≠ userId) =
    db.userServicePreferences.select fun r => r.userId ≠ userId
  userTypePreferences : db'.userTypePreferences.select (fun r => r.userId ≠ userId) =
    db.userTypePreferences.select fun r => r.userId ≠ userId
  muteRules : db'.muteRules.select (fun r => r.userId ≠ userId) =
    db.muteRules.select fun r => r.userId ≠ userId

theorem Db.OnlyRowsOf.refl (userId : String) (db : Db) : OnlyRowsOf userId db db :=
  ⟨rfl, rfl, rfl, rfl, rfl, rfl, rfl, rfl, rfl⟩

variable {env : Env} {db db' : Db} {userId : String}

/-! ## Statements of an owner -/

theorem select_upsertRow {ρ : Type} [Schema ρ] {t t' : Table ρ} {k : Schema.Key ρ} {r a : ρ}
    {f : Assign ρ} {references : Bool} {own : ρ → Bool}
    (h : upsertRow t k r f references = .ok (a, t')) (same : ∀ s, own (f.set s) = own s)
    (key : ∀ s, k ∈ Schema.keys s → own s = false) (other : own r = false) :
    t'.select own = t.select own := by
  unfold upsertRow at h
  split at h
  · cases h
    exact Table.select_update_other same fun s hs => key s (by simpa using hs)
  · obtain ⟨t', stored, h⟩ := map_eq_ok.1 h
    cases h
    exact Table.select_insert_other (Db.Notifications.insertRow_ok stored) other

namespace Db

theorem Notifications.addresses_owner {q : Notifications.Query} {r : NotificationRow} {now : Time}
    (owned : (Sql.notifications q).owner = some userId) (addressed : q.addresses now r = true) :
    r.recipientUserId = userId := by
  cases q <;> simp_all [Sql.owner, Notifications.Query.addresses]

theorem Notifications.owner_exec {q : Notifications.Query} {a : q.Resp}
    (owned : (Sql.notifications q).owner = some userId) (h : q.exec env db = .ok (a, db')) :
    OnlyRowsOf userId db db' := by
  obtain ⟨frame, ⟨n, rfl, _⟩ | updated⟩ := Notifications.Query.exec_cases h
  · cases owned
  · rw [frame]
    refine { OnlyRowsOf.refl userId db with notifications := ?_ }
    show db'.notifications.select _ = _
    rw [updated]
    refine Table.select_update_other (fun r => ?_) fun r hr => ?_
    · cases q <;> rfl
    · simp only [Notifications.Query.changes, Bool.and_eq_true] at hr
      simpa using addresses_owner owned hr.1.1

theorem MuteRules.owner_exec {q : MuteRules.Query} {a : q.Resp}
    (owned : (Sql.muteRules q).owner = some userId) (h : q.exec env db = .ok (a, db')) :
    OnlyRowsOf userId db db' := by
  cases q with
  | insertMuteRule =>
    obtain ⟨t, stored, h⟩ := map_eq_ok.1 h
    cases h
    cases owned
    refine { OnlyRowsOf.refl _ db with muteRules := ?_ }
    exact Table.select_insert_other (Notifications.insertRow_ok stored) (by simp)
  | deleteMuteRule =>
    cases h
    cases owned
    refine { OnlyRowsOf.refl _ db with muteRules := ?_ }
    exact Table.select_delete_other fun r hr => by simp_all
  | listMuteRules | listActiveMuteRules =>
    cases h
    exact .refl _ _

theorem Preferences.owner_exec {q : Preferences.Query} {a : q.Resp}
    (owned : (Sql.preferences q).owner = some userId) (h : q.exec env db = .ok (a, db')) :
    OnlyRowsOf userId db db' := by
  cases q with
  | getOrCreateUserPreference | updateUserPreference =>
    obtain ⟨⟨r, t⟩, stored, h⟩ := map_eq_ok.1 h
    cases h
    cases owned
    refine { OnlyRowsOf.refl _ db with userPreferences := ?_ }
    refine select_upsertRow stored (fun _ => rfl) (fun r hr => ?_) ?_
    · simp [userId_mem_keys.1 hr]
    · simp [defaultPreference]
  | upsertServicePreference =>
    obtain ⟨⟨r, t⟩, stored, h⟩ := map_eq_ok.1 h
    cases h
    cases owned
    refine { OnlyRowsOf.refl _ db with userServicePreferences := ?_ }
    refine select_upsertRow stored (fun _ => rfl) (fun r hr => ?_) ?_
    · simp [(service_mem_keys.1 hr).1]
    · simp
  | upsertTypePreference =>
    obtain ⟨⟨r, t⟩, stored, h⟩ := map_eq_ok.1 h
    cases h
    cases owned
    refine { OnlyRowsOf.refl _ db with userTypePreferences := ?_ }
    refine select_upsertRow stored (fun _ => rfl) (fun r hr => ?_) ?_
    · simp [(type_mem_keys.1 hr).1]
    · simp
  | deleteServicePreference =>
    cases h
    cases owned
    refine { OnlyRowsOf.refl _ db with userServicePreferences := ?_ }
    exact Table.select_delete_other fun r hr => by simp_all
  | deleteTypePreference =>
    cases h
    cases owned
    refine { OnlyRowsOf.refl _ db with userTypePreferences := ?_ }
    exact Table.select_delete_other fun r hr => by simp_all
  | listServicePreferences | listTypePreferences =>
    cases h
    exact .refl _ _
  | getGlobalPolicy | updateGlobalPolicy => cases owned

end Db

/-- A statement with an owner changes only rows of the owner. -/
theorem owner_exec {q : Sql} {a : q.Resp} (owned : q.owner = some userId)
    (h : q.exec env db = .ok (a, db')) : db.OnlyRowsOf userId db' := by
  cases q with
  | notifications q => exact Db.Notifications.owner_exec owned h
  | muteRules q => exact Db.MuteRules.owner_exec owned h
  | preferences q => exact Db.Preferences.owner_exec owned h
  | schemas q => cases owned
  | services q => cases owned

/-! ## Statements that read -/

theorem reads_exec {q : Sql} {a : q.Resp} (reads : q.reads = true)
    (h : q.exec env db = .ok (a, db')) : db' = db := by
  cases q with
  | notifications q =>
    cases q with
    | getNotification | countUnseen | countUnseenByService | countUnread | countUnreadByService =>
      cases h
      rfl
    | listNotifications =>
      obtain ⟨rows, _, h⟩ := map_eq_ok.1 h
      cases h
      rfl
    | _ => cases reads
  | muteRules q =>
    cases q with
    | listMuteRules | listActiveMuteRules =>
      cases h
      rfl
    | _ => cases reads
  | preferences q =>
    cases q with
    | listServicePreferences | listTypePreferences =>
      cases h
      rfl
    | getGlobalPolicy =>
      obtain ⟨r, _, h⟩ := map_eq_ok.1 h
      cases h
      rfl
    | _ => cases reads
  | schemas q =>
    cases q with
    | getNotificationType | getNotificationTypeById | listNotificationLevels
    | getNotificationLevel =>
      cases h
      rfl
    | listNotificationTypes =>
      obtain ⟨rows, _, h⟩ := map_eq_ok.1 h
      cases h
      rfl
    | _ => cases reads
  | services q =>
    cases q with
    | getServiceBySlug | countServices =>
      cases h
      rfl
    | listServices =>
      obtain ⟨rows, _, h⟩ := map_eq_ok.1 h
      cases h
      rfl
    | _ => cases reads

end Estafeta
