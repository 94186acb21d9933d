import Estafeta.World

/-!
# What the statements do to the notifications

Each statement of `db/notifications.rs` that changes rows addresses some of them (`addresses`: by
owner, id, service or time), changes only those in its source states (`sources`), and sets the
same fields in each (`set`). `Query.rewrite` is what it makes of one row; `notification_exec` says
once what any operation can do to the row of an id, and the invariants of the system follow from
it.
-/

open Relational Atomic

namespace Estafeta

namespace Db.Notifications

variable {env : Env} {db db' : Db} {q : Query} {r s : NotificationRow}

/-! ## The parts of a statement -/

/-- The rows that a statement is about: by owner, id or service, and by time. -/
def Query.addresses (now : Time) : Query → NotificationRow → Bool
  | .markSeen userId ids, r => r.recipientUserId = userId && r.id ∈ ids
  | .markAllSeen userId, r => r.recipientUserId = userId
  | .markRead userId ids, r => r.recipientUserId = userId && r.id ∈ ids
  | .markUnread userId ids, r => r.recipientUserId = userId && r.id ∈ ids
  | .snooze userId id _, r => r.recipientUserId = userId && r.id = id
  | .archive userId ids, r => r.recipientUserId = userId && r.id ∈ ids
  | .archiveAllInGroup userId serviceId, r =>
    r.recipientUserId = userId && r.serviceId = serviceId
  | .unarchive userId ids, r => r.recipientUserId = userId && r.id ∈ ids
  | .producerMarkRead userId ids, r => r.recipientUserId = userId && r.id ∈ ids
  | .wakeSnoozed _, r => r.snoozedUntil.any fun t => t ≤ now
  | .expireNotifications _, r => r.expiresAt.any fun t => t ≤ now
  | .updateEscalation id .., r => r.id = id
  | .resurfaceNotification id, r => r.id = id
  | .bumpNotification id, r => r.id = id
  | _, _ => false

/-- The states in which a statement changes a row. -/
def Query.sources : Query → List String
  | .markSeen .. => ["unseen"]
  | .markAllSeen _ => ["unseen"]
  | .markRead .. => ["unread"]
  | .markUnread .. => ["read"]
  | .snooze .. => ["unseen", "unread", "read"]
  | .archive .. => ["unseen", "unread", "read", "snoozed"]
  | .archiveAllInGroup .. => ["unseen", "unread", "read", "snoozed"]
  | .unarchive .. => ["archived"]
  | .producerMarkRead .. => ["unread"]
  | .wakeSnoozed _ => ["snoozed"]
  | .expireNotifications _ => ["unseen", "unread", "read"]
  | .updateEscalation .. => stateNames
  | .resurfaceNotification _ => stateNames
  | .bumpNotification _ => stateNames
  | _ => []

/-- The SET clause of a statement that changes nothing. -/
def keep : Assign NotificationRow where
  set r := r
  keys_set _ := rfl
  check_set _ h := h

/-- The SET clause of a statement. -/
def Query.set (now : Time) : Query → Assign NotificationRow
  | .markSeen userId ids => (Notifications.markSeen now userId ids).set
  | .markAllSeen userId => (Notifications.markAllSeen now userId).set
  | .markRead userId ids => (Notifications.markRead now userId ids).set
  | .markUnread userId ids => (Notifications.markUnread now userId ids).set
  | .snooze userId id until_ => (Notifications.snooze now userId id until_).set
  | .archive userId ids => (Notifications.archive now userId ids).set
  | .archiveAllInGroup userId serviceId => (Notifications.archiveAllInGroup now userId serviceId).set
  | .unarchive userId ids => (Notifications.unarchive now userId ids).set
  | .producerMarkRead userId ids => (Notifications.producerMarkRead now userId ids).set
  | .wakeSnoozed _ => wake now
  | .expireNotifications _ => expire now
  | .updateEscalation id count next => (Notifications.updateEscalation now id count next).set
  | .resurfaceNotification id => (Notifications.resurfaceNotification now id).set
  | .bumpNotification id => (Notifications.bumpNotification now id).set
  | _ => keep

/-- The rows of the batch that a statement is limited to. -/
def Query.batched (env : Env) (db : Db) : Query → NotificationRow → Bool
  | .wakeSnoozed batchSize, r =>
    match batch env (snoozeOver env.now) (·.snoozedUntil) batchSize db with
    | .ok rows => r.id ∈ rows.map (·.id)
    | .error _ => false
  | .expireNotifications batchSize, r =>
    match batch env (ttlOver env.now) (·.expiresAt) batchSize db with
    | .ok rows => r.id ∈ rows.map (·.id)
    | .error _ => false
  | _, _ => true

/-- The rows that a statement changes. -/
def Query.changes (env : Env) (db : Db) (q : Query) (r : NotificationRow) : Bool :=
  q.addresses env.now r && r.state ∈ q.sources && q.batched env db r

/-- What a statement makes of a row. -/
def Query.rewrite (env : Env) (db : Db) (q : Query) (r : NotificationRow) : NotificationRow :=
  if q.changes env db r then (q.set env.now).set r else r

/-! ## Batches -/

theorem page_sublist {α : Type} {limit offset : Int64} {rows l : List α}
    (h : page limit offset rows = .ok l) : l.Sublist rows := by
  unfold page at h
  split at h
  · cases h
  · cases h
    exact (List.take_sublist _ _).trans (List.drop_sublist _ _)

theorem mem_batch {due : NotificationRow → Bool} {time : NotificationRow → Option Time}
    {size : Int64} {rows : List NotificationRow} (h : batch env due time size db = .ok rows)
    (hr : r ∈ rows) : r ∈ db.notifications.rows ∧ due r = true := by
  have := (page_sublist h).subset hr
  simpa using this

theorem eq_of_id (hr : r ∈ db.notifications.rows) (hs : s ∈ db.notifications.rows)
    (same : r.id = s.id) : r = s :=
  Table.eq_of_mem_keys (k := NotificationKey.id r.id) hr hs (.head _) (same ▸ .head _)

theorem nodup_rows (t : Table NotificationRow) : t.rows.Nodup := by
  refine t.unique.imp ?_
  rintro r _ apart rfl
  exact apart (.id r.id) (.head _) (.head _)

theorem nodup_of_batch {due : NotificationRow → Bool} {time : NotificationRow → Option Time}
    {size : Int64} {rows : List NotificationRow} (h : batch env due time size db = .ok rows) :
    rows.Nodup :=
  (page_sublist h).nodup ((sortOn_perm ..).nodup_iff.2 ((nodup_rows _).filter _))

theorem nodup_ids_of_batch {due : NotificationRow → Bool} {time : NotificationRow → Option Time}
    {size : Int64} {rows : List NotificationRow} (h : batch env due time size db = .ok rows) :
    (rows.map (·.id)).Nodup := by
  refine List.Nodup.map_on (fun r hr s hs same => ?_) (nodup_of_batch h)
  exact eq_of_id (mem_batch h hr).1 (mem_batch h hs).1 same

theorem due_of_mem_ids {due : NotificationRow → Bool} {time : NotificationRow → Option Time}
    {size : Int64} {rows : List NotificationRow} (h : batch env due time size db = .ok rows)
    (stored : r ∈ db.notifications.rows) (hr : r.id ∈ rows.map (·.id)) : due r = true := by
  obtain ⟨s, hs, same⟩ := List.mem_map.1 hr
  obtain ⟨hs, due⟩ := mem_batch h hs
  rwa [eq_of_id stored hs same.symm]

/-! ## Running a statement -/

theorem insertRow_ok {ρ : Type} [Schema ρ] {t t' : Table ρ} {r : ρ} {references : Bool}
    (h : insertRow t r references = .ok t') : t.insert r = .ok t' := by
  unfold insertRow at h
  split at h
  · cases h
  · split at h
    · rwa [← Except.ok.inj h]
    · cases h

theorem update_congr {t : Table NotificationRow} {p p' : NotificationRow → Bool}
    {f : Assign NotificationRow} (h : ∀ r ∈ t.rows, p r = p' r) : t.update p f = t.update p' f := by
  apply Table.ext
  exact List.map_congr_left fun r hr => by rw [h r hr]

theorem state_mem (h : r ∈ db.notifications.rows) : r.state ∈ stateNames := by
  simpa [Schema.check] using db.notifications.checked r h

/-- The UPDATE of a batch changes the rows of the batch that are due. -/
theorem updateBatch_notifications {due : NotificationRow → Bool}
    {time : NotificationRow → Option Time} {size : Int64} {rows : List NotificationRow}
    {f : Assign NotificationRow} {p : NotificationRow → Bool}
    (h : batch env due time size db = .ok rows)
    (hp : ∀ r, p r = (due r && r.id ∈ rows.map (·.id))) :
    (updateBatch env rows f db).2.notifications = db.notifications.update p f := by
  refine update_congr fun r hr => ?_
  rw [hp]
  by_cases mem : r.id ∈ rows.map (·.id)
  · simp [mem, due_of_mem_ids h hr mem]
  · simp [mem]

/-- A statement inserts a notification, or rewrites the stored ones; it changes no other table. -/
theorem Query.exec_cases {a : q.Resp} (h : q.exec env db = .ok (a, db')) :
    db' = { db with notifications := db'.notifications } ∧
      ((∃ n, q = .insertNotification n ∧
          db.notifications.insert (n.row env.now) = .ok db'.notifications) ∨
        db'.notifications = db.notifications.update (q.changes env db) (q.set env.now)) := by
  have kept : ∀ {t : Table NotificationRow} {p f}, (∀ r ∈ t.rows, p r = false) → t = t.update p f :=
    fun h => (Table.update_of_forall h).symm
  cases q with
  | insertNotification n =>
    obtain ⟨t, inserted, rfl, rfl⟩ := by
      simpa only [Query.exec, Notifications.insertNotification, map_eq_ok, Prod.mk.injEq] using h
    exact ⟨rfl, .inl ⟨n, rfl, insertRow_ok inserted⟩⟩
  | wakeSnoozed size =>
    obtain ⟨rows, picked, h⟩ := by
      simpa only [Query.exec, Notifications.wakeSnoozed, map_eq_ok] using h
    cases h
    refine ⟨rfl, .inr (updateBatch_notifications picked fun r => ?_)⟩
    simp [Query.changes, Query.addresses, Query.sources, Query.batched, picked, snoozeOver,
      Bool.and_comm]
  | expireNotifications size =>
    obtain ⟨rows, picked, h⟩ := by
      simpa only [Query.exec, Notifications.expireNotifications, map_eq_ok] using h
    cases h
    refine ⟨rfl, .inr (updateBatch_notifications picked fun r => ?_)⟩
    simp [Query.changes, Query.addresses, Query.sources, Query.batched, picked, ttlOver]
  | getNotification id | countUnseen | countUnseenByService | countUnread | countUnreadByService =>
    cases h
    exact ⟨rfl, .inr (kept fun r _ => by simp [Query.changes, Query.addresses])⟩
  | listNotifications | getEscalationDue =>
    obtain ⟨rows, _, rfl, rfl⟩ := by
      simpa only [Query.exec, map_eq_ok, Prod.mk.injEq] using h
    exact ⟨rfl, .inr (kept fun r _ => by simp [Query.changes, Query.addresses])⟩
  | updateEscalation | resurfaceNotification | bumpNotification =>
    cases h
    refine ⟨rfl, .inr (update_congr fun r hr => ?_)⟩
    simp [Query.changes, Query.addresses, Query.sources, Query.batched, state_mem hr,
      Notifications.updateEscalation, Notifications.resurfaceNotification,
      Notifications.bumpNotification]
  | _ =>
    cases h
    refine ⟨rfl, .inr (update_congr fun r hr => ?_)⟩
    simp [Query.changes, Query.addresses, Query.sources, Query.batched, Notifications.markSeen,
      Notifications.markAllSeen, Notifications.markRead, Notifications.markUnread,
      Notifications.snooze, Notifications.archive, Notifications.archiveAllInGroup,
      Notifications.unarchive, Notifications.producerMarkRead]

/-! ## Rewriting a row -/

theorem lookup_rewrite (k : NotificationKey) :
    (db.notifications.update (q.changes env db) (q.set env.now)).lookup k =
      (db.notifications.lookup k).map (q.rewrite env db) :=
  Table.lookup_update _ _ _ _

theorem rewrite_keys (env : Env) (db : Db) (q : Query) (r : NotificationRow) :
    Schema.keys (q.rewrite env db r) = Schema.keys r := by
  unfold Query.rewrite
  split
  · exact (q.set env.now).keys_set r
  · rfl

@[simp] theorem rewrite_id (q : Query) (r : NotificationRow) : (q.rewrite env db r).id = r.id := by
  have := rewrite_keys env db q r
  simp only [Schema.keys, List.cons.injEq, NotificationKey.id.injEq] at this
  exact this.1

/-- No statement changes whom a notification is for, or what it is about. -/
@[simp] theorem rewrite_recipient (q : Query) (r : NotificationRow) :
    (q.rewrite env db r).recipientUserId = r.recipientUserId := by
  unfold Query.rewrite
  split
  · cases q <;> rfl
  · rfl

@[simp] theorem rewrite_serviceId (q : Query) (r : NotificationRow) :
    (q.rewrite env db r).serviceId = r.serviceId := by
  unfold Query.rewrite
  split
  · cases q <;> rfl
  · rfl

@[simp] theorem rewrite_typeId (q : Query) (r : NotificationRow) :
    (q.rewrite env db r).notificationTypeId = r.notificationTypeId := by
  unfold Query.rewrite
  split
  · cases q <;> rfl
  · rfl

theorem rewrite_of_source (h : r.state ∉ q.sources) : q.rewrite env db r = r := by
  simp [Query.rewrite, Query.changes, h]

theorem rewrite_of_address (h : q.addresses env.now r = false) : q.rewrite env db r = r := by
  simp [Query.rewrite, Query.changes, h]

@[simp] theorem rewrite_insert (n : InsertNotification) :
    (Query.insertNotification n).rewrite env db r = r :=
  rewrite_of_address rfl

/-- A statement rewrites a row only if it addresses it in one of its source states. -/
theorem rewrite_cases (env : Env) (db : Db) (q : Query) (r : NotificationRow) :
    q.rewrite env db r = r ∨
      q.addresses env.now r = true ∧ r.state ∈ q.sources ∧
        q.rewrite env db r = (q.set env.now).set r := by
  unfold Query.rewrite
  split
  next changed =>
    simp only [Query.changes, Bool.and_eq_true, decide_eq_true_eq] at changed
    exact .inr ⟨changed.1.1, changed.1.2, rfl⟩
  next => exact .inl rfl

theorem rewrite_by_id (stored : r ∈ db.notifications.rows) (all : q.sources = stateNames)
    (addressed : q.addresses env.now r = true) (unlimited : q.batched env db r = true) :
    q.rewrite env db r = (q.set env.now).set r := by
  refine if_pos ?_
  rw [Query.changes, all, addressed, unlimited, decide_eq_true (state_mem stored)]
  rfl

end Db.Notifications

/-! ## The other modules -/

theorem Db.MuteRules.Query.exec_frame {env : Env} {db db' : Db} {q : MuteRules.Query} {a : q.Resp}
    (h : q.exec env db = .ok (a, db')) : db' = { db with muteRules := db'.muteRules } := by
  cases q with
  | insertMuteRule =>
    obtain ⟨t, _, h⟩ := map_eq_ok.1 h
    cases h
    rfl
  | _ =>
    cases h
    rfl

theorem Db.Preferences.Query.exec_frame {env : Env} {db db' : Db} {q : Preferences.Query}
    {a : q.Resp} (h : q.exec env db = .ok (a, db')) :
    db' = { db with
      userPreferences := db'.userPreferences
      userServicePreferences := db'.userServicePreferences
      userTypePreferences := db'.userTypePreferences
      globalPolicies := db'.globalPolicies } := by
  cases q with
  | deleteServicePreference | deleteTypePreference | listServicePreferences
  | listTypePreferences =>
    cases h
    rfl
  | updateGlobalPolicy =>
    simp only [exec, Preferences.updateGlobalPolicy] at h
    split at h
    · cases h
    · obtain ⟨t, _, h⟩ := map_eq_ok.1 h
      cases h
      rfl
  | _ =>
    obtain ⟨t, _, h⟩ := map_eq_ok.1 h
    cases h
    rfl

theorem Db.Schemas.Query.exec_frame {env : Env} {db db' : Db} {q : Schemas.Query} {a : q.Resp}
    (h : q.exec env db = .ok (a, db')) :
    db' = { db with
      notificationTypes := db'.notificationTypes
      notificationLevels := db'.notificationLevels } := by
  cases q with
  | getNotificationType | getNotificationTypeById | listNotificationLevels
  | getNotificationLevel =>
    cases h
    rfl
  | _ =>
    obtain ⟨t, _, h⟩ := map_eq_ok.1 h
    cases h
    rfl

theorem Db.Services.Query.exec_frame {env : Env} {db db' : Db} {q : Services.Query} {a : q.Resp}
    (h : q.exec env db = .ok (a, db')) : db' = { db with services := db'.services } := by
  cases q with
  | getServiceBySlug | setServiceEnabled | countServices =>
    cases h
    rfl
  | _ =>
    obtain ⟨t, _, h⟩ := map_eq_ok.1 h
    cases h
    rfl

/-! ## Operations -/

/-- The row of a notification. -/
def World.notification (w : World) (id : Uuid) : Option NotificationRow :=
  w.db.notifications.lookup (.id id)

theorem World.id_of {w : World} {id : Uuid} {r : NotificationRow}
    (h : w.notification id = some r) : r.id = id := by
  have key := Table.key_of_lookup h
  simp only [Schema.keys, List.mem_cons, Option.mem_toList, Option.map_eq_some_iff, reduceCtorEq,
    and_false, exists_false, or_false] at key
  exact (NotificationKey.id.inj key).symm

/-- The statement on notifications that an operation ran successfully. -/
def ran : (o : Op) → o.Ans → Option Db.Notifications.Query
  | .sql (.notifications q), .ok _ => some q
  | _, _ => none

theorem op_of_ran {o : Op} {a : o.Ans} {q : Db.Notifications.Query} (h : ran o a = some q) :
    o = .sql (.notifications q) := by
  unfold ran at h
  split at h
  · cases h
    rfl
  · cases h

/-- The notification that an operation inserted. -/
def inserted (o : Op) (a : o.Ans) : Option Db.Notifications.InsertNotification :=
  match ran o a with
  | some (.insertNotification n) => some n
  | _ => none

theorem inserted_eq_some {o : Op} {a : o.Ans} {n : Db.Notifications.InsertNotification} :
    inserted o a = some n ↔ ran o a = some (.insertNotification n) := by
  unfold inserted
  split
  next m h => simp [h]
  next h => simpa using h n

section

variable {ext : Ext} {x : Choice} {q : Sql} {w : World}

theorem execSql_of_failure {e : DbError} (failure : x.failure = some e) :
    execSql ext x q w = (.error e, w) := by
  unfold execSql
  rw [failure]

theorem execSql_of_overflow (works : x.failure = none)
    (overflow : q.instants.all inTimestamptz = false) :
    execSql ext x q w = (.error .datetimeOverflow, w) := by
  unfold execSql
  rw [works]
  dsimp only
  rw [overflow]
  exact if_neg Bool.false_ne_true

theorem execSql_of_error {e : DbError} (works : x.failure = none)
    (bound : q.instants.all inTimestamptz = true) (error : q.exec (x.env ext) w.db = .error e) :
    execSql ext x q w = (.error e, w) := by
  unfold execSql
  rw [works]
  dsimp only
  rw [if_pos bound, error]

theorem execSql_of_ok {a : q.Resp} {db : Db} (works : x.failure = none)
    (bound : q.instants.all inTimestamptz = true) (ok : q.exec (x.env ext) w.db = .ok (a, db)) :
    execSql ext x q w = (.ok a, { w with db := db }) := by
  unfold execSql
  rw [works]
  dsimp only
  rw [if_pos bound, ok]

end

/-- A statement fails and changes nothing, or succeeds. -/
theorem execSql_cases (ext : Ext) (x : Choice) (q : Sql) (w : World) :
    (∃ e, execSql ext x q w = (.error e, w)) ∨
      ∃ a db, q.exec (x.env ext) w.db = .ok (a, db) ∧
        execSql ext x q w = (.ok a, { w with db := db }) := by
  cases failure : x.failure with
  | some e => exact .inl ⟨e, execSql_of_failure failure⟩
  | none =>
    cases bound : q.instants.all inTimestamptz with
    | false => exact .inl ⟨.datetimeOverflow, execSql_of_overflow failure bound⟩
    | true =>
      rcases answer : q.exec (x.env ext) w.db with e | ⟨a, db⟩
      · exact .inl ⟨e, execSql_of_error failure bound answer⟩
      · exact .inr ⟨a, db, rfl, execSql_of_ok failure bound answer⟩

theorem exec_db_of_not_sql {ext : Ext} {x : Choice} {o : Op} {w : World} (h : ∀ q, o ≠ .sql q) :
    (exec ext x o w).2.db = w.db := by
  cases o with
  | sql q => exact absurd rfl (h q)
  | publishIngest | publish | ack =>
    simp only [exec]
    split <;> rfl
  | _ => rfl

/-- An operation leaves the database alone, or is a statement that succeeds. -/
theorem exec_db_cases (ext : Ext) (x : Choice) (o : Op) (w : World) :
    (exec ext x o w).2.db = w.db ∨ ∃ q a, o = .sql q ∧ (exec ext x (.sql q) w).1 = .ok a ∧
      q.exec (x.env ext) w.db = .ok (a, (exec ext x o w).2.db) := by
  by_cases sql : ∃ q, o = .sql q
  · obtain ⟨q, rfl⟩ := sql
    rcases execSql_cases ext x q w with ⟨e, failed⟩ | ⟨a, db, ok, answered⟩
    · exact .inl (congrArg (fun r => r.2.db) failed)
    · refine .inr ⟨q, a, rfl, congrArg Prod.fst answered, ?_⟩
      rw [ok, exec, answered]
  · exact .inl (exec_db_of_not_sql fun q h => sql ⟨q, h⟩)

/-- What an operation can do to the notifications: insert one, rewrite them, or leave them alone. -/
theorem notifications_exec (ext : Ext) (x : Choice) (o : Op) (w : World) :
    (∃ n, ran o (exec ext x o w).1 = some (.insertNotification n) ∧
        w.db.notifications.insert (n.row x.now) = .ok (exec ext x o w).2.db.notifications) ∨
      (∃ q, ran o (exec ext x o w).1 = some q ∧ (∀ n, q ≠ .insertNotification n) ∧
        (exec ext x o w).2.db.notifications =
          w.db.notifications.update (q.changes (x.env ext) w.db) (q.set x.now)) ∨
      ran o (exec ext x o w).1 = none ∧
        (exec ext x o w).2.db.notifications = w.db.notifications := by
  by_cases sql : ∃ q, o = .sql q
  · obtain ⟨q, rfl⟩ := sql
    rcases execSql_cases ext x q w with ⟨e, failed⟩ | ⟨a, db, ok, answered⟩
    · simp only [exec, failed]
      refine .inr (.inr ⟨?_, trivial⟩)
      cases q <;> rfl
    · simp only [exec, answered]
      cases q with
      | notifications q =>
        by_cases insertion : ∃ n, q = .insertNotification n
        · obtain ⟨n, rfl⟩ := insertion
          obtain ⟨t, stored, same⟩ := map_eq_ok.1 ok
          cases same
          exact .inl ⟨n, rfl, Db.Notifications.insertRow_ok stored⟩
        · obtain ⟨_, ⟨n, same, _⟩ | updated⟩ := Db.Notifications.Query.exec_cases ok
          · exact absurd ⟨n, same⟩ insertion
          · exact .inr (.inl ⟨q, rfl, fun n same => insertion ⟨n, same⟩, updated⟩)
      | muteRules q =>
        rw [Db.MuteRules.Query.exec_frame ok]
        exact .inr (.inr ⟨rfl, rfl⟩)
      | preferences q =>
        rw [Db.Preferences.Query.exec_frame ok]
        exact .inr (.inr ⟨rfl, rfl⟩)
      | schemas q =>
        rw [Db.Schemas.Query.exec_frame ok]
        exact .inr (.inr ⟨rfl, rfl⟩)
      | services q =>
        rw [Db.Services.Query.exec_frame ok]
        exact .inr (.inr ⟨rfl, rfl⟩)
  · have other : ∀ q, o ≠ .sql q := fun q h => sql ⟨q, h⟩
    refine .inr (.inr ⟨?_, congrArg (·.notifications) (exec_db_of_not_sql other)⟩)
    cases o with
    | sql q => exact absurd rfl (other q)
    | _ => rfl

/-- What an operation can do to a notification: insert it, rewrite it, or leave it alone. -/
theorem notification_exec (ext : Ext) (x : Choice) (o : Op) (w : World) (id : Uuid) :
    (∃ n, inserted o (exec ext x o w).1 = some n ∧ n.id = id ∧ w.notification id = none ∧
        (exec ext x o w).2.notification id = some (n.row x.now)) ∨
      (∃ q, ran o (exec ext x o w).1 = some q ∧
        (exec ext x o w).2.notification id =
          (w.notification id).map (q.rewrite (x.env ext) w.db)) ∨
      ran o (exec ext x o w).1 = none ∧
        (exec ext x o w).2.notification id = w.notification id := by
  simp only [World.notification]
  rcases notifications_exec ext x o w with ⟨n, hq, stored⟩ | ⟨q, hq, _, updated⟩ | ⟨none, same⟩
  · rw [Table.lookup_insert stored]
    by_cases same : n.id = id
    · have key : NotificationKey.id id ∈ Schema.keys (n.row x.now) := by
        rw [← same]
        exact .head _
      exact .inl ⟨n, inserted_eq_some.2 hq, same, Table.insert_fresh stored key, if_pos key⟩
    · have other : NotificationKey.id id ∉ Schema.keys (n.row x.now) := by
        simp [Schema.keys, Db.Notifications.InsertNotification.row, Ne.symm same]
      refine .inr (.inl ⟨_, hq, (if_neg other).trans ?_⟩)
      rw [Option.map_congr (g := fun r => r) fun r _ => Db.Notifications.rewrite_insert n]
      simp
  · rw [updated]
    exact .inr (.inl ⟨q, hq, Db.Notifications.lookup_rewrite _⟩)
  · rw [same]
    exact .inr (.inr ⟨none, rfl⟩)

theorem acked_exec {ext : Ext} {x : Choice} {o : Op} {w : World} (h : ∀ k, o ≠ .ack k) :
    (exec ext x o w).2.acked = w.acked := by
  cases o with
  | ack k => exact absurd rfl (h k)
  | sql q => rcases execSql_cases ext x q w with ⟨e, failed⟩ | ⟨a, db, ok, answered⟩ <;> simp [exec, *]
  | publishIngest | publish =>
    simp only [exec]
    split <;> rfl
  | _ => rfl

end Estafeta
