import Estafeta.CacheKeys
import Estafeta.MuteRules
import Estafeta.Provenance

/-!
# References between the tables

Every reference of a stored row is to a stored row. Beyond what the foreign keys say, a notification
belongs to the service of its type, although type and service have come through a cache, and a mute
rule for a type names the service of the type (`coherent`).
-/

open Relational Atomic

namespace Estafeta

/-! ## Foreign keys -/

/-- The service is stored. -/
def Db.HasService (db : Db) (id : Uuid) : Prop := (db.services.lookup (.id id)).isSome = true

/-- The type is stored. -/
def Db.HasType (db : Db) (id : Uuid) : Prop := (db.notificationTypes.lookup (.id id)).isSome = true

/-- The level is stored. -/
def Db.HasLevel (db : Db) (id : Uuid) : Prop := (db.notificationLevels.lookup (.id id)).isSome = true

/-- What the foreign keys of the rows of a database refer to is stored in another one. -/
structure Db.RefersTo (db target : Db) : Prop where
  types : ∀ t ∈ db.notificationTypes.rows, target.HasService t.serviceId
  levels : ∀ l ∈ db.notificationLevels.rows, target.HasService l.serviceId
  notifications : ∀ r ∈ db.notifications.rows, Db.Notifications.references target r = true
  servicePreferences : ∀ r ∈ db.userServicePreferences.rows, target.HasService r.serviceId
  typePreferences : ∀ r ∈ db.userTypePreferences.rows, target.HasType r.notificationTypeId
  muteRules : ∀ r ∈ db.muteRules.rows, (∀ s, r.serviceId = some s → target.HasService s) ∧
    ∀ t, r.notificationTypeId = some t → target.HasType t

section Statements

variable {ρ : Type} [Schema ρ] {t t' : Table ρ} {k : Schema.Key ρ} {r a : ρ} {f : Assign ρ}
  {references : Bool} {P : ρ → Prop}

theorem insertRow_references (h : insertRow t r references = .ok t') : references = true := by
  unfold insertRow at h
  split at h
  · cases h
  · by_contra missing
    rw [if_neg missing] at h
    cases h

theorem forall_insertRow (h : insertRow t r references = .ok t') (old : ∀ s ∈ t.rows, P s)
    (new : references = true → P r) : ∀ s ∈ t'.rows, P s :=
  Table.forall_insert (Db.Notifications.insertRow_ok h) old (new (insertRow_references h))

theorem forall_updateRow (h : updateRow t k f = .ok (a, t')) (old : ∀ s ∈ t.rows, P s)
    (set : ∀ s, P s → P (f.set s)) : ∀ s ∈ t'.rows, P s := by
  obtain ⟨_, _, _, rfl⟩ := updateRow_ok h
  exact Table.forall_update old set

theorem forall_upsertRow (h : upsertRow t k r f references = .ok (a, t')) (old : ∀ s ∈ t.rows, P s)
    (set : ∀ s, P s → P (f.set s)) (new : references = true → P r) : ∀ s ∈ t'.rows, P s := by
  unfold upsertRow at h
  split at h
  · cases h
    exact Table.forall_update old set
  · obtain ⟨t', stored, h⟩ := map_eq_ok.1 h
    cases h
    exact forall_insertRow stored old new

end Statements

section Kept

variable {db db' : Db}

theorem Db.HasService.mono {id : Uuid} (h : db.HasService id) (later : db.Registered db') :
    db'.HasService id := by
  obtain ⟨s, found⟩ := Option.isSome_iff_exists.1 h
  obtain ⟨s', found', _⟩ := later.services _ s found
  exact Option.isSome_iff_exists.2 ⟨s', found'⟩

theorem Db.HasType.mono {id : Uuid} (h : db.HasType id) (later : db.Registered db') :
    db'.HasType id := by
  obtain ⟨t, found⟩ := Option.isSome_iff_exists.1 h
  obtain ⟨t', found', _⟩ := later.notificationTypes _ t found
  exact Option.isSome_iff_exists.2 ⟨t', found'⟩

theorem Db.HasLevel.mono {id : Uuid} (h : db.HasLevel id) (later : db.Registered db') :
    db'.HasLevel id := by
  obtain ⟨l, found⟩ := Option.isSome_iff_exists.1 h
  obtain ⟨l', found', _⟩ := later.notificationLevels _ l found
  exact Option.isSome_iff_exists.2 ⟨l', found'⟩

theorem references_iff {r : NotificationRow} : Db.Notifications.references db r = true ↔
    db.HasService r.serviceId ∧ db.HasType r.notificationTypeId ∧
      ∀ l, r.levelId = some l → db.HasLevel l := by
  simp only [Db.Notifications.references, Bool.and_eq_true, Db.HasService, Db.HasType, Db.HasLevel,
    and_assoc]
  cases r.levelId <;> simp

theorem Db.RefersTo.mono (h : db.RefersTo db) (later : db.Registered db') : db.RefersTo db' where
  types t ht := (h.types t ht).mono later
  levels l hl := (h.levels l hl).mono later
  notifications r hr := by
    obtain ⟨service, type, level⟩ := references_iff.1 (h.notifications r hr)
    exact references_iff.2 ⟨service.mono later, type.mono later, fun l hl => (level l hl).mono later⟩
  servicePreferences r hr := (h.servicePreferences r hr).mono later
  typePreferences r hr := (h.typePreferences r hr).mono later
  muteRules r hr :=
    ⟨fun s hs => ((h.muteRules r hr).1 s hs).mono later,
      fun t ht => ((h.muteRules r hr).2 t ht).mono later⟩

theorem Db.Services.Query.refersTo {env : Env} {q : Services.Query} {a : q.Resp}
    (h : q.exec env db = .ok (a, db')) (old : db.RefersTo db') : db'.RefersTo db' := by
  have frame := Db.Services.Query.exec_frame h
  generalize db'.services = t at frame
  subst frame
  exact { old with }

theorem Db.Schemas.Query.refersTo {env : Env} {q : Schemas.Query} {a : q.Resp}
    (h : q.exec env db = .ok (a, db')) (old : db.RefersTo db') : db'.RefersTo db' := by
  cases q with
  | insertNotificationType serviceId =>
    obtain ⟨t, stored, h⟩ := map_eq_ok.1 h
    cases h
    exact { old with types := forall_insertRow stored old.types id }
  | updateNotificationType =>
    obtain ⟨⟨r, t⟩, stored, h⟩ := map_eq_ok.1 h
    cases h
    exact { old with types := forall_updateRow stored old.types fun _ => id }
  | insertNotificationLevel =>
    obtain ⟨t, stored, h⟩ := map_eq_ok.1 h
    cases h
    exact { old with levels := forall_insertRow stored old.levels id }
  | updateNotificationLevel =>
    obtain ⟨⟨r, t⟩, stored, h⟩ := map_eq_ok.1 h
    cases h
    exact { old with levels := forall_updateRow stored old.levels fun _ => id }
  | listNotificationTypes =>
    obtain ⟨_, _, h⟩ := map_eq_ok.1 h
    cases h
    exact old
  | _ =>
    cases h
    exact old

theorem Db.Preferences.Query.refersTo {env : Env} {q : Preferences.Query} {a : q.Resp}
    (h : q.exec env db = .ok (a, db')) (old : db.RefersTo db') : db'.RefersTo db' := by
  cases q with
  | upsertServicePreference =>
    obtain ⟨⟨r, t⟩, stored, h⟩ := map_eq_ok.1 h
    cases h
    exact { old with
      servicePreferences := forall_upsertRow stored old.servicePreferences (fun _ => id) id }
  | upsertTypePreference =>
    obtain ⟨⟨r, t⟩, stored, h⟩ := map_eq_ok.1 h
    cases h
    exact { old with
      typePreferences := forall_upsertRow stored old.typePreferences (fun _ => id) id }
  | deleteServicePreference =>
    cases h
    exact { old with servicePreferences := Table.forall_delete old.servicePreferences }
  | deleteTypePreference =>
    cases h
    exact { old with typePreferences := Table.forall_delete old.typePreferences }
  | getOrCreateUserPreference | updateUserPreference =>
    obtain ⟨⟨r, t⟩, stored, h⟩ := map_eq_ok.1 h
    cases h
    exact { old with }
  | updateGlobalPolicy =>
    simp only [exec, Preferences.updateGlobalPolicy] at h
    split at h
    · cases h
    · obtain ⟨t, _, h⟩ := map_eq_ok.1 h
      cases h
      exact { old with }
  | getGlobalPolicy =>
    obtain ⟨_, _, h⟩ := map_eq_ok.1 h
    cases h
    exact old
  | listServicePreferences | listTypePreferences =>
    cases h
    exact old

theorem Db.MuteRules.Query.refersTo {env : Env} {q : MuteRules.Query} {a : q.Resp}
    (h : q.exec env db = .ok (a, db')) (old : db.RefersTo db') : db'.RefersTo db' := by
  cases q with
  | insertMuteRule userId serviceId notificationTypeId =>
    obtain ⟨t, stored, h⟩ := map_eq_ok.1 h
    cases h
    refine { old with muteRules := forall_insertRow stored old.muteRules fun references => ?_ }
    obtain ⟨service, type⟩ := Bool.and_eq_true_iff.1 references
    refine ⟨fun s hs => ?_, fun t ht => ?_⟩
    · rw [show serviceId = some s from hs] at service
      exact service
    · rw [show notificationTypeId = some t from ht] at type
      exact type
  | deleteMuteRule =>
    cases h
    exact { old with muteRules := Table.forall_delete old.muteRules }
  | listMuteRules | listActiveMuteRules =>
    cases h
    exact old

theorem references_rewrite {target : Db} {env : Env} (q : Db.Notifications.Query)
    (r : NotificationRow) : Db.Notifications.references target (q.rewrite env db r) =
      Db.Notifications.references target r := by
  have keeps := (NotificationRow.Keeps.refl r).rewrite env db q
  unfold Db.Notifications.references
  rw [keeps.serviceId, keeps.notificationTypeId, keeps.levelId]

theorem Db.Notifications.Query.refersTo {env : Env} {q : Notifications.Query} {a : q.Resp}
    (h : q.exec env db = .ok (a, db')) (old : db.RefersTo db') : db'.RefersTo db' := by
  by_cases insertion : ∃ n, q = .insertNotification n
  · obtain ⟨n, rfl⟩ := insertion
    obtain ⟨t, stored, h⟩ := map_eq_ok.1 h
    cases h
    exact { old with notifications := forall_insertRow stored old.notifications id }
  · obtain ⟨frame, ⟨n, same, _⟩ | updated⟩ := Db.Notifications.Query.exec_cases h
    · exact absurd ⟨n, same⟩ insertion
    · rw [updated] at frame
      subst frame
      refine { old with notifications := ?_ }
      intro r hr
      obtain ⟨s, hs, rfl⟩ := List.mem_map.1 hr
      exact (references_rewrite q s).trans (old.notifications s hs)

end Kept

theorem refersTo_exec (ext : Ext) (x : Choice) (o : Op) (w : World) (h : w.db.RefersTo w.db) :
    (exec ext x o w).2.db.RefersTo (exec ext x o w).2.db := by
  have old := h.mono (registered_exec ext x o w)
  rcases exec_db_cases ext x o w with same | ⟨q, a, rfl, -, ok⟩
  · rw [same]
    exact h
  · generalize (exec ext x (.sql q) w).2.db = db at ok old
    cases q with
    | notifications q => exact Db.Notifications.Query.refersTo ok old
    | muteRules q => exact Db.MuteRules.Query.refersTo ok old
    | preferences q => exact Db.Preferences.Query.refersTo ok old
    | schemas q => exact Db.Schemas.Query.refersTo ok old
    | services q => exact Db.Services.Query.refersTo ok old

/-! ## Types and services -/

/-- The type belongs to the service. -/
def Db.TypeIn (db : Db) (typeId serviceId : Uuid) : Prop :=
  ∃ nt, db.notificationTypes.lookup (.id typeId) = some nt ∧ nt.serviceId = serviceId

section

variable {ext : Ext} {w₀ : World} {es : History} {p : State}

theorem Db.IsType.typeIn {db : Db} {slug key : String} {v : CachedNotificationType}
    (h : db.IsType slug key v) : db.TypeIn v.id v.serviceId := by
  obtain ⟨service, nt, _, found, serviceId, id, _⟩ := h
  refine ⟨nt, Table.lookup_of_mem (Table.mem_of_lookup found) (id ▸ .head _), ?_⟩
  rw [serviceId, (typeKey_mem_keys.1 (Table.key_of_lookup found)).1]

/-- A notification belongs to the service of its type, although both come from a cache. -/
theorem notification_typeIn (run : (system ext).Run (Pool.idle w₀) es p)
    (cold : ∀ inst c key, w₀.caches inst c key = none) (empty : w₀.db.notifications = .empty) :
    ∀ r ∈ p.world.db.notifications.rows,
      p.world.db.TypeIn r.notificationTypeId r.serviceId := by
  intro r stored
  obtain ⟨g, watched, _⟩ := phased run
  obtain ⟨d, hd, n, ins, keeps⟩ := origin watched empty r stored
  obtain ⟨pre, post, split⟩ := List.append_of_mem hd
  have op : d.op = .sql (.notifications (.insertNotification n)) :=
    op_of_ran (inserted_eq_some.1 ins)
  obtain ⟨inst, seq, _, justified⟩ := justified_of_stores run split (by rw [op]; rfl)
  rw [op] at justified
  generalize past : doneBy pre d.tid = h at justified
  cases justified with
  | @store h m notifType level level' prefs expiresAt nextEscalationAt now received typed =>
    have longer : h <+: doneBy es d.tid := by
      rw [split, doneBy_append, past]
      exact List.prefix_append ..
    obtain ⟨_, _, _, split', put⟩ := got_origin run cold (typed.mono longer)
    obtain ⟨_, _, _, registered⟩ := inserted_type run split' put
    have own : r.serviceId = notifType.serviceId := keeps.serviceId
    have type : r.notificationTypeId = notifType.id := keeps.notificationTypeId
    rw [own, type]
    exact registered.typeIn
  | other stores => cases stores

theorem createMuteRule_of_op (run : (system ext).Run (Pool.idle w₀) es p)
    {e : Event Call Op Op.Ans World Choice} (he : e ∈ es) {userId : String}
    {serviceId typeId : Option Uuid} {until_ : Option Time}
    (op : e.op = .sql (.muteRules (.insertMuteRule userId serviceId typeId until_))) :
    ∃ inst extensions req, e.call = .rpc inst extensions (.createMuteRule req) := by
  cases call : e.call with
  | rpc inst extensions r =>
    have performs := performs_of_rpc run he call
    rw [op] at performs
    cases performs with
    | looks harmless => cases harmless
    | changes _ changes =>
      cases changes
      exact ⟨inst, extensions, _, rfl⟩
  | _ =>
    have passive := passive_of_run run he (by rw [call]; rfl)
    rw [op] at passive
    cases passive

theorem rule_origin (run : (system ext).Run (Pool.idle w₀) es p)
    (empty : w₀.db.muteRules = .empty) : ∀ row ∈ p.world.db.muteRules.rows,
      ∃ e ∈ es, ∃ userId serviceId typeId until_,
        e.done = ⟨.sql (.muteRules (.insertMuteRule userId serviceId typeId until_)), .ok row⟩ := by
  induction run with
  | init =>
    intro row stored
    rw [show (Pool.idle w₀ : State).world.db.muteRules = .empty from empty] at stored
    cases stored
  | start _ _ _ ih => exact ih
  | @step es p i c o k x _ _ ih =>
    intro row stored
    have earlier : row ∈ p.world.db.muteRules.rows → _ := fun old =>
      (ih row old).imp fun e => And.imp_left (List.mem_append_left [(system ext).event i c o x p.world])
    rcases exec_db_cases ext x o p.world with same | ⟨q, a, rfl, answer, ok⟩
    · exact earlier (same ▸ stored)
    · change row ∈ (exec ext x (.sql q) p.world).2.db.muteRules.rows at stored
      generalize (exec ext x (.sql q) p.world).2.db = db at ok stored
      cases q with
      | muteRules q =>
        cases q with
        | insertMuteRule userId serviceId typeId until_ =>
          obtain ⟨t, inserted, same⟩ := map_eq_ok.1 ok
          cases same
          rcases (Table.mem_insert (Db.Notifications.insertRow_ok inserted)).1 stored with old | rfl
          · exact earlier old
          · refine ⟨_, List.mem_append_right _ (.head _), userId, serviceId, typeId, until_, ?_⟩
            exact congrArg (Sigma.mk _) answer
        | deleteMuteRule =>
          cases ok
          exact earlier (List.mem_of_mem_filter stored)
        | listMuteRules | listActiveMuteRules =>
          cases ok
          exact earlier stored
      | notifications q =>
        rw [(Db.Notifications.Query.exec_cases ok).1] at stored
        exact earlier stored
      | preferences q =>
        rw [Db.Preferences.Query.exec_frame ok] at stored
        exact earlier stored
      | schemas q =>
        rw [Db.Schemas.Query.exec_frame ok] at stored
        exact earlier stored
      | services q =>
        rw [Db.Services.Query.exec_frame ok] at stored
        exact earlier stored

theorem rule_typeIn (run : (system ext).Run (Pool.idle w₀) es p)
    (empty : w₀.db.muteRules = .empty) : ∀ row ∈ p.world.db.muteRules.rows, ∀ typeId,
      row.notificationTypeId = some typeId → ∃ serviceId, row.serviceId = some serviceId ∧
        p.world.db.TypeIn typeId serviceId := by
  intro row stored typeId typed
  obtain ⟨e, he, userId, serviceId, typeId', until_, done⟩ := rule_origin run empty row stored
  obtain ⟨inst, extensions, req, call⟩ := createMuteRule_of_op run he (congrArg Sigma.fst done)
  have stores : StoresRule req e row := ⟨inst, extensions, userId, _, _, _, call, done⟩
  obtain ⟨pre, post, split⟩ := List.append_of_mem he
  obtain ⟨decodes, -⟩ := stores.decodes run split
  generalize past : doneBy pre e.tid = h at decodes
  rw [typed] at decodes
  generalize ofService : row.serviceId = rowService at decodes
  cases decodes with
  | @type service nt _ _ found found' =>
    obtain ⟨nt', kept, same⟩ := type_of_read run split (past ▸ found')
    refine ⟨_, rfl, nt', ?_, (typeKey_mem_keys.1 (Table.key_of_lookup kept)).1⟩
    exact Table.lookup_of_mem (Table.mem_of_lookup kept) (same ▸ .head _)

/-- The tables agree with each other. -/
structure Db.Coherent (db : Db) : Prop where
  references : db.RefersTo db
  notifications : ∀ r ∈ db.notifications.rows, db.TypeIn r.notificationTypeId r.serviceId
  muteRules : ∀ row ∈ db.muteRules.rows, ∀ typeId, row.notificationTypeId = some typeId →
    ∃ serviceId, row.serviceId = some serviceId ∧ db.TypeIn typeId serviceId

/-- In every state that is reached, whatever the caches hold, every reference is to a stored row, every
notification belongs to the service of its type, and every mute rule for a type to the service of its
type. -/
theorem coherent (run : (system ext).Run (Pool.idle w₀) es p)
    (cold : ∀ inst c key, w₀.caches inst c key = none) (start : w₀.db.RefersTo w₀.db)
    (empty : w₀.db.notifications = .empty) (none : w₀.db.muteRules = .empty) :
    p.world.db.Coherent where
  references := run.keeps (K := fun w => w.db.RefersTo w.db) (fun x o w => refersTo_exec ext x o w)
    start
  notifications := notification_typeIn run cold empty
  muteRules := rule_typeIn run none

theorem Sample.refersTo_world :
    (Sample.world .empty []).db.RefersTo (Sample.world .empty []).db := by
  constructor
  · intro t ht
    obtain rfl := List.mem_singleton.1 ht
    rfl
  all_goals
    intro r hr
    cases hr

/-- A notification is stored for a request that was sent, with a type and a service from the cache. -/
theorem coherent_sent : Sample.sent.1.world.db.Coherent :=
  coherent (Sample.run_playedUuid rfl) (fun _ _ _ => rfl) Sample.refersTo_world rfl rfl

end

end Estafeta
