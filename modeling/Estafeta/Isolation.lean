import Mathlib.Data.List.Dedup
import Mathlib.Logic.Function.Defs
import Estafeta.Lib.Unwinding
import Estafeta.Authorization

/-!
# Isolation of users

What a user is answered, and what becomes of the user's rows, depends only on the user's own rows
and calls: the calls of other users are invisible. `Db.Agree` is the unwinding relation; each
statement of the user keeps it on both sides with equal answers (`own_exec`), and each statement of
another user keeps it on either side (`Db.OnlyRowsOf.agree`).
-/

open Relational Atomic

namespace Estafeta

/-! ## Results of one statement in two databases -/

/-- The same error, or two related results. -/
inductive Together {ε α : Type} (R : α → α → Prop) : Except ε α → Except ε α → Prop where
  | error (e : ε) : Together R (.error e) (.error e)
  | ok {a b : α} : R a b → Together R (.ok a) (.ok b)

theorem Together.map {ε α β : Type} {R : α → α → Prop} {S : β → β → Prop} {x y : Except ε α}
    {f g : α → β} (h : Together R x y) (step : ∀ a b, R a b → S (f a) (g b)) :
    Together S (x.map f) (y.map g) := by
  cases h with
  | error e => exact .error e
  | ok h => exact .ok (step _ _ h)

/-- The same answer, and two tables with the same rows in a part. -/
def AlikeAfter {ρ α : Type} [Schema ρ] (own : ρ → Bool) (x y : α × Table ρ) : Prop :=
  x.1 = y.1 ∧ Table.Alike own x.2 y.2

section Tables

variable {ρ : Type} [Schema ρ] {t t' : Table ρ} {own : ρ → Bool} {r : ρ} {k : Schema.Key ρ}
  {f : Assign ρ}

theorem insertRow_together (agree : Table.Alike own t t') {references references' : Bool}
    (checked : references = references')
    (free : ∀ k ∈ Schema.keys r, t.lookup k = none ↔ t'.lookup k = none) :
    Together (Table.Alike own) (insertRow t r references) (insertRow t' r references') := by
  subst checked
  unfold insertRow
  rcases agree.insert_iff free with ⟨v, h, h'⟩ | ⟨u, u', h, h', after⟩
  · rw [h, h']
    exact .error _
  · rw [h, h']
    cases references with
    | true => exact .ok after
    | false => exact .error _

theorem upsertRow_together (agree : Table.Alike own t t') {references references' : Bool}
    (checked : references = references')
    (key : ∀ s, k ∈ Schema.keys s → own s = true) (same : ∀ s, own (f.set s) = own s)
    (free : ∀ k ∈ Schema.keys r, t.lookup k = none ↔ t'.lookup k = none) :
    Together (AlikeAfter own) (upsertRow t k r f references) (upsertRow t' k r f references') := by
  unfold upsertRow
  rw [← agree.lookup key]
  split
  · exact .ok ⟨rfl, agree.update same⟩
  · exact (insertRow_together agree checked free).map fun _ _ h => ⟨rfl, h⟩

end Tables

theorem page_together {α β : Type} {R : β → β → Prop} {f g : List α → β} (limit offset : Int64)
    (rows : List α) (step : ∀ l, R (f l) (g l)) :
    Together R ((page limit offset rows).map f) ((page limit offset rows).map g) := by
  unfold page
  split
  · exact .error _
  · exact .ok (step _)

theorem countBy_perm {α : Type} {rank : Uuid → ℕ} (injective : rank.Injective) {group : α → Uuid}
    {rows rows' : List α} (same : rows.Perm rows') :
    countBy rank group rows = countBy rank group rows' := by
  have groups : sortOn (fun _ => 0) rank (rows.map group).dedup =
      sortOn (fun _ => 0) rank (rows'.map group).dedup :=
    sortOn_congr (same.map group).dedup fun a _ b _ _ h => injective h
  unfold countBy
  rw [groups]
  refine List.map_congr_left fun g _ => ?_
  rw [same.countP_eq]

/-! ## Databases that agree about a user -/

/-- Two databases have the same rows of a user, and the same services and notification types. -/
structure Db.Agree (userId : String) (db db' : Db) : Prop where
  services : db.services = db'.services
  notificationTypes : db.notificationTypes = db'.notificationTypes
  notifications :
    Table.Alike (fun r => r.recipientUserId = userId) db.notifications db'.notifications
  userPreferences : Table.Alike (fun r => r.userId = userId) db.userPreferences db'.userPreferences
  userServicePreferences :
    Table.Alike (fun r => r.userId = userId) db.userServicePreferences db'.userServicePreferences
  userTypePreferences :
    Table.Alike (fun r => r.userId = userId) db.userTypePreferences db'.userTypePreferences
  muteRules : Table.Alike (fun r => r.userId = userId) db.muteRules db'.muteRules

/-- No row of a user has the id yet. -/
structure Db.Fresh (id : Uuid) (db : Db) : Prop where
  userPreferences : db.userPreferences.lookup (.id id) = none
  userServicePreferences : db.userServicePreferences.lookup (.id id) = none
  userTypePreferences : db.userTypePreferences.lookup (.id id) = none
  muteRules : db.muteRules.lookup id = none

variable {userId : String} {db db' : Db} {env : Env}

theorem Db.Agree.symm (h : db.Agree userId db') : db'.Agree userId db :=
  ⟨h.services.symm, h.notificationTypes.symm, h.notifications.symm, h.userPreferences.symm,
    h.userServicePreferences.symm, h.userTypePreferences.symm, h.muteRules.symm⟩

theorem Db.OnlyRowsOf.agree {other : String} {after : Db} (h : db.OnlyRowsOf other after)
    (apart : other ≠ userId) (agree : db.Agree userId db') : after.Agree userId db' := by
  have kept : ∀ {ρ : Type} [Schema ρ] {t t' u : Table ρ} (owner : ρ → String),
      t'.select (fun r => owner r ≠ other) = t.select (fun r => owner r ≠ other) →
      Table.Alike (fun r => owner r = userId) t u →
      Table.Alike (fun r => owner r = userId) t' u := by
    intro ρ _ t t' u owner same agree
    have within : ∀ r, decide (owner r = userId) = true → decide (owner r ≠ other) = true := by
      intro r hr
      simp only [decide_eq_true_eq] at hr ⊢
      rw [hr]
      exact apart.symm
    rw [Table.Alike, Table.select_select within, same, ← Table.select_select within]
    exact agree
  exact ⟨h.services.trans agree.services, h.notificationTypes.trans agree.notificationTypes,
    kept _ h.notifications agree.notifications, kept _ h.userPreferences agree.userPreferences,
    kept _ h.userServicePreferences agree.userServicePreferences,
    kept _ h.userTypePreferences agree.userTypePreferences, kept _ h.muteRules agree.muteRules⟩

/-! ## A user's own statements -/

/-- The same answer, and databases that agree about the user. -/
def AgreeAfter (userId : String) {α : Type} (x y : α × Db) : Prop :=
  x.1 = y.1 ∧ x.2.Agree userId y.2

theorem execute_together (agree : db.Agree userId db') {v : Update NotificationRow}
    (within : ∀ r, v.where_ r = true → decide (r.recipientUserId = userId) = true)
    (same : ∀ r, (v.set.set r).recipientUserId = r.recipientUserId) :
    Together (AgreeAfter userId) (Db.Notifications.execute v db)
      (Db.Notifications.execute v db') := by
  refine .ok ⟨(agree.notifications.select within).length_eq, ?_⟩
  exact { agree with notifications := agree.notifications.update fun r => by rw [same] }

theorem listed_together {ρ κ : Type} [Schema ρ] [LinearOrder κ] {t t' : Table ρ} {own p : ρ → Bool}
    (agree : Table.Alike own t t') (within : ∀ r, p r = true → own r = true) {key : ρ → κ}
    {rank : Uuid → ℕ} (injective : rank.Injective) {id : ρ → Uuid} {k : Uuid → Schema.Key ρ}
    (primary : ∀ r, k (id r) ∈ Schema.keys r) :
    sortOn key (fun r => rank (id r)) (t.select p) =
      sortOn key (fun r => rank (id r)) (t'.select p) := by
  refine sortOn_congr (agree.select within) fun r hr s hs _ h => ?_
  have same : id r = id s := injective h
  exact Table.eq_of_mem_keys (Table.mem_select.1 hr).1 (Table.mem_select.1 hs).1 (primary r)
    (same ▸ primary s)

theorem Db.Notifications.own_exec {q : Notifications.Query}
    (owned : (Sql.notifications q).owner = some userId) (agree : db.Agree userId db')
    (injective : env.rank.Injective) :
    Together (AgreeAfter userId) (q.exec env db) (q.exec env db') := by
  have counted : ∀ {p : NotificationRow → Bool}, (∀ r, p r = true → r.recipientUserId = userId) →
      (db.notifications.select p).Perm (db'.notifications.select p) :=
    fun within => agree.notifications.select fun r hr => decide_eq_true (within r hr)
  cases q with
  | listNotifications userId' states serviceIds typeIds groupKey limit offset =>
    cases owned
    simp only [Query.exec, listNotifications]
    rw [listed_together agree.notifications (by simp_all) injective
      (k := NotificationKey.id) fun r => .head _]
    exact page_together _ _ _ fun l => ⟨rfl, agree⟩
  | countUnseen | countUnread =>
    cases owned
    exact .ok ⟨congrArg Int64.ofNat (counted (by simp_all)).length_eq, agree⟩
  | countUnseenByService | countUnreadByService =>
    cases owned
    exact .ok ⟨countBy_perm injective (counted (by simp_all)), agree⟩
  | markSeen | markAllSeen | markRead | markUnread | snooze | archive | archiveAllInGroup
  | unarchive =>
    cases owned
    refine execute_together agree (fun r hr => ?_) fun r => rfl
    simp_all [markSeen, markAllSeen, markRead, markUnread, snooze, archive, archiveAllInGroup,
      unarchive]
  | _ => cases owned

theorem Db.MuteRules.own_exec {q : MuteRules.Query}
    (owned : (Sql.muteRules q).owner = some userId) (agree : db.Agree userId db')
    (fresh : db.Fresh env.uuid) (fresh' : db'.Fresh env.uuid) (injective : env.rank.Injective) :
    Together (AgreeAfter userId) (q.exec env db) (q.exec env db') := by
  cases q with
  | insertMuteRule =>
    cases owned
    refine (insertRow_together agree.muteRules (by rw [agree.services, agree.notificationTypes])
      fun k hk => ?_).map fun t t' h => ⟨rfl, { agree with muteRules := h }⟩
    obtain rfl := List.mem_singleton.1 hk
    exact iff_of_true fresh.muteRules fresh'.muteRules
  | deleteMuteRule _ ruleId =>
    cases owned
    have deleted := agree.muteRules.select (p := fun r => r.id = ruleId && r.userId = userId)
      fun r hr => by simp_all
    refine .ok ⟨?_, { agree with muteRules := agree.muteRules.delete }⟩
    exact congrArg (fun n => decide (0 < n)) deleted.length_eq
  | listMuteRules =>
    cases owned
    refine .ok ⟨?_, agree⟩
    exact listed_together agree.muteRules (by simp_all) injective (k := fun id => id) fun r => .head _
  | listActiveMuteRules => cases owned

theorem Db.Preferences.own_exec {q : Preferences.Query}
    (owned : (Sql.preferences q).owner = some userId) (agree : db.Agree userId db')
    (fresh : db.Fresh env.uuid) (fresh' : db'.Fresh env.uuid) (injective : env.rank.Injective) :
    Together (AgreeAfter userId) (q.exec env db) (q.exec env db') := by
  cases q with
  | getOrCreateUserPreference | updateUserPreference =>
    cases owned
    have key : ∀ r : UserPreferenceRow, UserPreferenceKey.userId userId ∈ Schema.keys r →
        decide (r.userId = userId) = true := fun r hr => decide_eq_true (userId_mem_keys.1 hr)
    refine (upsertRow_together agree.userPreferences rfl key (fun _ => rfl) fun k hk => ?_).map
      fun x y h => ⟨h.1, { agree with userPreferences := h.2 }⟩
    rcases List.mem_pair.1 hk with rfl | rfl
    · exact iff_of_true fresh.userPreferences fresh'.userPreferences
    · exact iff_of_eq (congrArg (· = none) (agree.userPreferences.lookup key))
  | upsertServicePreference _ serviceId =>
    cases owned
    have key : ∀ r : UserServicePreferenceRow,
        UserServicePreferenceKey.service userId serviceId ∈ Schema.keys r →
        decide (r.userId = userId) = true := fun r hr => decide_eq_true (service_mem_keys.1 hr).1
    refine (upsertRow_together agree.userServicePreferences (by rw [agree.services]) key
      (fun _ => rfl) fun k hk => ?_).map fun x y h =>
        ⟨h.1, { agree with userServicePreferences := h.2 }⟩
    rcases List.mem_pair.1 hk with rfl | rfl
    · exact iff_of_true fresh.userServicePreferences fresh'.userServicePreferences
    · exact iff_of_eq (congrArg (· = none) (agree.userServicePreferences.lookup key))
  | upsertTypePreference _ notificationTypeId =>
    cases owned
    have key : ∀ r : UserTypePreferenceRow,
        UserTypePreferenceKey.type userId notificationTypeId ∈ Schema.keys r →
        decide (r.userId = userId) = true := fun r hr => decide_eq_true (type_mem_keys.1 hr).1
    refine (upsertRow_together agree.userTypePreferences (by rw [agree.notificationTypes]) key
      (fun _ => rfl) fun k hk => ?_).map fun x y h =>
        ⟨h.1, { agree with userTypePreferences := h.2 }⟩
    rcases List.mem_pair.1 hk with rfl | rfl
    · exact iff_of_true fresh.userTypePreferences fresh'.userTypePreferences
    · exact iff_of_eq (congrArg (· = none) (agree.userTypePreferences.lookup key))
  | deleteServicePreference =>
    cases owned
    exact .ok ⟨rfl, { agree with userServicePreferences := agree.userServicePreferences.delete }⟩
  | deleteTypePreference =>
    cases owned
    exact .ok ⟨rfl, { agree with userTypePreferences := agree.userTypePreferences.delete }⟩
  | listServicePreferences =>
    cases owned
    refine .ok ⟨?_, agree⟩
    exact listed_together agree.userServicePreferences (by simp_all) injective
      (k := UserServicePreferenceKey.id) fun r => .head _
  | listTypePreferences =>
    cases owned
    refine .ok ⟨?_, agree⟩
    exact listed_together agree.userTypePreferences (by simp_all) injective
      (k := UserTypePreferenceKey.id) fun r => .head _
  | getGlobalPolicy | updateGlobalPolicy => cases owned

/-- A statement of the user is answered alike, and keeps the agreement. -/
theorem own_exec {q : Sql} (owned : q.owner = some userId) (agree : db.Agree userId db')
    (fresh : db.Fresh env.uuid) (fresh' : db'.Fresh env.uuid) (injective : env.rank.Injective) :
    Together (AgreeAfter userId) (q.exec env db) (q.exec env db') := by
  cases q with
  | notifications q => exact Db.Notifications.own_exec owned agree injective
  | muteRules q => exact Db.MuteRules.own_exec owned agree fresh fresh' injective
  | preferences q => exact Db.Preferences.own_exec owned agree fresh fresh' injective
  | schemas q => cases owned
  | services q => cases owned

theorem registry_exec {q : Sql} (registry : q.registry = true) (agree : db.Agree userId db') :
    Together (AgreeAfter userId) (q.exec env db) (q.exec env db') := by
  cases q with
  | schemas q =>
    cases q with
    | getNotificationType serviceId typeKey =>
      refine .ok ⟨?_, agree⟩
      exact congrArg (·.lookup (.typeKey serviceId typeKey)) agree.notificationTypes
    | _ => cases registry
  | services q =>
    cases q with
    | getServiceBySlug slug => exact .ok ⟨congrArg (·.lookup (.slug slug)) agree.services, agree⟩
    | _ => cases registry
  | _ => cases registry

/-! ## Runs -/

theorem execSql_together {ext : Ext} {x : Choice} {q : Sql} {w w' : World}
    (h : Together (AgreeAfter userId) (q.exec (x.env ext) w.db) (q.exec (x.env ext) w'.db))
    (agree : w.db.Agree userId w'.db) :
    (execSql ext x q w).1 = (execSql ext x q w').1 ∧
      (execSql ext x q w).2.db.Agree userId (execSql ext x q w').2.db := by
  unfold execSql
  rcases x.failure with _ | e
  · cases q.instants.all inTimestamptz with
    | false => exact ⟨rfl, agree⟩
    | true =>
      generalize q.exec (x.env ext) w.db = r at h
      generalize q.exec (x.env ext) w'.db = r' at h
      cases h with
      | error e => exact ⟨rfl, agree⟩
      | ok h => exact ⟨congrArg Except.ok h.1, h.2⟩
  · exact ⟨rfl, agree⟩

/-- What is assumed of the choices for a user: ids are generated afresh, and the rows that no ORDER
BY clause orders come in an order that the rows decide. -/
def Sound (x : Choice) (w : World) : Prop := w.db.Fresh x.uuid ∧ x.rank.Injective

/-- Agreement about a user is kept by everything that personal requests do. -/
def isolation (ext : Ext) (userId : String) : Unwinding (system ext).exec where
  own o := ∃ q, o = .sql q ∧ (q.registry = true ∨ q.owner = some userId)
  other o := ∃ q, o = .sql q ∧ (q.registry = true ∨ ∃ v, q.owner = some v ∧ v ≠ userId)
  sound := Sound
  rel w w' := w.db.Agree userId w'.db
  symm := Db.Agree.symm
  respects := by
    rintro x _ w w' ⟨q, rfl, registry | ⟨v, owned, apart⟩⟩ agree
    · have unchanged : ((system ext).exec x (.sql q) w).2 = w :=
        execSql_reads (Rpc.registry_reads registry)
      rwa [unchanged]
    · exact (execSql_owner owned).agree apart agree
  consistent := by
    rintro x _ w w' ⟨q, rfl, registry | owned⟩ ⟨fresh, injective⟩ ⟨fresh', _⟩ agree
    · exact execSql_together (registry_exec registry agree) agree
    · exact execSql_together (own_exec owned agree fresh fresh' injective) agree

/-- The action is one of a personal request, and its thread is one of `mine` exactly if the caller
is the user. -/
def Personal (userId : String) (mine : ℕ → Bool) : Action Call Choice → Prop
  | .start i (.rpc _ extensions r) =>
    r.personal = true ∧ (mine i = true ↔ extensions.map (·.subject) = some userId)
  | .start _ _ => False
  | .step .. => True

theorem personal_admits {ext : Ext} {userId : String} {mine : ℕ → Bool} {a : Action Call Choice}
    (h : Personal userId mine a) :
    (isolation ext userId).Admits mine a := by
  cases a with
  | step => trivial
  | start i c =>
    cases c with
    | rpc inst extensions r =>
      obtain ⟨personal, caller⟩ := h
      refine (body_obeys ext (.rpc inst extensions r)).within fun s o permitted => ?_
      cases s with
      | rpc granted =>
        rcases permitted with ⟨q, rfl, registry⟩ | ⟨_, q, c, rfl, rfl, owned⟩ | ⟨other, _⟩
        · exact Unwinding.allows (fun _ => ⟨q, rfl, .inl registry⟩) fun _ => ⟨q, rfl, .inl registry⟩
        · refine Unwinding.allows (fun own => ?_) fun other => ?_
          · cases caller.1 own
            exact ⟨q, rfl, .inr owned⟩
          · refine ⟨q, rfl, .inr ⟨_, owned, fun same => ?_⟩⟩
            rw [caller.2 (congrArg some same)] at other
            cases other
        · rw [other] at personal
          cases personal
      | _ => exact permitted.elim
    | _ => exact h.elim

/-- A user's calls are answered alike, and leave the user with the same rows, whatever the other
users' calls are. -/
theorem isolated {ext : Ext} {userId : String} {mine : ℕ → Bool} {w w' : World}
    {as as' : List (Action Call Choice)} {p p' : State} {es es' : History}
    (agree : w.db.Agree userId w'.db) (same : as.filter (fun a => mine a.tid) =
      as'.filter fun a => mine a.tid)
    (run : (system ext).perform (Pool.idle w) as = some (p, es))
    (run' : (system ext).perform (Pool.idle w') as' = some (p', es'))
    (personal : ∀ a ∈ as, Personal userId mine a) (personal' : ∀ a ∈ as', Personal userId mine a)
    (sound : ∀ e ∈ es, mine e.tid = true → Sound e.choice e.before)
    (sound' : ∀ e ∈ es', mine e.tid = true → Sound e.choice e.before) :
    (∀ i, mine i = true → p.threads i = p'.threads i) ∧ p.world.db.Agree userId p'.world.db := by
  have start : (isolation ext userId).Related mine (Pool.idle w)
      (Pool.idle w') := Unwinding.related_idle agree
  have related := start.perform same (fun a ha => personal_admits (personal a ha))
    (fun a ha => personal_admits (personal' a ha)) run run' sound sound'
  exact ⟨related.threads, related.rel⟩

namespace Sample

/-- `ann` mutes everything. -/
def muting : List (Action Call Choice) :=
  [.start 0 (.rpc 0 (some ann) (.createMuteRule ⟨"", "", none⟩)), .step 0 choice]

/-- `bob` does the same before her. -/
def mutingBoth : List (Action Call Choice) :=
  [.start 1 (.rpc 0 (some ⟨"bob", []⟩) (.createMuteRule ⟨"", "", none⟩)),
    .step 1 { choice with uuid := 8 }] ++ muting

theorem isolated_muting :
    (∀ i, (i == 0) = true →
      (played (world .empty []) muting).1.threads i =
        (played (world .empty []) mutingBoth).1.threads i) ∧
      (played (world .empty []) muting).1.world.db.Agree "ann"
        (played (world .empty []) mutingBoth).1.world.db := by
  have injective : choice.rank.Injective := fun _ _ h => BitVec.eq_of_toNat_eq h
  refine @isolated ext "ann" (fun i => i == 0) (world .empty []) (world .empty []) muting mutingBoth
    (played (world .empty []) muting).1 (played (world .empty []) mutingBoth).1
    (played (world .empty []) muting).2 (played (world .empty []) mutingBoth).2
    ⟨rfl, rfl, .refl _, .refl _, .refl _, .refl _, .refl _⟩ rfl (perform_played rfl)
    (perform_played rfl) ?_ ?_ ?_ ?_
  · intro a ha
    rcases List.mem_pair.1 ha with rfl | rfl
    · exact ⟨rfl, by simp [ann]⟩
    · trivial
  · intro a ha
    rcases List.mem_append.1 ha with ha | ha
    · rcases List.mem_pair.1 ha with rfl | rfl
      · exact ⟨rfl, by simp⟩
      · trivial
    · rcases List.mem_pair.1 ha with rfl | rfl
      · exact ⟨rfl, by simp [ann]⟩
      · trivial
  · intro e he _
    cases he with
    | head => exact ⟨⟨rfl, rfl, rfl, rfl⟩, injective⟩
    | tail _ he => cases he
  · intro e he own
    cases he with
    | head => cases own
    | tail _ he =>
      cases he with
      | head => exact ⟨⟨rfl, rfl, rfl, rfl⟩, injective⟩
      | tail _ he => cases he

end Sample

end Estafeta
