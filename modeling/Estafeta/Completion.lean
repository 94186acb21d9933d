import Estafeta.Lib.Rely
import Estafeta.Linearizability
import Estafeta.Queue
import Estafeta.References

/-!
# Accepted messages are not lost

A message is accepted when its service and type are registered, and registrations stay. Whatever runs
while a processor works on the message, however its caches are invalidated or filled with types of
other services, the processor stores the notification and acknowledges the message, unless its own
calls to the database or to NATS fail, or the notification has been stored before (`completes`).
-/

open Relational Atomic

namespace Estafeta

/-! ## What processors find -/

/-- The type of the message is registered. -/
def Db.Knows (db : Db) (m : IngestMessage) : Prop :=
  ∃ service nt, db.services.lookup (.slug m.serviceSlug) = some service ∧
    db.notificationTypes.lookup (.typeKey service.id m.notificationType) = some nt

/-- The types of all messages of the stream are registered, and so are the cached types and levels. -/
structure World.Sound (w : World) : Prop where
  messages : ∀ payload ∈ w.stream, ∃ m, payload = .ok m ∧ w.db.Knows m
  types : ∀ inst key v, w.caches inst .notificationTypes key = some v →
    w.db.HasService v.serviceId ∧ w.db.HasType v.id
  levels : ∀ inst key v, w.caches inst .notificationLevels key = some v → w.db.HasLevel v.id

section Sound

variable {ext : Ext} {w₀ w w' : World} {es : History} {p : State} {m : IngestMessage}

theorem Db.Knows.mono (known : w.db.Knows m) (later : w.Onward w') : w'.db.Knows m := by
  obtain ⟨service, nt, found, typed⟩ := known
  obtain ⟨service', found', same⟩ := later.service found
  obtain ⟨nt', typed', _⟩ := later.type typed
  exact ⟨service', nt', found', same ▸ typed'⟩

theorem Db.IsType.registered {db : Db} {slug key : String} {v : CachedNotificationType}
    (h : db.IsType slug key v) : db.HasService v.serviceId ∧ db.HasType v.id := by
  obtain ⟨service, nt, found, typed, serviceId, id, _⟩ := h
  constructor
  · exact Option.isSome_iff_exists.2
      ⟨service, Table.lookup_of_mem (Table.mem_of_lookup found) (serviceId ▸ .head _)⟩
  · exact Option.isSome_iff_exists.2
      ⟨nt, Table.lookup_of_mem (Table.mem_of_lookup typed) (id ▸ .head _)⟩

theorem Db.IsLevel.registered {db : Db} {slug key : String} {v : CachedNotificationLevel}
    (h : db.IsLevel slug key v) : db.HasLevel v.id := by
  obtain ⟨_, level, _, levelled, id, _⟩ := h
  exact Option.isSome_iff_exists.2
    ⟨level, Table.lookup_of_mem (Table.mem_of_lookup levelled) (id ▸ .head _)⟩

theorem Requested.knows {pre post : History} (run : (system ext).Run (Pool.idle w₀) es p)
    (split : es = pre ++ post) (requested : Requested ext pre m) : p.world.db.Knows m := by
  obtain ⟨before, e, after, inst, extensions, r, subject, rfl, _, _, vetted⟩ := requested
  generalize past : doneBy before e.tid = h at vetted
  cases vetted with
  | @mk h c req reply service nt id =>
    have split : es = before ++ e :: (after ++ post) := by simp [split]
    have read : ⟨.sql (.services (.getServiceBySlug req.serviceSlug)), .ok (some service)⟩ ∈
        doneBy before e.tid := by
      rw [past]
      simp [vetting]
    have read' : ⟨.sql (.schemas (.getNotificationType service.id req.notificationType)),
        .ok (some nt)⟩ ∈ doneBy before e.tid := by
      rw [past]
      simp [vetting]
    obtain ⟨service', found, same⟩ := service_of_read run split read
    obtain ⟨nt', typed, _⟩ := type_of_read run split read'
    exact ⟨service', nt', found, same ▸ typed⟩

/-- What processors find is registered, in every state that is reached. -/
theorem sound_of_run (run : (system ext).Run (Pool.idle w₀) es p)
    (cold : ∀ inst c key, w₀.caches inst c key = none) (start : w₀.stream = []) :
    p.world.Sound where
  messages payload present := by
    obtain ⟨g, watched, _⟩ := phased run
    obtain ⟨m, rfl, e, he, subject, published⟩ := stream_origin watched start present
    have all : es = es ++ [] := (List.append_nil es).symm
    have known : p.world.db.Knows m := (requested_of_published run all he published).knows run all
    exact ⟨m.reread ext.floatText, rfl, known⟩
  types inst key v held := by
    obtain ⟨_, _, _, split, put, _⟩ := cached_origin run cold held
    obtain ⟨_, _, _, registered⟩ := inserted_type run split put
    exact registered.registered
  levels inst key v held := by
    obtain ⟨_, _, _, split, put, _⟩ := cached_origin run cold held
    obtain ⟨_, _, _, _, registered⟩ := inserted_level run split put
    exact registered.registered

end Sound

/-! ## Processors among other threads -/

/-- What the other threads leave a processor. -/
structure World.Leaves (w w' : World) : Prop where
  onward : w.Onward w'
  sound : w'.Sound

/-- The operation creates the preference row of a user, if there is none. -/
def Op.creates : Op → Bool
  | .sql (.preferences (.getOrCreateUserPreference _)) => true
  | _ => false

/-- A statement or a NATS call of the processor works, and the id for a new preference row is fresh. -/
structure Works (x : Choice) (o : Op) (w : World) : Prop where
  failure : x.failure = none
  unsent : x.unsent = none
  fresh : o.creates = true → w.db.userPreferences.lookup (.id x.uuid) = none

instance (x : Choice) (o : Op) (w : World) : Decidable (Works x o w) :=
  decidable_of_iff (x.failure = none ∧ x.unsent = none ∧
      (o.creates = true → w.db.userPreferences.lookup (.id x.uuid) = none))
    ⟨fun ⟨failure, unsent, fresh⟩ => ⟨failure, unsent, fresh⟩,
      fun works => ⟨works.failure, works.unsent, works.fresh⟩⟩

/-- How a processor's program ends among other threads. -/
abbrev Completes {ε α : Type} (ext : Ext) (E : Record → World → ε → Prop)
    (Q : Record → World → α → Prop) (p : Program ε α) (h : Record) (w : World) : Prop :=
  p.Relies World.Leaves (exec ext) Works E Q h w

/-- It does not fail. -/
abbrev Never {ε : Type} : Record → World → ε → Prop := fun _ _ _ => False

section Processor

variable {ext : Ext} {inst : ℕ} {w w' : World} {m : IngestMessage} {h : Record}

theorem completes_run {q : Sql} {E : Record → World → String → Prop}
    {Q : Record → World → q.Resp → Prop} (bound : q.instants.all inTimestamptz = true)
    (answers : ∀ w', w.Leaves w' → ∀ x, Works x (.sql q) w' → match q.exec (x.env ext) w'.db with
      | .ok (a, db') => w'.Onward { w' with db := db' } →
        Q (h ++ [⟨.sql q, .ok a⟩]) { w' with db := db' } a
      | .error e => E (h ++ [⟨.sql q, .error e⟩]) w' (ext.showDbError e)) :
    Completes ext E Q (ext.run q) h w := by
  intro w' leaves x works
  have answer := answers w' leaves x works
  have onward := onward_exec ext x (.sql q) w'
  simp only [exec, execSql, works.failure, bound, if_true] at onward ⊢
  rcases answered : q.exec (x.env ext) w'.db with e | ⟨a, db'⟩
  · rw [answered] at answer
    exact answer
  · rw [answered] at answer onward
    exact answer onward

theorem service_completes {α : Type} {E : Record → World → String → Prop}
    {Q : Record → World → α → Prop} {e : String} {f : ServiceRow → Program String α}
    (known : w.db.Knows m) (rest : ∀ h w' service, w.Onward w' →
      w'.db.services.lookup (.slug m.serviceSlug) = some service → Completes ext E Q (f service) h w') :
    Completes ext E Q (ext.run (.services (.getServiceBySlug m.serviceSlug)) >>= fun read =>
      Prog.okOr e read >>= f) h w := by
  refine (Prog.relies_bind ..).2 (completes_run rfl fun w' leaves x _ _ => ?_)
  obtain ⟨service, _, found, _⟩ := known.mono leaves.onward
  refine (Prog.relies_bind ..).2 ((Prog.relies_okOr ..).2 ⟨fun unknown => ?_, fun service' same => ?_⟩)
  · cases found.symm.trans unknown
  · exact rest _ w' service' leaves.onward same

theorem getOrLoadNotifType_completes (known : w.db.Knows m) (key : String) :
    Completes ext Never (fun _ w' v => w.Onward w' ∧ w'.db.HasService v.serviceId ∧ w'.db.HasType v.id)
      (getOrLoadNotifType ext inst key m.serviceSlug m.notificationType) h w := by
  simp only [getOrLoadNotifType, perform, Prog.call_bind, Prog.ret_bind]
  intro w₁ leaves x _
  simp only [exec]
  split
  next cached held =>
    have held : w₁.caches inst .notificationTypes key = some cached := by
      split at held
      · cases held
      · exact held
    exact ⟨leaves.onward, leaves.sound.types inst key cached held⟩
  next =>
    have known := known.mono leaves.onward
    refine service_completes known fun h w₂ service later found => ?_
    refine (Prog.relies_bind ..).2 (completes_run rfl fun w₃ leaves₃ x _ _ => ?_)
    obtain ⟨service', nt, found', typed⟩ := known.mono (later.trans leaves₃.onward)
    obtain ⟨_, again, same⟩ := leaves₃.onward.service found
    cases again.symm.trans found'
    refine (Prog.relies_bind ..).2 ((Prog.relies_okOr ..).2 ⟨fun unknown => ?_, fun nt' read => ?_⟩)
    · rw [same] at typed
      cases typed.symm.trans unknown
    intro w₄ leaves₄ x _
    have registered : w₃.db.IsType m.serviceSlug m.notificationType (cachedNotificationType nt') := by
      obtain ⟨own, typeKey⟩ := typeKey_mem_keys.1 (Table.key_of_lookup read)
      exact ⟨service', nt', found', same ▸ read, own.trans same.symm, rfl, typeKey⟩
    have onward := leaves₄.onward.trans (onward_exec ext x (.cacheInsert inst .notificationTypes key
      (cachedNotificationType nt')) w₄)
    exact ⟨leaves.onward.trans (later.trans (leaves₃.onward.trans onward)),
      registered.registered.1.mono onward.registered, registered.registered.2.mono onward.registered⟩

/-- The level of a message whose type is registered is loaded, if there is one. -/
theorem levelOf_completes (known : w.db.Knows m) :
    Completes ext Never (fun _ w' level => w.Onward w' ∧
      ∀ l, level.map (·.id) = some l → w'.db.HasLevel l) (levelOf ext inst m) h w := by
  unfold levelOf
  split
  next =>
    simp only [getOrLoadLevel, perform, Prog.call_bind, Prog.ret_bind]
    intro w₁ leaves x _
    simp only [exec]
    split
    next cached held =>
      have held : w₁.caches inst .notificationLevels (notificationLevelKey m.serviceSlug m.level) =
          some cached := by
        split at held
        · cases held
        · exact held
      refine ⟨leaves.onward, fun l same => ?_⟩
      obtain rfl := Option.some.inj same
      exact leaves.sound.levels inst _ cached held
    next =>
      refine service_completes (known.mono leaves.onward) fun h w₂ service later found => ?_
      refine (Prog.relies_bind ..).2
        (completes_run (q := .schemas (.getNotificationLevel service.id m.level)) rfl
          fun w₃ leaves₃ x _ _ => ?_)
      have onward := leaves.onward.trans (later.trans leaves₃.onward)
      split
      next level read =>
        intro w₄ leaves₄ x _
        have last := leaves₄.onward.trans (onward_exec ext x (.cacheInsert inst .notificationLevels
          (notificationLevelKey m.serviceSlug m.level) (cachedNotificationLevel level)) w₄)
        refine ⟨onward.trans last, fun l same => ?_⟩
        obtain rfl := Option.some.inj same
        refine Db.HasLevel.mono (Option.isSome_iff_exists.2 ⟨level, ?_⟩) last.registered
        exact Table.lookup_of_mem (Table.mem_of_lookup read) (.head _)
      next =>
        refine ⟨onward, fun l same => ?_⟩
        cases same
  next =>
    refine ⟨.refl w, fun l same => ?_⟩
    cases same

theorem getOrLoadUserPrefs_completes (userId : String) :
    Completes ext Never (fun _ w' _ => w.Onward w') (getOrLoadUserPrefs ext inst userId) h w := by
  simp only [getOrLoadUserPrefs, perform, Prog.call_bind, Prog.ret_bind]
  intro w₁ leaves x _
  simp only [exec]
  split
  next => exact leaves.onward
  next =>
    refine (Prog.relies_bind ..).2 (completes_run rfl fun w₂ leaves₂ x works => ?_)
    obtain ⟨pref, t, answer, _⟩ := getOrCreateUserPreference_ok (x.env ext) userId (works.fresh rfl)
    simp only [Sql.exec, Db.Preferences.Query.exec, answer]
    intro created
    have onward := leaves.onward.trans (leaves₂.onward.trans created)
    refine (Prog.relies_bind ..).2 (completes_run rfl fun w₃ leaves₃ x _ _ => ?_)
    refine (Prog.relies_bind ..).2 (completes_run rfl fun w₄ leaves₄ x _ _ => ?_)
    refine (Prog.relies_bind ..).2 (completes_run rfl fun w₅ leaves₅ x _ _ => ?_)
    intro w₆ leaves₆ x _
    exact onward.trans (leaves₃.onward.trans (leaves₄.onward.trans (leaves₅.onward.trans
      (leaves₆.onward.trans (onward_exec ext x (.cacheInsert inst .userPrefs userId _) w₆)))))

/-- A valid row whose references are stored is stored, unless one of its keys is taken. -/
theorem insertRow_cases {ρ : Type} [Schema ρ] {t : Table ρ} {r : ρ} (valid : Schema.check r = true) :
    (∃ t', insertRow t r true = .ok t') ∨
      insertRow t r true = .error .uniqueViolation ∧ ∃ k ∈ Schema.keys r, ∃ s, t.lookup k = some s := by
  by_cases free : ∀ k ∈ Schema.keys r, t.lookup k = none
  · obtain ⟨t', stored⟩ := Table.insert_ok valid free
    exact .inl ⟨t', by simp [insertRow, stored]⟩
  · refine .inr ⟨by simp [insertRow, Table.insert_unique valid free, DbError.ofViolation], ?_⟩
    simp only [not_forall] at free
    obtain ⟨k, mine, found⟩ := free
    exact ⟨k, mine, Option.ne_none_iff_exists'.1 found⟩

theorem IsNotificationOf.valid {payload : Payload} {n : Db.Notifications.InsertNotification}
    (new : IsNotificationOf payload n) (now : Time) : Schema.check (n.row now) = true := by
  refine decide_eq_true ?_
  rcases new.state with unseen | archived
  · exact (show (n.row now).state = "unseen" from unseen) ▸ by decide
  · exact (show (n.row now).state = "archived" from archived) ▸ by decide

/-- A key that a processor's row has in common with a stored one is the id or the idempotency key of
its message. -/
theorem IsNotificationOf.taken {n : Db.Notifications.InsertNotification}
    (new : IsNotificationOf (.ok m) n) {now : Time} {t : Table NotificationRow} {k : NotificationKey}
    {r : NotificationRow} (mine : k ∈ Schema.keys (n.row now)) (found : t.lookup k = some r) :
    Taken t m := by
  have carries := new.carries now (.refl _)
  refine ⟨r, Table.mem_of_lookup found, ?_⟩
  have own := Table.key_of_lookup found
  simp only [Schema.keys, List.mem_cons, Option.mem_toList, Option.map_eq_some_iff, carries.id,
    carries.idempotencyKey] at mine own
  rcases mine with rfl | ⟨key, named, rfl⟩
  · simp only [reduceCtorEq, and_false, exists_false, or_false] at own
    exact .inl (NotificationKey.id.inj own).symm
  · simp only [NotificationKey.idempotency.injEq, reduceCtorEq, exists_eq_right, false_or] at own
    exact .inr ⟨key, named, own⟩

/-- The processor has stored the notification of the message. -/
def HasStored (m : IngestMessage) (h : Record) : Prop :=
  ∃ n row, IsNotificationOf (.ok m) n ∧ ⟨.sql (.notifications (.insertNotification n)), .ok row⟩ ∈ h

/-- The database has rejected the notification of the message as a duplicate. -/
def HasCollided (m : IngestMessage) (h : Record) : Prop :=
  ∃ n, IsNotificationOf (.ok m) n ∧
    ⟨.sql (.notifications (.insertNotification n)), .error .uniqueViolation⟩ ∈ h

theorem expiresAtOf_completes (config : ResolvedConfig) :
    Completes ext Never (fun _ w' _ => w.Onward w') (expiresAtOf config) h w := by
  unfold expiresAtOf
  split
  · exact fun w' leaves _ _ => leaves.onward
  · exact .refl w

theorem nextEscalationAtOf_completes (config : ResolvedConfig) :
    Completes ext Never (fun _ w' _ => w.Onward w') (nextEscalationAtOf config) h w := by
  unfold nextEscalationAtOf
  split
  · split
    · exact fun w' leaves _ _ => leaves.onward
    · exact .refl w
  · exact .refl w

/-- The notification of a message whose type and level are registered is stored, unless it is a
duplicate. -/
theorem persist_completes {notifType : CachedNotificationType} {levelId : Option Uuid}
    (service : w.db.HasService notifType.serviceId) (type : w.db.HasType notifType.id)
    (level : ∀ l, levelId = some l → w.db.HasLevel l) (config : ResolvedConfig) :
    Completes ext (fun h _ _ => HasCollided m h) (fun h _ _ => HasStored m h)
      (persist ext m notifType levelId config) h w := by
  unfold persist
  refine (Prog.relies_bind ..).2 ((expiresAtOf_completes config).mono (fun _ _ _ => False.elim) ?_)
  intro h w₁ expiresAt onward₁
  refine (Prog.relies_bind ..).2
    ((nextEscalationAtOf_completes config).mono (fun _ _ _ => False.elim) ?_)
  intro h w₂ nextEscalationAt onward₂
  refine (Prog.relies_bind ..).2 (completes_run rfl fun w₃ leaves x _ => ?_)
  have later := (onward₁.trans (onward₂.trans leaves.onward)).registered
  set n := notificationOf m notifType levelId config expiresAt nextEscalationAt with new
  have ofMessage : IsNotificationOf (.ok m) n := ⟨m, notifType, levelId, config, _, _, rfl, new⟩
  have references : Db.Notifications.references w₃.db (n.row (x.env ext).now) = true :=
    references_iff.2 ⟨service.mono later, type.mono later, fun l same => (level l same).mono later⟩
  simp only [Sql.exec, Db.Notifications.Query.exec, Db.Notifications.insertNotification, references]
  rcases insertRow_cases (t := w₃.db.notifications) (ofMessage.valid (x.env ext).now) with
    ⟨t, stored⟩ | ⟨rejected, _⟩
  · rw [stored]
    intro _
    split
    · exact fun _ _ _ _ => ⟨n, _, ofMessage, List.mem_append_left _ (List.mem_append_right _ (.head _))⟩
    · exact ⟨n, _, ofMessage, List.mem_append_right _ (.head _)⟩
  · rw [rejected]
    exact ⟨n, ofMessage, by simp⟩

/-- A message whose type is registered is stored, unless it is a duplicate. -/
theorem processMessage_completes (known : w.db.Knows m) :
    Completes ext (fun h _ _ => HasCollided m h) (fun h _ _ => HasStored m h)
      (processMessage ext inst (.ok m)) h w := by
  simp only [processMessage, Prog.ofExcept, Prog.ret_bind]
  refine (Prog.relies_bind ..).2 ((getOrLoadNotifType_completes known _).mono
    (fun _ _ _ => False.elim) ?_)
  rintro h w₁ notifType ⟨onward₁, service, type⟩
  have known := known.mono onward₁
  refine (Prog.relies_bind ..).2 ((levelOf_completes known).mono (fun _ _ _ => False.elim) ?_)
  rintro h w₂ _ ⟨onward₂, _⟩
  refine (Prog.relies_bind ..).2 ((levelOf_completes (known.mono onward₂)).mono
    (fun _ _ _ => False.elim) ?_)
  rintro h w₃ level ⟨onward₃, registered⟩
  refine (Prog.relies_bind ..).2 ((getOrLoadUserPrefs_completes m.recipientUserId).mono
    (fun _ _ _ => False.elim) ?_)
  intro h w₄ userPrefs onward₄ w₅ leaves x _
  have later := (onward₂.trans (onward₃.trans (onward₄.trans leaves.onward))).registered
  have later' := (onward₄.trans leaves.onward).registered
  exact persist_completes (service.mono later) (type.mono later)
    (fun l same => (registered l same).mono later') _

/-- What a processor has done with a message when it ends. -/
def HasCompleted (seq : ℕ) (m : IngestMessage) (h : Record) : Prop :=
  HasStored m h ∧ ⟨.ack seq, .ok ()⟩ ∈ h ∨ HasCollided m h

/-- A processor completes the message it has received. -/
theorem processorRun_completes (ext : Ext) (inst seq : ℕ) (w : World) :
    Completes ext Never (fun h _ _ => ∀ m, Received seq m h → HasCompleted seq m h)
      (processorRun ext inst seq) [] w := by
  simp only [processorRun, perform, Prog.call_bind, Prog.ret_bind]
  intro w₁ leaves x _
  simp only [exec]
  set h : Record := [] ++ [⟨.receive seq, w₁.stream[seq]?⟩] with begins
  -- the message that has been received first is the one that is processed
  have same : ∀ {h' : Record}, h <+: h' → ∀ m, Received seq m h' → w₁.stream[seq]? = some (.ok m) := by
    rintro _ ⟨rest, rfl⟩ m received
    have first : (⟨.receive seq, w₁.stream[seq]?⟩ : Σ o : Op, o.Ans) = ⟨.receive seq, some (.ok m)⟩ :=
      Option.some.inj received
    exact eq_of_heq (Sigma.mk.inj first).2
  split
  next none =>
    intro m received
    cases none.symm.trans (same (List.prefix_refl h) m received)
  next payload present =>
    obtain ⟨m, rfl, known⟩ := leaves.sound.messages payload (List.mem_of_getElem? present)
    have only : ∀ {h' : Record}, h <+: h' → ∀ m', Received seq m' h' → m' = m := by
      intro h' before m' received
      cases (same before m' received).symm.trans present
      rfl
    refine (Prog.relies_bind ..).2 ((Prog.relies_attempt ..).2 ?_)
    refine ((processMessage_completes known).extends (List.prefix_refl h)).mono ?_ ?_
    · rintro h' w' e ⟨before, collided⟩ w₂ _ x _ m' received
      obtain rfl := only (before.trans (List.prefix_append ..)) m' received
      obtain ⟨n, new, mem⟩ := collided
      exact .inr ⟨n, new, List.mem_append_left _ mem⟩
    · rintro h' w' _ ⟨before, stored⟩ w₂ _ x works m' received
      obtain rfl := only (before.trans (List.prefix_append ..)) m' received
      obtain ⟨n, row, new, mem⟩ := stored
      have sent : x.sent = .ok () := by rw [Choice.sent, works.unsent]
      exact .inl ⟨⟨n, row, new, List.mem_append_left _ mem⟩,
        List.mem_append_right _ (sent ▸ .head _)⟩

end Processor

/-! ## Runs -/

section Runs

variable {ext : Ext} {w₀ : World} {es : History} {p : State} {i inst seq : ℕ} {m : IngestMessage}
  {k : Program Failure Outcome}

/-- An insertion that is rejected although the statement works finds a key of the message taken. -/
theorem taken_of_collided (run : (system ext).Run (Pool.idle w₀) es p)
    {e : Event Call Op Op.Ans World Choice} (he : e ∈ es) (works : e.choice.failure = none)
    {n : Db.Notifications.InsertNotification} (new : IsNotificationOf (.ok m) n)
    (collided : e.done = ⟨.sql (.notifications (.insertNotification n)), .error .uniqueViolation⟩) :
    Taken e.before.db.notifications m := by
  obtain ⟨i, c, o, x, w, rfl⟩ := performed run e he
  have op : o = .sql (.notifications (.insertNotification n)) := congrArg Sigma.fst collided
  subst op
  have answer : (execSql ext x (.notifications (.insertNotification n)) w).1 =
      .error .uniqueViolation := eq_of_heq (Sigma.mk.inj collided).2
  have works : x.failure = none := works
  simp only [execSql, works, Sql.instants, List.all_nil, if_true, Sql.exec, Db.Notifications.Query.exec,
    Db.Notifications.insertNotification] at answer
  show Taken w.db.notifications m
  rcases stored : w.db.notifications.insert (n.row (x.env ext).now) with violation | t
  · by_contra apart
    obtain ⟨t, ok⟩ := Table.insert_ok (t := w.db.notifications) (new.valid (x.env ext).now)
      fun k mine => Option.eq_none_iff_forall_ne_some.2 fun r found => apart (new.taken mine found)
    cases stored.symm.trans ok
  · simp only [insertRow, stored] at answer
    cases references : Db.Notifications.references w.db (n.row (x.env ext).now) <;>
      simp [references, Except.map] at answer

theorem acked_of_acked {x : Choice} {o : Op} {w : World} (h : seq ∈ w.acked) :
    seq ∈ (exec ext x o w).2.acked := by
  by_cases acks : ∃ k, o = .ack k
  · obtain ⟨k, rfl⟩ := acks
    simp only [exec]
    split
    · exact .tail _ h
    · exact h
  · rw [acked_exec fun k same => acks ⟨k, same⟩]
    exact h

theorem acked_of_done (run : (system ext).Run (Pool.idle w₀) es p)
    {e : Event Call Op Op.Ans World Choice} (he : e ∈ es) (done : e.done = ⟨.ack seq, .ok ()⟩) :
    seq ∈ p.world.acked := by
  obtain ⟨pre, post, rfl⟩ := List.append_of_mem he
  obtain ⟨q, i, c, o, k, x, rfl, _, _, rest⟩ := run.at
  have op : o = .ack seq := congrArg Sigma.fst done
  subst op
  have sent : x.sent = .ok () := eq_of_heq (Sigma.mk.inj done).2
  refine rest.keeps (K := fun w => seq ∈ w.acked) (fun _ _ _ => acked_of_acked) ?_
  show seq ∈ (exec ext x (.ack seq) q.world).2.acked
  unfold Choice.sent at sent
  split at sent
  · cases sent
  next delivered =>
    simp [exec, delivered]

theorem completed_of_ended (run : (system ext).Run (Pool.idle w₀) es p)
    (cold : ∀ inst c key, w₀.caches inst c key = none) (start : w₀.stream = [])
    (thread : p.threads i = some (.processor inst seq, k)) (ended : k.Done)
    (works : ∀ e ∈ es, e.tid = i → Works e.choice e.op e.before)
    (received : Received seq m (doneBy es i)) : HasCompleted seq m (doneBy es i) := by
  have leaves : ∀ es q, (system ext).Run (Pool.idle w₀) es q → ∀ e ∈ es, e.before.Leaves e.after := by
    intro es q run e he
    obtain ⟨pre, post, rfl⟩ := List.append_of_mem he
    obtain ⟨q, i, c, o, k, x, rfl, before, at_call, _⟩ := run.at
    exact ⟨onward_exec ext x o q.world, sound_of_run (before.step x at_call) cold start⟩
  have body : ∀ w, Completes ext Never (fun h _ _ => ∀ m, Received seq m h → HasCompleted seq m h)
      ((system ext).body (.processor inst seq)) [] w := by
    intro w
    refine (Prog.relies_bind ..).2 ((Prog.relies_mapErr ..).2 ?_)
    exact processorRun_completes ext inst seq w
  obtain ⟨w, _, relies⟩ := run.relied (fun _ _ run => ⟨.refl _, sound_of_run run cold start⟩) leaves
    (fun first second => ⟨first.onward.trans second.onward, second.sound⟩) thread works body
  cases k with
  | ret => exact relies m received
  | fail => exact relies.elim
  | call => exact ended.elim

theorem carries_of_stored (run : (system ext).Run (Pool.idle w₀) es p)
    (stored : HasStored m (doneBy es i)) : ∃ r ∈ p.world.db.notifications.rows, r.Carries m := by
  obtain ⟨n, row, new, inserted⟩ := stored
  obtain ⟨e, he, _, done⟩ := mem_doneBy.1 inserted
  obtain ⟨g, watched, _⟩ := phased run
  have ins : Estafeta.inserted e.op e.ans = some n := by
    change Estafeta.inserted e.done.1 e.done.2 = some n
    rw [done]
    rfl
  obtain ⟨r, stored, keeps⟩ := kept watched he ins
  exact ⟨r, Table.mem_of_lookup stored, new.carries _ keeps⟩

/-- An insertion of a thread that was rejected found a key of the message taken. -/
theorem rejected_of_collided (run : (system ext).Run (Pool.idle w₀) es p)
    (works : ∀ e ∈ es, e.tid = i → Works e.choice e.op e.before)
    (collided : HasCollided m (doneBy es i)) :
    ∃ e ∈ es, e.tid = i ∧ ∃ n, IsNotificationOf (.ok m) n ∧
      e.op = .sql (.notifications (.insertNotification n)) ∧ Taken e.before.db.notifications m := by
  obtain ⟨n, new, collided⟩ := collided
  obtain ⟨e, he, own, done⟩ := mem_doneBy.1 collided
  exact ⟨e, he, own, n, new, congrArg Sigma.fst done,
    taken_of_collided run he (works e he own).failure new done⟩

/-- A processor that has ended has stored the notification of the message it received, and
acknowledged the message; or the database has rejected the notification, since one with the same id or
the same idempotency key was stored. This is so whatever else runs, as long as the processor's own
statements and NATS calls work. -/
theorem completes (run : (system ext).Run (Pool.idle w₀) es p)
    (cold : ∀ inst c key, w₀.caches inst c key = none) (start : w₀.stream = [])
    (thread : p.threads i = some (.processor inst seq, k)) (ended : k.Done)
    (works : ∀ e ∈ es, e.tid = i → Works e.choice e.op e.before)
    (received : Received seq m (doneBy es i)) :
    (∃ r ∈ p.world.db.notifications.rows, r.Carries m) ∧ seq ∈ p.world.acked ∨
      ∃ e ∈ es, e.tid = i ∧ ∃ n, IsNotificationOf (.ok m) n ∧
        e.op = .sql (.notifications (.insertNotification n)) ∧ Taken e.before.db.notifications m := by
  rcases completed_of_ended run cold start thread ended works received with ⟨stored, acked⟩ | collided
  · obtain ⟨a, ha, _, acks⟩ := mem_doneBy.1 acked
    exact .inl ⟨carries_of_stored run stored, acked_of_done run ha acks⟩
  · exact .inr (rejected_of_collided run works collided)

theorem taken_of_grows {t t' : Table NotificationRow} (grows : t.Grows t') (taken : Taken t m) :
    Taken t' m := by
  obtain ⟨r, stored, same⟩ := taken
  obtain ⟨r', found, keys⟩ := grows _ r (Table.lookup_of_mem stored (.head _))
  refine ⟨r', Table.mem_of_lookup found, ?_⟩
  rcases same with same | ⟨key, mine, its⟩
  · exact .inl ((NotificationKey.id.inj (List.cons.inj keys).1).trans same)
  · have its : NotificationKey.idempotency key ∈ Schema.keys r' := by
      rw [keys]
      simp [Schema.keys, its]
    exact .inr ⟨key, mine, by simpa [Schema.keys] using its⟩

/-- The messages of the stream. -/
def World.messages (w : World) : List IngestMessage := w.stream.filterMap Except.toOption

theorem mem_messages {w : World} : m ∈ w.messages ↔ .ok m ∈ w.stream := by
  simp only [World.messages, List.mem_filterMap]
  constructor
  · rintro ⟨payload | m', present, same⟩
    · cases same
    · cases same
      exact present
  · exact fun present => ⟨_, present, rfl⟩

theorem present_of_present {x : Choice} {o : Op} {w : World} {payload : Payload}
    (present : payload ∈ w.stream) : payload ∈ (exec ext x o w).2.stream := by
  rcases stream_cases ext x o w with same | ⟨_, _, _, added⟩
  · exact same ▸ present
  · exact added ▸ List.mem_append_left _ present

theorem carries_message (run : (system ext).Run (Pool.idle w₀) es p)
    (start : w₀.stream = []) (empty : w₀.db.notifications = .empty) :
    ∀ r ∈ p.world.db.notifications.rows, ∃ m ∈ p.world.messages, r.Carries m := by
  intro r stored
  obtain ⟨g, watched, _⟩ := phased run
  obtain ⟨d, hd, n, ins, keeps⟩ := origin watched empty r stored
  obtain ⟨pre, post, rfl⟩ := List.append_of_mem hd
  obtain ⟨g', i, c, s, o, x, w', rfl, before, at_call, permitted, _⟩ := watched.at
  obtain ⟨payload, present, new⟩ := inserted_message before at_call permitted ins
  obtain ⟨m, rfl, _⟩ := stream_origin before start present
  refine ⟨m.reread ext.floatText, mem_messages.2 ?_, new.carries _ keeps⟩
  exact run.since (K := fun w => .ok (m.reread ext.floatText) ∈ w.stream)
    (fun _ _ _ => present_of_present) present

/-- A processor whose own statements and NATS calls work has received the message with a sequence
number, and has ended. -/
def WorkedOff (es : History) (p : State) (seq : ℕ) (m : IngestMessage) : Prop :=
  ∃ i inst k, p.threads i = some (.processor inst seq, k) ∧ k.Done ∧ Received seq m (doneBy es i) ∧
    ∀ e ∈ es, e.tid = i → Works e.choice e.op e.before

theorem WorkedOff.taken (run : (system ext).Run (Pool.idle w₀) es p)
    (cold : ∀ inst c key, w₀.caches inst c key = none) (start : w₀.stream = [])
    (done : WorkedOff es p seq m) : Taken p.world.db.notifications m := by
  obtain ⟨i, inst, k, thread, ended, received, works⟩ := done
  rcases completed_of_ended run cold start thread ended works received with ⟨stored, _⟩ | collided
  · obtain ⟨r, stored, carries⟩ := carries_of_stored run stored
    exact ⟨r, stored, .inl carries.id⟩
  · obtain ⟨e, he, _, n, _, _, r, stored, same⟩ := rejected_of_collided run works collided
    obtain ⟨pre, post, rfl⟩ := List.append_of_mem he
    have grows := run.since (K := fun w => e.before.db.notifications.Grows w.db.notifications)
      (fun x o w earlier => earlier.trans (onward_exec ext x o w).notifications) (.refl _)
    exact taken_of_grows grows ⟨r, stored, same⟩

/-- Once processors have finished with all messages, the notifications are those of the messages, each
stored once, if no two messages share an id or an idempotency key. -/
theorem exactly_once (run : (system ext).Run (Pool.idle w₀) es p)
    (cold : ∀ inst c key, w₀.caches inst c key = none) (start : w₀.stream = [])
    (empty : w₀.db.notifications = .empty)
    (finished : ∀ seq m, p.world.stream[seq]? = some (.ok m) → WorkedOff es p seq m)
    (distinct : (p.world.messages.map (·.notificationId)).Nodup)
    (apart : ∀ m ∈ p.world.messages, ∀ m' ∈ p.world.messages, ∀ key, m.idempotencyKey = some key →
      m'.idempotencyKey = some key → m.notificationId = m'.notificationId) :
    (p.world.db.notifications.rows.map (·.id)).Perm (p.world.messages.map (·.notificationId)) := by
  have carried := carries_message run start empty
  have unique : (p.world.db.notifications.rows.map (·.id)).Nodup := by
    refine List.pairwise_map.2 (p.world.db.notifications.unique.imp fun apart same => ?_)
    exact apart _ (.head _) (same ▸ .head _)
  refine (List.perm_ext_iff_of_nodup unique distinct).2 fun id => ?_
  simp only [List.mem_map]
  constructor
  · rintro ⟨r, stored, rfl⟩
    obtain ⟨m, present, carries⟩ := carried r stored
    exact ⟨m, present, carries.id.symm⟩
  · rintro ⟨m, present, rfl⟩
    obtain ⟨seq, at_seq⟩ := List.getElem?_of_mem (mem_messages.1 present)
    obtain ⟨r, stored, same | ⟨key, mine, its⟩⟩ := (finished seq m at_seq).taken run cold start
    · exact ⟨r, stored, same⟩
    · obtain ⟨m', present', carries⟩ := carried r stored
      have shared := apart m present m' present' key mine (carries.idempotencyKey.symm.trans its)
      exact ⟨r, stored, carries.id.trans shared.symm⟩

end Runs

/-- The message of the request in `sent`. -/
def Sample.sentMessage : IngestMessage :=
  NotificationService.ingestMessage (request "mail" "letter") 9 (request "mail" "letter").payloadValue

theorem Sample.sent_works : ∀ e ∈ sent.2, e.tid = 1 → Works e.choice e.op e.before := by
  decide +kernel

/-- A request is sent, and a processor stores the notification of its message. -/
theorem completes_sent :
    (∃ r ∈ Sample.sent.1.world.db.notifications.rows, r.Carries Sample.sentMessage) ∧
        0 ∈ Sample.sent.1.world.acked ∨
      ∃ e ∈ Sample.sent.2, e.tid = 1 ∧ ∃ n, IsNotificationOf (.ok Sample.sentMessage) n ∧
        e.op = .sql (.notifications (.insertNotification n)) ∧
        Taken e.before.db.notifications Sample.sentMessage :=
  completes (i := 1) (k := .ret none) (Sample.run_playedUuid rfl) (fun _ _ _ => rfl) rfl rfl trivial
    Sample.sent_works rfl

namespace Sample

/-- The surroundings when the second id is chosen. -/
def second : Choice := { choice with uuid := 10 }

/-- Two requests are sent, and processors store the notifications of their messages; the first message
is delivered twice. -/
def redelivered : State × History :=
  playedUuid (world .empty [])
    (.start 0 (.rpc 0 (some ann) (.sendNotification (request "mail" "letter"))) ::
      .start 1 (.rpc 0 (some ann) (.sendNotification (request "mail" "letter"))) ::
      .start 2 (.processor 0 0) :: .start 3 (.processor 0 0) :: .start 4 (.processor 0 1) ::
      (List.replicate 5 (.step 0 choice) ++ List.replicate 5 (.step 1 second) ++
        List.replicate 16 (.step 2 choice) ++ List.replicate 7 (.step 3 choice) ++
        List.replicate 8 (.step 4 choice)))

theorem redelivered_works : ∀ e ∈ redelivered.2, 2 ≤ e.tid → Works e.choice e.op e.before := by
  decide +kernel

end Sample

/-- Two messages are stored once each, although the first is received twice. -/
theorem exactly_once_redelivered :
    (Sample.redelivered.1.world.db.notifications.rows.map (·.id)).Perm
        (Sample.redelivered.1.world.messages.map (·.notificationId)) ∧
      Sample.redelivered.1.world.messages.length = 2 ∧
      Received 0 Sample.sentMessage (doneBy Sample.redelivered.2 2) ∧
      Received 0 Sample.sentMessage (doneBy Sample.redelivered.2 3) := by
  have stream : Sample.redelivered.1.world.stream =
      [.ok Sample.sentMessage, .ok { Sample.sentMessage with notificationId := 10 }] := rfl
  have keyless : ∀ m ∈ Sample.redelivered.1.world.messages, m.idempotencyKey = none := by
    rw [World.messages, stream]
    rintro m (_ | ⟨_, _ | ⟨_, ⟨⟩⟩⟩) <;> rfl
  refine ⟨?_, rfl, rfl, rfl⟩
  refine exactly_once (Sample.run_playedUuid rfl) (fun _ _ _ => rfl) rfl rfl ?_ (by decide) ?_
  · intro seq m present
    rw [stream] at present
    rcases seq with _ | _ | seq
    · cases present
      exact ⟨2, 0, .ret none, rfl, trivial, rfl, fun e he own =>
        Sample.redelivered_works e he own.ge⟩
    · cases present
      exact ⟨4, 0, .ret none, rfl, trivial, rfl, fun e he own =>
        Sample.redelivered_works e he (by omega)⟩
    · cases present
  · intro m present m' _ key keyed
    cases (keyless m present).symm.trans keyed

end Estafeta
