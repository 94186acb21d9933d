import Estafeta.Queue

/-!
# Services in one queue

What the messages of a service are stored as does not depend on the messages of other services in
the queue, as long as those carry none of its idempotency keys. The key alone is unique in the
database, not the key within a service: with equal keys, the message that comes first is stored.
-/

open Relational Atomic

namespace Estafeta

/-! ## A run of the queue -/

/-- A message of the queue, and the time at which it is processed. -/
structure Job where
  message : IngestMessage
  now : Time

/-- The processors take the jobs one after the other, each on some instance. -/
inductive Consumed (ext : Ext) : World → List Job → World → Prop where
  | nil (w) : Consumed ext w [] w
  | cons {w d ds w'} (inst seq : ℕ) (x : ℕ → Choice)
    (received : w.stream[seq]? = some (.ok d.message))
    (reliable : ∀ n, Reliable w.db.userPreferences d.now (x n))
    (rest : Consumed ext ((processorRun ext inst seq).run (exec ext) x w).2 ds w') :
    Consumed ext w (d :: ds) w'

/-- The notifications after some jobs. -/
def Db.storeAll (db : Db) (ds : List Job) (t : Table NotificationRow) : Table NotificationRow :=
  ds.foldl (fun t d => db.store d.message d.now t) t

/-- A run of the queue stores what the tables say, whatever is cached on the way. -/
theorem Consumed.stores {ext : Ext} {w w' : World} {ds : List Job} (consumed : Consumed ext w ds w')
    {db : Db} {ms : List IngestMessage} {since : Time} (served : Served db ms since w)
    (apart : KeysApart ms) (queued : ∀ d ∈ ds, d.message ∈ ms) (start : ∀ d ∈ ds, since ≤ d.now)
    (ordered : ds.Pairwise fun d d' => d.now ≤ d'.now) :
    w'.db.services = db.services ∧
      w'.db.notifications = db.storeAll ds w.db.notifications := by
  induction consumed generalizing since with
  | nil w => exact ⟨served.services, rfl⟩
  | @cons w d ds w' inst seq x received reliable rest ih =>
    obtain ⟨first, ordered⟩ := List.pairwise_cons.1 ordered
    obtain ⟨served, stored⟩ := processorRun_stores inst (served.later (start d (.head _)))
      apart (queued d (.head _)) received reliable
    obtain ⟨services, stores⟩ := ih served (fun d hd => queued d (.tail _ hd)) first ordered
    exact ⟨services, by rw [stores, stored]; rfl⟩

/-! ## One service in the queue -/

/-- The unique keys of the notification of a message. -/
def IngestMessage.keys (m : IngestMessage) : List NotificationKey :=
  .id m.notificationId :: (m.idempotencyKey.map .idempotency).toList

/-- The notification belongs to the service with the slug. -/
def Db.isOf (db : Db) (slug : String) (r : NotificationRow) : Bool :=
  (db.services.lookup (.id r.serviceId)).any fun s => s.slug = slug

/-- The jobs of a service. -/
def jobsOf (slug : String) (ds : List Job) : List Job :=
  ds.filter fun d => d.message.serviceSlug = slug

section Service

variable {db : Db} {slug : String} {m : IngestMessage} {now : Time}
  {t u : Table NotificationRow} {K : NotificationKey → Prop}

theorem isOf_rowOf {notifType : CachedNotificationType}
    (typed : db.typeOf m.serviceSlug m.notificationType = some notifType) :
    db.isOf slug (db.rowOf m now notifType) = decide (m.serviceSlug = slug) := by
  obtain ⟨s, known, typed⟩ := Option.bind_eq_some_iff.1 typed
  obtain ⟨nt, found, rfl⟩ := Option.map_eq_some_iff.1 typed
  have slug_eq : s.slug = m.serviceSlug := by
    have key : ServiceKey.slug m.serviceSlug ∈ [ServiceKey.id s.id, .slug s.slug] :=
      Table.key_of_lookup known
    simpa [eq_comm] using key
  have service_eq : nt.serviceId = s.id := by
    have key : NotificationTypeKey.typeKey s.id m.notificationType ∈
      [NotificationTypeKey.id nt.id, .typeKey nt.serviceId nt.typeKey] := Table.key_of_lookup found
    have : s.id = nt.serviceId ∧ m.notificationType = nt.typeKey := by simpa using key
    exact this.1.symm
  have service : db.services.lookup (.id nt.serviceId) = some s :=
    Table.lookup_of_mem (Table.mem_of_lookup known) (service_eq ▸ .head _)
  show (db.services.lookup (.id nt.serviceId)).any _ = _
  rw [service, Option.any_some, slug_eq]

/-- A message of another service, with keys of its own, makes no difference. -/
theorem store_other (other : m.serviceSlug ≠ slug) (apart : ∀ k ∈ m.keys, ¬ K k) :
    Table.AlikeOn (db.isOf slug) K (db.store m now t) t := by
  unfold Db.store
  split
  next notifType typed =>
    unfold Db.storeRow insertRow
    rcases stored : t.insert (db.rowOf m now notifType) with v | t'
    · exact .refl _ _ _
    · have same : Table.AlikeOn (db.isOf slug) K t' t :=
        .insert_other stored (by rw [isOf_rowOf typed]; simpa using other) apart
      cases Db.Notifications.references db (db.rowOf m now notifType) with
      | true => exact same
      | false => exact .refl _ _ _
  next => exact .refl _ _ _

theorem store_own (alike : Table.AlikeOn (db.isOf slug) K t u) (within : ∀ k ∈ m.keys, K k) :
    Table.AlikeOn (db.isOf slug) K (db.store m now t) (db.store m now u) := by
  unfold Db.store
  split
  next notifType typed =>
    unfold Db.storeRow insertRow
    rcases alike.insert (r := db.rowOf m now notifType) within with
      ⟨v, ht, hu⟩ | ⟨t', u', ht, hu, stored⟩
    · simpa only [ht, hu] using alike
    · simp only [ht, hu]
      cases Db.Notifications.references db (db.rowOf m now notifType) with
      | true => exact stored
      | false => exact alike
  next => exact alike

/-- The jobs of a service store the same without the other jobs. -/
theorem storeAll_jobsOf {ds : List Job} (within : ∀ d ∈ jobsOf slug ds, ∀ k ∈ d.message.keys, K k)
    (apart : ∀ d ∈ ds, d.message.serviceSlug ≠ slug → ∀ k ∈ d.message.keys, ¬ K k)
    (alike : Table.AlikeOn (db.isOf slug) K t u) :
    Table.AlikeOn (db.isOf slug) K (db.storeAll ds t) (db.storeAll (jobsOf slug ds) u) := by
  induction ds generalizing t u with
  | nil => exact alike
  | cons d ds ih =>
    have apart' : ∀ d ∈ ds, d.message.serviceSlug ≠ slug → ∀ k ∈ d.message.keys, ¬ K k :=
      fun d hd => apart d (.tail _ hd)
    by_cases mine : d.message.serviceSlug = slug
    · have jobs : jobsOf slug (d :: ds) = d :: jobsOf slug ds := by simp [jobsOf, mine]
      rw [jobs] at within ⊢
      exact ih (fun d hd => within d (.tail _ hd)) apart' (store_own alike (within d (.head _)))
    · have jobs : jobsOf slug (d :: ds) = jobsOf slug ds := by simp [jobsOf, mine]
      rw [jobs] at within ⊢
      exact ih within apart' ((store_other mine (apart d (.head _) mine)).trans alike)

end Service

/-! ## Two queues -/

/-- The notifications of a service, with their contents. -/
def World.notificationsOf (w : World) (slug : String) : Set NotificationRow :=
  { r | r ∈ w.db.notifications.rows ∧ w.OfService slug r }

/-- A run of the queue `ds`. Messages have distinct ids, but may be delivered again. Nobody writes
to the registry or the preferences meanwhile, and what is cached of them at the start is correct. -/
structure Processed (ext : Ext) (w : World) (ds : List Job) (w' : World) : Prop where
  consumed : Consumed ext w ds w'
  ids : ∀ d ∈ ds, ∀ d' ∈ ds, d.message.notificationId = d'.message.notificationId →
    d.message = d'.message
  ordered : ds.Pairwise fun d d' => d.now ≤ d'.now
  cached : ∃ since, Served w.db (ds.map (·.message)) since w ∧ ∀ d ∈ ds, since ≤ d.now
  apart : KeysApart (ds.map (·.message))

/-- No message of another service carries an idempotency key of a message of the service. -/
def KeysOwn (slug : String) (ds : List Job) : Prop :=
  ∀ d ∈ ds, ∀ d' ∈ ds, d.message.serviceSlug = slug → d'.message.serviceSlug ≠ slug →
    ∀ key, d.message.idempotencyKey = some key → d'.message.idempotencyKey ≠ some key

theorem Processed.keys_apart {ext : Ext} {w w' : World} {ds : List Job} {slug : String}
    (run : Processed ext w ds w') (own : KeysOwn slug ds) :
    ∀ d' ∈ ds, d'.message.serviceSlug ≠ slug → ∀ k ∈ d'.message.keys,
      ¬ ∃ d ∈ jobsOf slug ds, k ∈ d.message.keys := by
  rintro d' hd' other k hk' ⟨d, hd, hk⟩
  obtain ⟨hd, mine⟩ := List.mem_filter.1 hd
  have mine : d.message.serviceSlug = slug := by simpa using mine
  cases k with
  | id id =>
    have same : id = d.message.notificationId := by simpa [IngestMessage.keys] using hk
    have same' : id = d'.message.notificationId := by simpa [IngestMessage.keys] using hk'
    exact other (run.ids d hd d' hd' (same.symm.trans same') ▸ mine)
  | idempotency key =>
    have same : d.message.idempotencyKey = some key := by simpa [IngestMessage.keys] using hk
    have same' : d'.message.idempotencyKey = some key := by simpa [IngestMessage.keys] using hk'
    exact own d hd d' hd' mine other key same same'

theorem Processed.stores {ext : Ext} {w w' : World} {ds : List Job}
    (run : Processed ext w ds w') : w'.db.services = w.db.services ∧
      w'.db.notifications = w.db.storeAll ds w.db.notifications := by
  obtain ⟨since, served, start⟩ := run.cached
  exact run.consumed.stores served run.apart (fun d hd => List.mem_map.2 ⟨d, hd, rfl⟩) start
    run.ordered

theorem mem_notificationsOf {w : World} {db : Db} (services : w.db.services = db.services)
    {slug : String} {r : NotificationRow} : r ∈ w.notificationsOf slug ↔
      r ∈ w.db.notifications.rows ∧ db.isOf slug r = true := by
  simp [World.notificationsOf, World.OfService, Db.isOf, services, Option.any_eq_true]

/-- Two queues with the same messages of a service, but other messages of other services in any
order, store the same notifications of the service, if only its own messages carry its keys. -/
theorem stored_alike (ext : Ext) {slug : String} {w₁ w₂ w₁' w₂' : World} {ds₁ ds₂ : List Job}
    (run₁ : Processed ext w₁ ds₁ w₁') (run₂ : Processed ext w₂ ds₂ w₂') (start : w₁.db = w₂.db)
    (same : jobsOf slug ds₁ = jobsOf slug ds₂) (own₁ : KeysOwn slug ds₁)
    (own₂ : KeysOwn slug ds₂) : w₁'.notificationsOf slug = w₂'.notificationsOf slug := by
  obtain ⟨services₁, stores₁⟩ := run₁.stores
  obtain ⟨services₂, stores₂⟩ := run₂.stores
  rw [← start] at services₂ stores₂
  have apart₁ := run₁.keys_apart own₁
  have apart₂ := run₂.keys_apart own₂
  rw [same] at apart₁
  have alike₁ := storeAll_jobsOf (same ▸ fun d hd k hk => ⟨d, hd, hk⟩) apart₁
    (.refl (w₁.db.isOf slug) _ w₁.db.notifications)
  have alike₂ := storeAll_jobsOf (fun d hd k hk => ⟨d, hd, hk⟩) apart₂
    (.refl (w₁.db.isOf slug) _ w₁.db.notifications)
  rw [same] at alike₁
  have alike := (alike₁.trans alike₂.symm).rows
  ext r
  rw [mem_notificationsOf services₁, mem_notificationsOf services₂, stores₁, stores₂]
  exact and_congr_left alike.mem

/-! ### Two services -/

namespace Sample

/-- The service `chat`. -/
def chat : ServiceRow := { service with id := 4, slug := "chat", displayName := "Chat" }

/-- A type of `chat`. -/
def chatType : NotificationTypeRow := { notificationType with id := 6, serviceId := 4 }

/-- A world with two services, no notifications, and messages in the stream. -/
def shared (stream : List Payload) : World where
  db :=
    { db .empty with
      services :=
        { rows := [service, chat]
          unique := by decide
          checked := by decide }
      notificationTypes :=
        { rows := [notificationType, chatType]
          unique := by decide
          checked := by decide } }
  stream := stream
  acked := []
  published := []
  caches _ _ _ := none

/-- A message of `chat` with a key. -/
def chatMessage (key : String) : IngestMessage :=
  { message with notificationId := 5, serviceSlug := "chat", idempotencyKey := some key }

/-- The message of `chat` and then the one of `mail`. -/
def both (key : String) : World := shared [.ok (chatMessage key), .ok message]

/-- The message of `mail` alone. -/
def single : World := shared [.ok message]

/-- The jobs of a world. -/
def bothJobs (key : String) : List Job := [⟨chatMessage key, 7⟩, ⟨message, 7⟩]

def singleJob : List Job := [⟨message, 7⟩]

/-- A processor handles a message of the stream; `uuid` is the next id that the database generates. -/
def handled (seq : ℕ) (uuid : Uuid) (w : World) : World :=
  ((processorRun ext 0 seq).run (exec ext) (fun _ => { choice with uuid := uuid }) w).2

theorem processed_both (key : String)
    (received : (handled 0 9 (both key)).stream[1]? = some (.ok message))
    (fresh : (handled 0 9 (both key)).db.userPreferences.lookup (.id 10) = none) :
    Processed ext (both key) (bothJobs key) (handled 1 10 (handled 0 9 (both key))) where
  consumed := by
    refine .cons 0 0 (fun _ => { choice with uuid := 9 }) rfl (fun _ => ⟨rfl, rfl, rfl⟩) ?_
    change Consumed ext (handled 0 9 (both key)) _ _
    refine .cons 0 1 (fun _ => { choice with uuid := 10 }) received (fun _ => ⟨rfl, rfl, fresh⟩) ?_
    exact .nil _
  ids d hd d' hd' h := by
    simp only [bothJobs, List.mem_cons, List.not_mem_nil, or_false] at hd hd'
    rcases hd with rfl | rfl <;> rcases hd' with rfl | rfl
    · rfl
    · cases h
    · cases h
    · rfl
  ordered := by simp [bothJobs]
  cached := ⟨7, .cold fun _ _ _ => rfl, by simp [bothJobs]⟩
  apart m hm m' hm' := by
    have types : notificationTypeKey "chat" "letter" ≠ notificationTypeKey "mail" "letter" := by
      decide
    have levels : notificationLevelKey "chat" "" ≠ notificationLevelKey "mail" "" := by decide
    simp only [bothJobs, List.map_cons, List.map_nil, List.mem_cons, List.not_mem_nil,
      or_false] at hm hm'
    rcases hm with rfl | rfl <;> rcases hm' with rfl | rfl
    · exact ⟨fun _ => ⟨rfl, rfl⟩, fun _ => ⟨rfl, rfl⟩⟩
    · exact ⟨fun h => absurd h types, fun h => absurd h levels⟩
    · exact ⟨fun h => absurd h types.symm, fun h => absurd h levels.symm⟩
    · exact ⟨fun _ => ⟨rfl, rfl⟩, fun _ => ⟨rfl, rfl⟩⟩

theorem processed_single : Processed ext single singleJob (handled 0 9 single) where
  consumed :=
    .cons 0 0 (fun _ => { choice with uuid := 9 }) rfl (fun _ => ⟨rfl, rfl, rfl⟩) (.nil _)
  ids d hd d' hd' h := by
    rw [List.mem_singleton.1 hd, List.mem_singleton.1 hd']
  ordered := by simp [singleJob]
  cached := ⟨7, .cold fun _ _ _ => rfl, by simp [singleJob]⟩
  apart m hm m' hm' := by
    rw [List.mem_singleton.1 hm, List.mem_singleton.1 hm']
    exact ⟨fun _ => ⟨rfl, rfl⟩, fun _ => ⟨rfl, rfl⟩⟩

theorem jobsOf_both (key : String) : jobsOf "mail" (bothJobs key) = jobsOf "mail" singleJob := rfl

end Sample

/-- The message of `chat` has another key than that of `mail`. -/
theorem stored_alike_other :
    (Sample.handled 1 10 (Sample.handled 0 9 (Sample.both "other"))).notificationsOf "mail" =
      (Sample.handled 0 9 Sample.single).notificationsOf "mail" := by
  refine stored_alike Sample.ext (Sample.processed_both "other" rfl rfl) Sample.processed_single rfl
    (Sample.jobsOf_both _) ?_ ?_
  · intro d hd d' hd' mine other key
    simp only [Sample.bothJobs, List.mem_cons, List.not_mem_nil, or_false] at hd hd'
    rcases hd with rfl | rfl <;> rcases hd' with rfl | rfl
    · exact absurd mine (by decide)
    · exact absurd mine (by decide)
    · rintro ⟨⟩
      decide
    · exact absurd rfl other
  · intro d hd d' hd' mine other
    rw [List.mem_singleton.1 hd'] at other
    exact absurd rfl other

/-- With equal keys the message of `mail` is lost. -/
theorem not_stored_alike : ¬ ∀ (ext : Ext) (slug : String) (w₁ w₂ w₁' w₂' : World)
    (ds₁ ds₂ : List Job), Processed ext w₁ ds₁ w₁' → Processed ext w₂ ds₂ w₂' → w₁.db = w₂.db →
    jobsOf slug ds₁ = jobsOf slug ds₂ → w₁'.notificationsOf slug = w₂'.notificationsOf slug := by
  intro alike
  have same := alike Sample.ext "mail" _ _ _ _ _ _ (Sample.processed_both "key" rfl rfl)
    Sample.processed_single rfl (Sample.jobsOf_both _)
  have stored : (Sample.handled 0 9 Sample.single).db.notifications.rows.map
      (fun r => (r.id, r.serviceId)) = [(3, 1)] := by rfl
  have lost : (Sample.handled 1 10 (Sample.handled 0 9 (Sample.both "key"))).db.notifications.rows.map
      (fun r => (r.id, r.serviceId)) = [(5, 4)] := by rfl
  obtain ⟨r, hr, ids⟩ := List.mem_map.1 (stored ▸ List.mem_singleton.2 rfl)
  have mine : (Sample.handled 0 9 Sample.single).OfService "mail" r := by
    rw [World.OfService, (Prod.mk.inj ids).2]
    exact ⟨Sample.service, rfl, rfl⟩
  have kept : r ∈ (Sample.handled 1 10 (Sample.handled 0 9
    (Sample.both "key"))).notificationsOf "mail" := same ▸ ⟨hr, mine⟩
  have listed := List.mem_map_of_mem (f := fun r => (r.id, r.serviceId)) kept.1
  rw [lost, ids] at listed
  exact absurd listed (by decide)

end Estafeta
