import Estafeta.CacheKeys

/-!
# Updating a type

`updateType` writes the type and then invalidates what the instance's cache holds of it. A processor
reads the type and then puts it into the cache. If no processor that read before the write puts what
it read into the cache after the invalidation (`Torn`), every message that the instance processes
after the update has returned uses the type as it was written then or later (`usesUpdate`).
-/

open Relational Atomic

namespace Estafeta

/-- A processor reads a type before thread `i` writes it, and puts it into the cache of the instance
after the thread has invalidated the cache's entry. -/
def Torn (inst i : ℕ) (key : String) (es : History) : Prop :=
  ∃ r u x s, [r, u, x, s].Sublist es ∧ r.tid = s.tid ∧ u.tid = i ∧ x.tid = i ∧
    (∃ serviceId typeKey, r.op = .sql (.schemas (.getNotificationType serviceId typeKey))) ∧
    typeWritten u.op u.ans ≠ none ∧
    x.op = .cacheInvalidate inst .notificationTypes key ∧
    ∃ v, s.op = .cacheInsert inst .notificationTypes key v

/-- A cached type is the row that the update of thread `i` has written, or one written later. -/
def WrittenSince (i : ℕ) (typeKey : String) (es : History) (v : CachedNotificationType) : Prop :=
  ∃ pre e post serviceId row, es = pre ++ e :: post ∧
    typeWritten e.op e.ans = some (serviceId, typeKey, row) ∧ v = cachedNotificationType row ∧
    ∃ u ∈ pre ++ [e], ∃ row', u.tid = i ∧ typeWritten u.op u.ans = some (serviceId, typeKey, row')

section

variable {ext : Ext} {w₀ : World} {es : History} {p : State}

/-- A type that is read after it was written is the row that was written then or later. -/
theorem writtenSince_of_read {pre mid post : History} {u r : Event Call Op Op.Ans World Choice}
    {serviceId : Uuid} {typeKey : String} {row nt : NotificationTypeRow}
    (run : (system ext).Run (Pool.idle w₀) es p) (split : es = pre ++ u :: (mid ++ r :: post))
    (written : typeWritten u.op u.ans = some (serviceId, typeKey, row))
    (found : r.before.db.notificationTypes.lookup (.typeKey serviceId typeKey) = some nt) :
    WrittenSince u.tid typeKey es (cachedNotificationType nt) := by
  have split' : es = (pre ++ u :: mid) ++ r :: post := by simp [split]
  rw [split'] at run
  obtain ⟨q, _, _, _, _, _, rfl, run', _⟩ := run.at
  have known : u ∈ pre ++ u :: mid := by simp
  rcases type_origin run' found with ⟨before, e, after, split'', written', since⟩ | never
  · have place := split'.trans (by rw [split'', List.append_assoc, List.cons_append])
    refine ⟨before, e, _, serviceId, nt, place, written', rfl, u, ?_, row, rfl, written⟩
    rcases split_cases split'' with ⟨m, rfl, _⟩ | ⟨_, rfl, _⟩ | ⟨m, _, rfl⟩
    · simp
    · simp
    · exact absurd written (since u (by simp) row)
  · exact absurd written (never u known row)

/-- A type that is put into the cache after an update has invalidated the cache's entry is the row
that the update has written, or one written later. -/
theorem writtenSince_of_insert {before mid mid' post : History}
    {u x s : Event Call Op Op.Ans World Choice} {inst : ℕ} {req : UpdateTypeRequest}
    {service : ServiceRow} {row : NotificationTypeRow} {m : IngestMessage}
    {v : CachedNotificationType} (run : (system ext).Run (Pool.idle w₀) es p)
    (split : es = (before ++ u :: (mid ++ x :: mid')) ++ s :: post)
    (named : u.before.db.services.lookup (.slug req.serviceSlug) = some service)
    (written : typeWritten u.op u.ans = some (service.id, req.typeKey, row)) (own : x.tid = u.tid)
    (invalidated : x.op = .cacheInvalidate inst .notificationTypes
      (notificationTypeKey req.serviceSlug req.typeKey))
    (put : s.done = ⟨.cacheInsert inst .notificationTypes
      (notificationTypeKey req.serviceSlug req.typeKey) v, ()⟩)
    (apart : TypesApart inst es) (received : Processes inst es m)
    (slug : m.serviceSlug = req.serviceSlug) (type : m.notificationType = req.typeKey)
    (untorn : ¬ Torn inst u.tid (notificationTypeKey req.serviceSlug req.typeKey) es) :
    WrittenSince u.tid req.typeKey es v := by
  obtain ⟨start, r, rest, m', service', nt, split', loaded⟩ := type_loaded run split put
  have same := loaded.key
  rw [← slug, ← type] at same
  obtain ⟨slug', type'⟩ := apart.eq_of_key received loaded.received same
  rcases split_cases split' with ⟨m, rfl, _⟩ | ⟨_, rfl, _⟩ | ⟨m, rfl, _⟩
  · -- the processor has read after the write
    have place : es = before ++ u :: (m ++ r :: (rest ++ s :: post)) := by
      rw [split, split']
      simp
    have run' := run
    rw [place, ← List.cons_append, ← List.append_assoc] at run'
    obtain ⟨q, _, _, _, _, _, rfl, run', _⟩ := run'.at
    obtain ⟨_, there, same'⟩ := service_since run' named
    rw [← slug, slug'] at there
    cases loaded.found.symm.trans there
    rw [← type, type'] at written ⊢
    rw [loaded.value]
    refine writtenSince_of_read run place written ?_
    rw [← same']
    exact loaded.typed
  · obtain ⟨_, _, read⟩ := loaded.reads
    cases (typeWritten_read _ read).symm.trans written
  · -- the processor has read before the write
    refine absurd ⟨r, u, x, s, ?_, loaded.own, rfl, own, loaded.reads, ?_, invalidated, v, ?_⟩ untorn
    · have first : [r].Sublist (start ++ r :: m) := List.singleton_sublist.2 (by simp)
      have second : [u, x].Sublist (u :: (mid ++ x :: mid')) :=
        (List.singleton_sublist.2 (by simp)).cons_cons u
      have third : [s].Sublist (s :: post) := List.singleton_sublist.2 (by simp)
      rw [split]
      exact (first.append second).append third
    · rw [written]
      exact Option.some_ne_none _
    · exact congrArg Sigma.fst put

/-- When `updateType` returns, it has written the type of its service, and then invalidated it. -/
theorem update_returned {inst i : ℕ} {extensions : Option AuthClaims} {req : UpdateTypeRequest}
    {a : Outcome} (run : (system ext).Run (Pool.idle w₀) es p)
    (returned : p.threads i = some (.rpc inst extensions (.updateType req), .ret a)) :
    ∃ before u mid x rest service row, es = before ++ u :: (mid ++ x :: rest) ∧
      u.tid = i ∧ x.tid = i ∧ u.before.db.services.lookup (.slug req.serviceSlug) = some service ∧
      typeWritten u.op u.ans = some (service.id, req.typeKey, row) ∧
      x.op = .cacheInvalidate inst .notificationTypes
        (notificationTypeKey req.serviceSlug req.typeKey) := by
  obtain ⟨h, service, row, done⟩ : Updated inst req (doneBy es i) :=
    (recorded run).2.2 i _ _ returned
  obtain ⟨pre, x, rest, rfl, own, invalidated, past, _⟩ :=
    doneBy_split (done.trans (List.append_assoc h [_, _] [_]).symm)
  obtain ⟨before, u, mid, service', rfl, own', written, _, found, same⟩ := two_reads run rfl past
  have written : typeWritten u.op u.ans = some (service'.id, req.typeKey, row) := by
    change typeWritten u.done.1 u.done.2 = _
    rw [written, same]
    rfl
  exact ⟨before, u, mid, x, rest, service', row, by simp, own', own, found, written,
    congrArg Sigma.fst invalidated⟩

theorem not_torn_of_serial {inst i : ℕ} {key : String} {inst' : ℕ}
    {extensions : Option AuthClaims} {r : Rpc} {k : Program Failure Outcome}
    (run : (system ext).Run (Pool.idle w₀) es p) (serial : Serial es)
    (thread : p.threads i = some (.rpc inst' extensions r, k)) : ¬ Torn inst i key es := by
  rintro ⟨r, u, x, s, order, same, rfl, _, _, _, _, v, put⟩
  have ordered := serial.sublist order
  simp only [List.pairwise_cons, List.mem_cons, forall_eq_or_imp] at ordered
  obtain ⟨⟨before, _⟩, ⟨_, after, _⟩, _⟩ := ordered
  have own : s.tid = u.tid := by omega
  have mem : s ∈ es := order.subset (by simp)
  obtain ⟨pre, post, split⟩ := List.append_of_mem mem
  obtain ⟨_, _, call, _⟩ := justified_of_stores run split (by rw [put]; rfl)
  obtain ⟨k', started⟩ := run.started s mem
  rw [own, thread, call] at started
  cases started

end

/-! ## Processing after an update -/

/-- Thread `i` has updated a type on the instance and returned, and thread `j`, which started later,
processes a message of the type there. -/
structure ProcessedAfter (ext : Ext) (w₀ : World) (inst i j : ℕ) (req : UpdateTypeRequest)
    (m : IngestMessage) (es₁ es₂ : History) (p₁ p : State) : Prop where
  first : (system ext).Run (Pool.idle w₀) es₁ p₁
  returned : ∃ extensions a, p₁.threads i = some (.rpc inst extensions (.updateType req), .ret a)
  fresh : p₁.threads j = none
  second : (system ext).Run p₁ es₂ p
  processing : ∃ seq k, p.threads j = some (.processor inst seq, k) ∧
    Received seq m (doneBy (es₁ ++ es₂) j)
  slug : m.serviceSlug = req.serviceSlug
  type : m.notificationType = req.typeKey

namespace Sample

/-- The type may resurface five times. -/
def update : UpdateTypeRequest where
  serviceSlug := "mail"
  typeKey := "letter"
  displayName := "Letter"
  description := ""
  jsonSchema := none
  defaultTtlSeconds := 0
  escalationIntervalSeconds := 0
  maxEscalations := 5
  escalationAction := 0
  enabled := true
  defaultIcon := ""

/-- The type is updated after the first message has been processed. -/
def updated : State × History :=
  played twice (.start 0 (.processor 0 0) :: (List.replicate 16 (.step 0 choice) ++
    .start 1 (.rpc 0 (some ann) (.updateType update)) :: List.replicate 4 (.step 1 choice)))

/-- The second message is processed. -/
def afterUpdate : State × History :=
  resumed updated.1 (.start 2 (.processor 0 1) :: List.replicate 5 (.step 2 choice))

/-- The type is updated while the first message is processed. -/
def raced : State × History :=
  played twice (.start 0 (.processor 0 0) :: (List.replicate 4 (.step 0 choice) ++
    .start 1 (.rpc 0 (some ann) (.updateType update)) :: List.replicate 4 (.step 1 choice)))

/-- The processor goes on, and then the second message is processed. -/
def afterRace : State × History :=
  resumed raced.1 [.step 0 choice, .start 2 (.processor 0 1), .step 2 choice, .step 2 choice]

/-- A type that is written may resurface five times. -/
def fiveTimes (e : Event Call Op Op.Ans World Choice) : Bool :=
  match typeWritten e.op e.ans with
  | some (_, _, row) => row.maxEscalations = 5
  | none => true

end Sample

/-- A processor that starts after an update has returned uses the type as the update has written it,
or as it has been written later, if the update is not torn and the cache keys are distinct. -/
theorem usesUpdate {ext : Ext} {w₀ : World} {inst i j : ℕ} {req : UpdateTypeRequest}
    {m : IngestMessage} {es₁ es₂ : History} {p₁ p : State}
    (after : ProcessedAfter ext w₀ inst i j req m es₁ es₂ p₁ p)
    (cold : ∀ inst c key, w₀.caches inst c key = none) (apart : TypesApart inst (es₁ ++ es₂))
    (untorn : ¬ Torn inst i (notificationTypeKey req.serviceSlug req.typeKey) (es₁ ++ es₂)) :
    ∀ v, Got inst .notificationTypes (notificationTypeKey req.serviceSlug req.typeKey) v
      (doneBy (es₁ ++ es₂) j) → WrittenSince i req.typeKey (es₁ ++ es₂) v := by
  intro v got
  have run := after.first.trans after.second
  obtain ⟨extensions, a, returned⟩ := after.returned
  obtain ⟨before, u, mid, x, rest, service, row, rfl, rfl, own, named, written, invalidated⟩ :=
    update_returned after.first returned
  obtain ⟨seq, k, thread, received⟩ := after.processing
  have received := processes_of_received run thread received
  rw [doneBy_append, (recorded after.first).2.1 j after.fresh, List.nil_append] at got
  rcases got with hit | put
  · obtain ⟨e, he, _, done⟩ := mem_doneBy.1 hit
    obtain ⟨pre, post, rfl⟩ := List.append_of_mem he
    have run' := run
    rw [← List.append_assoc] at run'
    obtain ⟨pre', s, mid', split, put, stays⟩ := hit_origin run' cold done
    have split' : (before ++ u :: mid) ++ x :: (rest ++ pre) = pre' ++ s :: mid' := by
      rw [← split]
      simp
    rcases split_cases split' with ⟨m, rfl, _⟩ | ⟨_, rfl, _⟩ | ⟨m, _, rfl⟩
    · have place : before ++ u :: (mid ++ x :: rest) ++ (pre ++ e :: post) =
          (before ++ u :: (mid ++ x :: m)) ++ s :: (mid' ++ e :: post) := by
        rw [← List.append_assoc, split]
        simp
      exact writtenSince_of_insert run place named written own invalidated put apart received
        after.slug after.type untorn
    · cases invalidated.symm.trans (congrArg Sigma.fst put)
    · exact absurd invalidated (stays x (by simp)).1
  · obtain ⟨s, hs, _, done⟩ := mem_doneBy.1 put
    obtain ⟨pre, post, rfl⟩ := List.append_of_mem hs
    have place : before ++ u :: (mid ++ x :: rest) ++ (pre ++ s :: post) =
        (before ++ u :: (mid ++ x :: (rest ++ pre))) ++ s :: post := by
      simp
    exact writtenSince_of_insert run place named written own invalidated done apart received
      after.slug after.type untorn

theorem usesUpdate_serial :
    WrittenSince 1 "letter" (Sample.updated.2 ++ Sample.afterUpdate.2)
      { Sample.cachedType with
        jsonSchema := .object [("type", .string "object")]
        escalationIntervalSeconds := none
        maxEscalations := 5 } := by
  have first : (system Sample.ext).Run (Pool.idle Sample.twice) Sample.updated.2 Sample.updated.1 :=
    Sample.run_played rfl
  have second : (system Sample.ext).Run Sample.updated.1 Sample.afterUpdate.2 Sample.afterUpdate.1 :=
    Sample.run_resumed rfl
  have after : ProcessedAfter Sample.ext Sample.twice 0 1 2 Sample.update { Sample.message with
      notificationId := 5, idempotencyKey := none } Sample.updated.2 Sample.afterUpdate.2
      Sample.updated.1 Sample.afterUpdate.1 :=
    ⟨first, ⟨_, _, rfl⟩, rfl, second, ⟨1, _, rfl, rfl⟩, rfl, rfl⟩
  refine usesUpdate after (fun _ _ _ => rfl) ?_ ?_ _
    (.inr (.tail _ (.tail _ (.tail _ (.tail _ (.head _))))))
  · have checked : ((Sample.updated.2 ++ Sample.afterUpdate.2).all fun e => Sample.plain e.done) =
        true := rfl
    exact (Sample.apart_of_plain checked).types
  · have tids : (Sample.updated.2 ++ Sample.afterUpdate.2).map (·.tid) =
        List.replicate 16 0 ++ List.replicate 4 1 ++ List.replicate 5 2 := rfl
    have serial : Serial (Sample.updated.2 ++ Sample.afterUpdate.2) := by
      apply List.pairwise_map.1
      rw [tids]
      decide
    have thread : Sample.afterUpdate.1.threads 1 =
        some (.rpc 0 (some Sample.ann) (.updateType Sample.update), .ret _) := rfl
    exact not_torn_of_serial (first.trans second) serial thread

/-- A processor that has read the type before the update puts it into the cache after it. -/
theorem not_usesUpdate : ¬ ∀ (ext : Ext) (w₀ : World) (inst i j : ℕ) (req : UpdateTypeRequest)
    (m : IngestMessage) (es₁ es₂ : History) (p₁ p : State),
    ProcessedAfter ext w₀ inst i j req m es₁ es₂ p₁ p →
      (∀ inst c key, w₀.caches inst c key = none) →
      ∀ v, Got inst .notificationTypes (notificationTypeKey req.serviceSlug req.typeKey) v
        (doneBy (es₁ ++ es₂) j) → WrittenSince i req.typeKey (es₁ ++ es₂) v := by
  intro uses
  have first : (system Sample.ext).Run (Pool.idle Sample.twice) Sample.raced.2 Sample.raced.1 :=
    Sample.run_played rfl
  have second : (system Sample.ext).Run Sample.raced.1 Sample.afterRace.2 Sample.afterRace.1 :=
    Sample.run_resumed rfl
  have checked : ((Sample.raced.2 ++ Sample.afterRace.2).all Sample.fiveTimes) = true := rfl
  obtain ⟨pre, e, post, serviceId, row, split, written, same, _⟩ :=
    uses Sample.ext Sample.twice 0 1 2 Sample.update { Sample.message with
      notificationId := 5, idempotencyKey := none } _ _ _ _
      ⟨first, ⟨_, _, rfl⟩, rfl, second, ⟨1, _, rfl, rfl⟩, rfl, rfl⟩ (fun _ _ _ => rfl)
      (cachedNotificationType Sample.notificationType) (.inl (.tail _ (.head _)))
  have five := List.all_eq_true.1 checked e (by simp [split])
  rw [Sample.fiveTimes, written] at five
  have once : (1 : Int32) = row.maxEscalations := congrArg (·.maxEscalations) same
  exact absurd (once.trans (of_decide_eq_true five)) (by decide)

end Estafeta
