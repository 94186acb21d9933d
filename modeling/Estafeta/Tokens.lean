import Estafeta.TypeRegistry
import Estafeta.Walks

/-!
# The tokens of three listings

`ListNotifications` and `ListTypes` hand out a token after a full page, `ListServices` where the sum
of offset and page size is below the count. A page of no rows is full, so that its token is the one
the client came with; and the sum of `ListServices` is computed at any offset.
-/

open Relational Atomic

namespace Estafeta

/-- The token in a response, the empty one if there is none. -/
def nextToken (p : Option PaginatedResponse) : String := (p.map (·.nextPageToken)).getD ""

/-- A page brings a client forward: the sum of its offset and size, where it is `computed`, does not
wrap around, and the token after it is that of a later page. -/
structure Advances (request : Option Pagination) (computed : Prop) (token : String) : Prop where
  exact : computed → (pageOffset request + pageSize request).toInt =
    (pageOffset request).toInt + (pageSize request).toInt
  forward : token = "" ∨ ∃ n, parseI64 token = some n ∧ pageOffset request < n

section

variable {ext : Ext} {claims : AuthClaims} {w : World} {x : ℕ → Choice} {offset size : Int64}

theorem pageSize_le (request : Option Pagination) : (pageSize request).toInt ≤ 100 := by
  have le : pageSize request ≤ 100 := by
    show (if _ ≤ (100 : Int64) then _ else (100 : Int64)) ≤ 100
    split
    · assumption
    · exact Int64.le_refl 100
  exact Int64.le_iff_toInt_le.1 le

theorem toInt_add_of_lt (offsetNonneg : 0 ≤ offset) (sizeNonneg : 0 ≤ size) :
    (offset + size).toInt = offset.toInt + size.toInt ↔ offset.toInt + size.toInt < 2 ^ 63 := by
  rw [Int64.le_iff_toInt_le] at offsetNonneg sizeNonneg
  have nonneg : 0 ≤ offset.toInt + size.toInt := Int.add_nonneg offsetNonneg sizeNonneg
  rw [Int64.toInt_add]
  constructor
  · intro exact
    rw [← exact]
    exact Int.bmod_lt (by decide)
  · intro small
    refine Int.bmod_eq_of_le ?_ ?_ <;> omega

/-- The sum reads back from its token as a later offset, unless the size is 0. -/
theorem forward_sum (offsetNonneg : 0 ≤ offset) (sizeNonneg : 0 ≤ size)
    (small : offset.toInt + size.toInt < 2 ^ 63) :
    (toString (offset + size) = "" ∨
      ∃ n, parseI64 (toString (offset + size)) = some n ∧ offset < n) ↔ size ≠ 0 := by
  have exact := (toInt_add_of_lt offsetNonneg sizeNonneg).2 small
  have parses : parseI64 (toString (offset + size)) = some (offset + size) := by
    rw [Int64.le_iff_toInt_le] at offsetNonneg sizeNonneg
    have nonneg : 0 ≤ (offset + size).toInt := exact ▸ Int.add_nonneg offsetNonneg sizeNonneg
    have value : Int64.ofNat (offset + size).toNatClampNeg = offset + size :=
      Int64.ofNat_toNatClampNeg _ (Int64.le_iff_toInt_le.2 nonneg)
    rw [← value]
    refine parseI64_toString ?_
    unfold Int64.toNatClampNeg
    omega
  rw [or_iff_right (toString_ne_empty _), parses]
  constructor
  · rintro ⟨n, same, later⟩ none
    cases same
    rw [Int64.lt_iff_toInt_lt, exact, none, Int64.toInt_zero, Int.add_zero] at later
    exact lt_irrefl _ later
  · intro some
    refine ⟨_, rfl, ?_⟩
    have apart : size.toInt ≠ 0 := fun h => some (Int64.toInt_inj.1 (h.trans Int64.toInt_zero.symm))
    rw [Int64.le_iff_toInt_le, Int64.toInt_zero] at sizeNonneg
    rw [Int64.lt_iff_toInt_lt, exact]
    omega

/-- A page is full when it has as many rows as were asked for. -/
theorem full_iff {ρ : Type} (all : List ρ) (request : Option Pagination)
    (sizeNonneg : 0 ≤ pageSize request) (offsetNonneg : 0 ≤ pageOffset request) :
    Int64.ofNat ((all.drop (pageOffset request).toNatClampNeg).take
        (pageSize request).toNatClampNeg).length = pageSize request ↔
      pageSize request = 0 ∨
        (pageOffset request).toInt + (pageSize request).toInt ≤ all.length := by
  have limit := pageSize_le request
  have zero : pageSize request = 0 ↔ (pageSize request).toInt = 0 := by
    rw [← Int64.toInt_inj, Int64.toInt_zero]
  rw [Int64.le_iff_toInt_le, Int64.toInt_zero] at sizeNonneg offsetNonneg
  rw [zero, ← Int64.toInt_inj, List.length_take, List.length_drop]
  unfold Int64.toNatClampNeg
  rw [Int64.toInt_ofNat_of_lt (by omega)]
  omega

/-- A page of a listing brings a client forward just when it asks for rows, unless the listing is
too long for the offset after it. -/
theorem advances_of_rows {ρ : Type} (all : List ρ) (request : Option Pagination)
    (sizeNonneg : 0 ≤ pageSize request) (offsetNonneg : 0 ≤ pageOffset request) {rows : List ρ}
    (listed : rows =
      (all.drop (pageOffset request).toNatClampNeg).take (pageSize request).toNatClampNeg) :
    Advances request (Int64.ofNat rows.length = pageSize request)
        (nextPageToken rows.length (pageSize request) (pageOffset request)) ↔
      pageSize request ≠ 0 ∧
        ((pageOffset request).toInt + (pageSize request).toInt ≤ all.length →
          (pageOffset request).toInt + (pageSize request).toInt < 2 ^ 63) := by
  have fullness := full_iff all request sizeNonneg offsetNonneg
  rw [← listed] at fullness
  unfold nextPageToken
  by_cases full : Int64.ofNat rows.length = pageSize request
  · rw [if_pos full]
    constructor
    · rintro ⟨exact, forward⟩
      have small := (toInt_add_of_lt offsetNonneg sizeNonneg).1 (exact full)
      exact ⟨(forward_sum offsetNonneg sizeNonneg small).1 forward, fun _ => small⟩
    · rintro ⟨some, fits⟩
      have small := fits ((fullness.1 full).resolve_left some)
      exact ⟨fun _ => (toInt_add_of_lt offsetNonneg sizeNonneg).2 small,
        (forward_sum offsetNonneg sizeNonneg small).2 some⟩
  · rw [if_neg full]
    refine iff_of_true ⟨fun computed => absurd computed full, .inl rfl⟩ ⟨fun none => ?_, fun le => ?_⟩
    · exact full (fullness.2 (.inl none))
    · exact absurd (fullness.2 (.inr le)) full

/-! ## Listing the services -/

/-- The services on the page that a request asks for. -/
def ListServicesRequest.rows (req : ListServicesRequest) (rank : Uuid → ℕ) (db : Db) :
    List ServiceRow :=
  ((sortOn (fun r : ServiceRow => -r.createdAt) (fun r => rank r.id) db.services.rows).drop
    (pageOffset req.pagination).toNatClampNeg).take (pageSize req.pagination).toNatClampNeg

/-- The response with the services of a page. -/
def ListServicesRequest.answer (req : ListServicesRequest) (ext : Ext) (total : Int64)
    (rows : List ServiceRow) : ListServicesResponse where
  services := rows.map (AdminService.serviceToProto ext)
  pagination := some
    { nextPageToken :=
        if pageOffset req.pagination + pageSize req.pagination < total then
          toString (pageOffset req.pagination + pageSize req.pagination)
        else ""
      totalCount := total }

theorem listServices_answers {ok : Choice → Prop} {E : World → Status → Prop}
    {Q : World → ListServicesResponse → Prop} (req : ListServicesRequest) (refused : ∀ s, E w s)
    (listed : ∀ x, ok x → 0 ≤ pageSize req.pagination → 0 ≤ pageOffset req.pagination →
      Q w (req.answer ext (Db.Services.countServices w.db) (req.rows x.rank w.db))) :
    (AdminService.listServices ext (some claims) req).Ensures (exec ext) ok E Q w := by
  unfold AdminService.listServices
  rw [Prog.ensures_bind]
  refine ensures_fromExtensions _ (fun h => nomatch h) fun c hc => ?_
  cases hc
  rw [Prog.ensures_bind]
  refine ensures_requireAdmin _ refused ?_
  rw [Prog.ensures_bind]
  refine ensures_page (q := .services (.listServices (pageSize req.pagination)
    (pageOffset req.pagination))) rfl (fun x => sortOn (fun r : ServiceRow => -r.createdAt)
      (fun r => x.rank r.id) w.db.services.rows) id (fun _ => rfl) (fun _ _ _ => refused)
    (fun _ => refused) fun x sound sizeNonneg offsetNonneg => ?_
  rw [Prog.ensures_bind]
  exact ensures_read (q := .services .countServices) rfl (fun _ _ _ => refused)
    (fun _ => Db.Services.countServices w.db) (fun _ => rfl)
    fun _ _ => listed x sound sizeNonneg offsetNonneg

/-- The sum of `ListServices` is below the count just when the token of the sum is handed out. -/
theorem advances_of_count (request : Option Pagination) (sizeNonneg : 0 ≤ pageSize request)
    (offsetNonneg : 0 ≤ pageOffset request) (total : Int64) :
    Advances request True (if pageOffset request + pageSize request < total then
        toString (pageOffset request + pageSize request) else "") ↔
      (pageOffset request).toInt + (pageSize request).toInt < 2 ^ 63 ∧
        (pageSize request ≠ 0 ∨ total ≤ pageOffset request) := by
  constructor
  · rintro ⟨exact, forward⟩
    have small := (toInt_add_of_lt offsetNonneg sizeNonneg).1 (exact trivial)
    refine ⟨small, or_iff_not_imp_left.2 fun none => ?_⟩
    rw [not_not] at none
    by_contra more
    rw [if_pos (by rw [none, Int64.add_zero]; exact Int64.not_le.1 more)] at forward
    exact (forward_sum offsetNonneg sizeNonneg small).1 forward none
  · rintro ⟨small, holds⟩
    refine ⟨fun _ => (toInt_add_of_lt offsetNonneg sizeNonneg).2 small, ?_⟩
    by_cases more : pageOffset request + pageSize request < total
    · rw [if_pos more]
      refine (forward_sum offsetNonneg sizeNonneg small).2 fun none => ?_
      have ended := holds.resolve_left (not_not.2 none)
      rw [none, Int64.add_zero] at more
      exact Int64.not_le.2 more ended
    · exact .inl (if_neg more)

/-! ## Which tokens advance -/

/-- The offset after a page that a listing of `count` rows fills is an `i64`. -/
def Fits (request : Option Pagination) (count : ℕ) : Prop :=
  (pageOffset request).toInt + (pageSize request).toInt ≤ count →
    (pageOffset request).toInt + (pageSize request).toInt < 2 ^ 63

theorem of_answered {α : Type} {p : Program Status α} {Q : World → α → Prop} {a : α}
    (ensured : p.Ensures (exec ext) (fun _ => True) (fun _ _ => True) Q w)
    (answered : (p.run (exec ext) x w).1 = .ok a) : ∃ w', Q w' a :=
  ⟨_, ensured.of_ok (fun _ => trivial) answered⟩

/-- The pages of notifications and of types that come with a token of a later page are those that
ask for rows; the pages of services are those whose sum does not wrap around and that ask for rows
or lie at the end. -/
theorem tokens_advance (ext : Ext) (claims : AuthClaims) (w : World) (x : ℕ → Choice) :
    (∀ req resp,
      ((NotificationService.listNotifications ext (some claims) req).run (exec ext) x w).1 =
        .ok resp →
      (Advances req.pagination
          (Int64.ofNat resp.notifications.length = pageSize req.pagination)
          (nextToken resp.pagination) ↔
        pageSize req.pagination ≠ 0 ∧ Fits req.pagination
          (w.db.notifications.select (req.covers claims.subject w.db)).length)) ∧
    (∀ req resp service, w.db.services.lookup (.slug req.serviceSlug) = some service →
      ((SchemaRegistryService.listTypes ext req).run (exec ext) x w).1 = .ok resp →
      (Advances req.pagination (Int64.ofNat resp.types.length = pageSize req.pagination)
          (nextToken resp.pagination) ↔
        pageSize req.pagination ≠ 0 ∧ Fits req.pagination
          (w.db.notificationTypes.select fun r => r.serviceId = service.id).length)) ∧
    (∀ req resp,
      ((AdminService.listServices ext (some claims) req).run (exec ext) x w).1 = .ok resp →
      (Advances req.pagination True (nextToken resp.pagination) ↔
        (pageOffset req.pagination).toInt + (pageSize req.pagination).toInt < 2 ^ 63 ∧
          (pageSize req.pagination ≠ 0 ∨
            Db.Services.countServices w.db ≤ pageOffset req.pagination))) := by
  refine ⟨fun req resp answered => ?_, fun req resp service found answered => ?_,
    fun req resp answered => ?_⟩
  · obtain ⟨-, rank, sizeNonneg, offsetNonneg, rfl⟩ := of_answered (Q := fun _ resp => ∃ rank,
        0 ≤ pageSize req.pagination ∧ 0 ≤ pageOffset req.pagination ∧
          resp = req.answer ext (req.rows claims.subject rank w.db))
      (listNotifications_answers req (fun _ _ _ _ => trivial) (fun _ _ => trivial)
        fun x _ sizeNonneg offsetNonneg => ⟨x.rank, sizeNonneg, offsetNonneg, rfl⟩) answered
    have advances := advances_of_rows (req.listing claims.subject rank w.db) req.pagination
      sizeNonneg offsetNonneg rfl
    unfold ListNotificationsRequest.listing at advances
    rw [(sortOn_perm _ _ _).length_eq] at advances
    show Advances _ (Int64.ofNat (List.map _ _).length = _) _ ↔ _
    rw [List.length_map]
    exact advances
  · obtain ⟨-, rank, sizeNonneg, offsetNonneg, rfl⟩ := of_answered (Q := fun _ resp => ∃ rank,
        0 ≤ pageSize req.pagination ∧ 0 ≤ pageOffset req.pagination ∧
          resp = req.answer ext (((w.db.typeRows ext service rank).drop
            (pageOffset req.pagination).toNatClampNeg).take
              (pageSize req.pagination).toNatClampNeg))
      (listTypes_answers req (fun _ _ _ _ => trivial) (fun _ _ => trivial) (fun _ _ => trivial)
        fun x service' _ found' sizeNonneg offsetNonneg => by
          cases found.symm.trans found'
          exact ⟨x.rank, sizeNonneg, offsetNonneg, rfl⟩) answered
    have advances := advances_of_rows (w.db.typeRows ext service rank) req.pagination sizeNonneg
      offsetNonneg rfl
    rw [Db.typeRows, (sortOn_perm _ _ _).length_eq] at advances
    show Advances _ (Int64.ofNat (List.map _ _).length = _) _ ↔ _
    rw [List.length_map]
    exact advances
  · obtain ⟨-, rank, sizeNonneg, offsetNonneg, rfl⟩ := of_answered (Q := fun _ resp => ∃ rank,
        0 ≤ pageSize req.pagination ∧ 0 ≤ pageOffset req.pagination ∧
          resp = req.answer ext (Db.Services.countServices w.db) (req.rows rank w.db))
      (listServices_answers req (fun _ => trivial)
        fun x _ sizeNonneg offsetNonneg => ⟨x.rank, sizeNonneg, offsetNonneg, rfl⟩) answered
    exact advances_of_count req.pagination sizeNonneg offsetNonneg _

end

namespace Sample

/-- A request for no notifications, from the second one on. -/
def noneOnes : ListNotificationsRequest := ⟨[], [], [], "", some ⟨0, "1"⟩⟩

/-- The last offset there is. -/
def lastOffset : ListServicesRequest := ⟨some ⟨50, "9223372036854775807"⟩⟩

end Sample

open Sample in
/-- A page of one type comes with a token of a later page, and a page of none does not. -/
theorem tokens_advance_pair :
    (∃ resp, ((SchemaRegistryService.listTypes ext ⟨"mail", some ⟨1, ""⟩⟩).run (exec ext)
        (fun _ => choice) (pair 5)).1 = .ok resp ∧
      Advances (some ⟨1, ""⟩) (Int64.ofNat resp.types.length = 1) (nextToken resp.pagination)) ∧
    ∃ resp, ((NotificationService.listNotifications ext (some ann) noneOnes).run (exec ext)
        (fun _ => choice) (pair 5)).1 = .ok resp ∧
      ¬ Advances noneOnes.pagination (Int64.ofNat resp.notifications.length = 0)
        (nextToken resp.pagination) := by
  obtain ⟨notifications, types, -⟩ := tokens_advance ext ann (pair 5) fun _ => choice
  refine ⟨⟨_, rfl, (types ⟨"mail", some ⟨1, ""⟩⟩ _ service rfl rfl).2 ⟨by decide, fun _ => ?_⟩⟩,
    ⟨_, rfl, fun advances => ?_⟩⟩
  · decide
  · exact ((notifications noneOnes _ rfl).1 advances).1 rfl

open Sample in
/-- A client that asks for no rows gets the token it came with, and at the last offset the sum of
`ListServices` wraps around. -/
theorem not_tokens_advance :
    (∃ resp, ((NotificationService.listNotifications ext (some ann) noneOnes).run (exec ext)
        (fun _ => choice) (pair 5)).1 = .ok resp ∧
      ¬ (nextToken resp.pagination = "" ∨ ∃ n, parseI64 (nextToken resp.pagination) = some n ∧
        pageOffset noneOnes.pagination < n)) ∧
    ∃ resp, ((AdminService.listServices ext (some ann) lastOffset).run (exec ext)
        (fun _ => choice) (pair 5)).1 = .ok resp ∧
      (pageOffset lastOffset.pagination + pageSize lastOffset.pagination).toInt ≠
        (pageOffset lastOffset.pagination).toInt + (pageSize lastOffset.pagination).toInt ∧
      nextToken resp.pagination = "-9223372036854775759" := by
  refine ⟨⟨_, rfl, fun forward => ?_⟩, ⟨_, rfl, by decide, by decide⟩⟩
  have forward : "1" = "" ∨ ∃ n, parseI64 "1" = some n ∧ (1 : Int64) < n := forward
  have parses : parseI64 "1" = some 1 := parseI64_toString (n := 1) (by decide)
  rw [parses] at forward
  exact absurd forward (by simp)

end Estafeta
