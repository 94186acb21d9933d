import Estafeta.Requests

/-!
# Walks through a listing

A client lists its notifications page by page, each page at the token of the one before. A page is a
window of the listing at the time (`fetch_page`): a walk over a store that does not change hands out
as many notifications as the badge counts, and a walk over one that does may step over a
notification, but only when enough of those before it leave the list.
-/

open Relational Atomic

namespace Estafeta

/-! ## Tokens and sizes -/

theorem parseDigits_toDigits (n : ℕ) : parseDigits (Nat.toDigits 10 n) = some n := by
  unfold parseDigits
  split
  · rename_i h
    exact absurd h Nat.toDigits_ne_nil
  · rw [if_pos]
    · exact congrArg some Nat.ofDigitChars_ten_toDigits
    · rw [List.all_eq_true]
      intro c hc
      exact Nat.isDigit_of_mem_toDigits (by decide) (by decide) hc

theorem head_toDigits {n : ℕ} {c : Char} {cs : List Char} (shown : Nat.toDigits 10 n = c :: cs) :
    c.isDigit = true :=
  Nat.isDigit_of_mem_toDigits (by decide) (by decide) (shown ▸ List.mem_cons_self)

theorem bind_digits {α : Type} {s : String} {n : ℕ} (shown : s.toList = Nat.toDigits 10 n)
    (next : ℤ → Option α) :
    (do
      let n : ℤ ← match s.toList with
        | '-' :: cs => (parseDigits cs).map fun n => -n
        | '+' :: cs => (parseDigits cs).map fun n => n
        | cs => (parseDigits cs).map fun n => n
      next n) = next n := by
  rw [shown]
  split
  · rename_i h
    exact absurd (head_toDigits h) (by decide)
  · rename_i h
    exact absurd (head_toDigits h) (by decide)
  · rw [parseDigits_toDigits]
    rfl

/-- An offset reads back from its token. -/
theorem parseI64_toString {n : ℕ} (small : n < 2 ^ 63) :
    parseI64 (toString (Int64.ofNat n)) = some (Int64.ofNat n) := by
  have shown : (toString (Int64.ofNat n)).toList = Nat.toDigits 10 n := by
    show (toString (Int64.ofNat n).toInt).toList = _
    rw [Int64.toInt_ofNat_of_lt small]
    exact Nat.toList_repr
  have inRange : (if -2 ^ 63 ≤ (n : ℤ) ∧ (n : ℤ) < 2 ^ 63 then some (Int64.ofInt n) else none) =
      some (Int64.ofNat n) := by
    rw [if_pos (by omega), Int64.ofInt_eq_ofNat]
  exact (bind_digits shown _).trans inRange

theorem toString_ne_empty (n : Int64) : toString n ≠ "" := by
  show n.toInt.repr ≠ ""
  rw [Int.repr_eq_if]
  split
  · intro h
    have pos : 0 < n.toInt.toNat.repr.length := Nat.length_repr_pos
    rw [h] at pos
    exact absurd pos (by decide)
  · intro h
    have shown := congrArg String.toList h
    rw [String.toList_append] at shown
    cases shown

/-- The rows of a page of a size. -/
def pageLimit (size : Int32) : ℕ := min size.toNatClampNeg 100

theorem pageLimit_pos {size : Int32} (positive : 1 ≤ size) : 0 < pageLimit size := by
  have : (1 : ℤ) ≤ size.toInt := Int32.le_iff_toInt_le.1 positive
  unfold pageLimit Int32.toNatClampNeg
  omega

theorem pageSize_eq {size : Int32} (positive : 1 ≤ size) (token : String) :
    pageSize (some ⟨size, token⟩) = Int64.ofNat (pageLimit size) := by
  have nonneg : (1 : ℤ) ≤ size.toInt := Int32.le_iff_toInt_le.1 positive
  have whole : size.toInt64.toNatClampNeg = size.toNatClampNeg := Int32.toNatClampNeg_toInt64 size
  have widened : (0 : Int64) ≤ size.toInt64 := by
    rw [Int64.le_iff_toInt_le, Int32.toInt_toInt64]
    exact le_trans (by decide) nonneg
  show (if size.toInt64 ≤ 100 then size.toInt64 else 100) = _
  have clamp : size.toInt64 ≤ 100 ↔ size.toInt ≤ 100 := by
    rw [Int64.le_iff_toInt_le, Int32.toInt_toInt64]
    exact Iff.rfl
  by_cases small : size.toInt ≤ 100
  · rw [if_pos (clamp.2 small), ← Int64.ofNat_toNatClampNeg _ widened, whole, pageLimit,
      min_eq_left]
    unfold Int32.toNatClampNeg
    omega
  · rw [if_neg fun h => small (clamp.1 h), pageLimit, min_eq_right]
    · rfl
    · unfold Int32.toNatClampNeg
      omega

/-! ## Pages -/

/-- The ids of the services with the given slugs. -/
def Db.serviceIds (db : Db) (slugs : List String) : List Uuid :=
  slugs.filterMap fun slug => (db.services.lookup (.slug slug)).map (·.id)

/-- Whether a listing for `subject` covers a notification. -/
def ListNotificationsRequest.covers (req : ListNotificationsRequest) (subject : String) (db : Db)
    (r : NotificationRow) : Bool :=
  r.recipientUserId = subject && anyOf (NotificationService.stateFilter req.states) r.state &&
    anyOf (db.serviceIds req.serviceSlugs) r.serviceId &&
      (nonEmpty req.groupKey).all fun g => r.groupKey = some g

/-- The notifications a listing covers, the latest first. -/
def ListNotificationsRequest.listing (req : ListNotificationsRequest) (subject : String)
    (rank : Uuid → ℕ) (db : Db) : List NotificationRow :=
  sortOn (fun r => -r.createdAt) (fun r => rank r.id)
    (db.notifications.select (req.covers subject db))

/-- The request for the page at a token. -/
def ListNotificationsRequest.page (req : ListNotificationsRequest) (size : Int32)
    (token : String) : ListNotificationsRequest :=
  { req with pagination := some ⟨size, token⟩ }

section

variable {ext : Ext} {ok : Choice → Prop} {w : World} {claims : AuthClaims}

theorem serviceIds_ensures {E : World → Status → Prop} {Q : World → List Uuid → Prop}
    (slugs : List String) (lost : ∀ x, ok x → x.failure.isSome = true → ∀ s, E w s)
    (resolved : Q w (w.db.serviceIds slugs)) :
    (NotificationService.serviceIds ext slugs).Ensures (exec ext) ok E Q w := by
  unfold NotificationService.serviceIds
  -- the ids found so far, and those of the slugs still to come
  refine (?_ : ∀ ids, Q w (ids ++ w.db.serviceIds slugs) →
    Prog.Ensures (exec ext) ok E Q (slugs.foldlM _ ids) w) [] resolved
  clear resolved
  induction slugs with
  | nil =>
    intro ids resolved
    rw [Db.serviceIds, List.filterMap_nil, List.append_nil] at resolved
    exact resolved
  | cons slug slugs ih =>
    intro ids resolved
    rw [List.foldlM_cons, Prog.ensures_bind, Prog.ensures_bind]
    refine ensures_getServiceBySlug slug lost ?_
    cases found : w.db.services.lookup (.slug slug) with
    | none =>
      refine ih ids ?_
      rwa [Db.serviceIds, List.filterMap_cons_none (by rw [found]; rfl)] at resolved
    | some svc =>
      refine ih (ids ++ [svc.id]) ?_
      rw [Db.serviceIds, List.filterMap_cons_some (b := svc.id) (by rw [found]; rfl)] at resolved
      rwa [List.append_assoc]

/-- The rows of a listing on the page after the first `o`. -/
def ListNotificationsRequest.window (req : ListNotificationsRequest) (subject : String)
    (rank : Uuid → ℕ) (size : Int32) (o : ℕ) (db : Db) : List NotificationRow :=
  ((req.listing subject rank db).drop o).take (pageLimit size)

theorem length_window (req : ListNotificationsRequest) (subject : String) (rank : Uuid → ℕ)
    (size : Int32) (o : ℕ) (db : Db) : (req.window subject rank size o db).length =
      min (pageLimit size) ((db.notifications.select (req.covers subject db)).length - o) := by
  unfold ListNotificationsRequest.window ListNotificationsRequest.listing
  rw [List.length_take, List.length_drop, (sortOn_perm _ _ _).length_eq]

/-- The response with the rows after the first `o`. -/
def pageOf (ext : Ext) (size : Int32) (o : ℕ) (rows : List NotificationRow) :
    ListNotificationsResponse where
  notifications := rows.map (NotificationService.rowToProto ext)
  pagination := some
    { nextPageToken :=
        if rows.length = pageLimit size then toString (Int64.ofNat (o + pageLimit size)) else ""
      totalCount := 0 }

theorem nextPageToken_eq {size : Int32} (positive : 1 ≤ size) (token : String) (o rows : ℕ)
    (le : rows ≤ pageLimit size) :
    nextPageToken rows (pageSize (some ⟨size, token⟩)) (Int64.ofNat o) =
      if rows = pageLimit size then toString (Int64.ofNat (o + pageLimit size)) else "" := by
  unfold nextPageToken
  rw [pageSize_eq positive, Int64.ofNat_add]
  refine if_congr ⟨fun same => ?_, fun same => same ▸ rfl⟩ rfl rfl
  have limit : pageLimit size ≤ 100 := min_le_right _ _
  have same := congrArg Int64.toInt same
  rw [Int64.toInt_ofNat_of_lt (by omega), Int64.toInt_ofNat_of_lt (by omega)] at same
  omega

/-- The notifications on the page that a request asks for. -/
def ListNotificationsRequest.rows (req : ListNotificationsRequest) (subject : String)
    (rank : Uuid → ℕ) (db : Db) : List NotificationRow :=
  ((req.listing subject rank db).drop (pageOffset req.pagination).toNatClampNeg).take
    (pageSize req.pagination).toNatClampNeg

/-- The response with the notifications of a page. -/
def ListNotificationsRequest.answer (req : ListNotificationsRequest) (ext : Ext)
    (rows : List NotificationRow) : ListNotificationsResponse where
  notifications := rows.map (NotificationService.rowToProto ext)
  pagination := some
    { nextPageToken :=
        nextPageToken rows.length (pageSize req.pagination) (pageOffset req.pagination)
      totalCount := 0 }

/-- Whatever the size and the offset, what is listed is a page of the listing. -/
theorem listNotifications_answers {E : World → Status → Prop}
    {Q : World → ListNotificationsResponse → Prop} (req : ListNotificationsRequest)
    (lost : ∀ x, ok x → x.failure.isSome = true → ∀ s, E w s)
    (rejected : pageSize req.pagination < 0 ∨ pageOffset req.pagination < 0 → ∀ s, E w s)
    (listed : ∀ x, ok x → 0 ≤ pageSize req.pagination → 0 ≤ pageOffset req.pagination →
      Q w (req.answer ext (req.rows claims.subject x.rank w.db))) :
    (NotificationService.listNotifications ext (some claims) req).Ensures (exec ext) ok E Q w := by
  unfold NotificationService.listNotifications
  rw [Prog.ensures_bind]
  refine ensures_fromExtensions _ (fun h => nomatch h) fun c hc => ?_
  cases hc
  rw [Prog.ensures_bind]
  refine serviceIds_ensures _ lost ?_
  rw [Prog.ensures_bind]
  let query : Db.Notifications.Query :=
    .listNotifications claims.subject (NotificationService.stateFilter req.states)
      (w.db.serviceIds req.serviceSlugs) [] (nonEmpty req.groupKey) (pageSize req.pagination)
      (pageOffset req.pagination)
  refine ensures_page (q := .notifications query) rfl
    (fun x => req.listing claims.subject x.rank w.db) id (fun x => ?_) lost rejected listed
  have rows : (w.db.notifications.select fun r =>
      r.recipientUserId = claims.subject &&
        anyOf (NotificationService.stateFilter req.states) r.state &&
        anyOf (w.db.serviceIds req.serviceSlugs) r.serviceId && anyOf [] r.notificationTypeId &&
          (nonEmpty req.groupKey).all fun g => r.groupKey = some g) =
      w.db.notifications.select (req.covers claims.subject w.db) := by
    refine List.filter_congr fun r _ => ?_
    unfold ListNotificationsRequest.covers
    rw [show anyOf [] r.notificationTypeId = true from rfl, Bool.and_true]
  show Except.map _ (page _ _ (sortOn _ _ _)) = _
  rw [rows]
  rfl

theorem listNotifications_ensures {E : World → Status → Prop}
    {Q : World → ListNotificationsResponse → Prop} (req : ListNotificationsRequest) {size : Int32}
    (positive : 1 ≤ size) {token : String} {o : ℕ}
    (offset : (parseI64 token).getD 0 = Int64.ofNat o) (small : o < 2 ^ 63)
    (lost : ∀ x, ok x → x.failure.isSome = true → ∀ s, E w s)
    (listed : ∀ x, ok x →
      Q w (pageOf ext size o (req.window claims.subject x.rank size o w.db))) :
    (NotificationService.listNotifications ext (some claims) (req.page size token)).Ensures
      (exec ext) ok E Q w := by
  have start : pageOffset (some ⟨size, token⟩) = Int64.ofNat o := offset
  have limit : pageLimit size ≤ 100 := min_le_right _ _
  have nonneg : ¬ (pageSize (some ⟨size, token⟩) < 0 ∨ pageOffset (some ⟨size, token⟩) < 0) := by
    rw [pageSize_eq positive, start, Int64.lt_iff_toInt_lt, Int64.lt_iff_toInt_lt,
      Int64.toInt_ofNat_of_lt (by omega), Int64.toInt_ofNat_of_lt small, Int64.toInt_zero]
    omega
  refine listNotifications_answers _ lost (fun negative => absurd negative nonneg)
    fun x sound _ _ => ?_
  have rows : (req.page size token).rows claims.subject x.rank w.db =
      req.window claims.subject x.rank size o w.db := by
    show (List.drop (pageOffset (some ⟨size, token⟩)).toNatClampNeg _).take
      (pageSize (some ⟨size, token⟩)).toNatClampNeg = _
    rw [start, pageSize_eq positive, Int64.toNatClampNeg_ofNat_of_lt small,
      Int64.toNatClampNeg_ofNat_of_lt (by omega)]
    rfl
  have page := listed x sound
  unfold pageOf at page
  have le : (req.window claims.subject x.rank size o w.db).length ≤ pageLimit size :=
    List.length_take_le _ _
  rw [← nextPageToken_eq positive token o _ le, ← start, ← rows] at page
  exact page

end

/-! ## Walks -/

/-- A page that was fetched: from which store, and what came back. -/
structure Fetch where
  world : World
  choices : ℕ → Choice
  page : ListNotificationsResponse

/-- The token of the page after. -/
def Fetch.next (f : Fetch) : String := (f.page.pagination.map (·.nextPageToken)).getD ""

/-- The page is the answer to the request at a token. -/
def Fetch.Answers (f : Fetch) (ext : Ext) (claims : AuthClaims) (req : ListNotificationsRequest)
    (size : Int32) (token : String) : Prop :=
  ((NotificationService.listNotifications ext (some claims) (req.page size token)).run (exec ext)
    f.choices f.world).1 = .ok f.page

/-- Pages fetched one after the other, from a token on, until there is no next page. -/
inductive Walk (ext : Ext) (claims : AuthClaims) (req : ListNotificationsRequest) (size : Int32) :
    String → List Fetch → Prop
  | nil (token) : Walk ext claims req size token []
  | last {token f} (answers : f.Answers ext claims req size token) (ends : f.next = "") :
    Walk ext claims req size token [f]
  | more {token f fs} (answers : f.Answers ext claims req size token) (goes : f.next ≠ "")
    (rest : Walk ext claims req size f.next fs) : Walk ext claims req size token (f :: fs)

/-- The last page of a walk has none after it. -/
def Complete (fs : List Fetch) : Prop := ∃ f, fs.getLast? = some f ∧ f.next = ""

section

variable {ext : Ext} {claims : AuthClaims} {req : ListNotificationsRequest} {size : Int32}
  {token : String} {f : Fetch} {fs : List Fetch} {o : ℕ}

/-- A page is the window at its offset, in the order of the statement that read it. -/
theorem Fetch.Answers.page_eq (answers : f.Answers ext claims req size token)
    (positive : 1 ≤ size) (offset : (parseI64 token).getD 0 = Int64.ofNat o) (small : o < 2 ^ 63) :
    ∃ n, f.page =
      pageOf ext size o (req.window claims.subject (f.choices n).rank size o f.world.db) := by
  have ensured : (NotificationService.listNotifications ext (some claims)
      (req.page size token)).Ensures (exec ext) (fun x => ∃ n, x = f.choices n) (fun _ _ => True)
      (fun _ page => ∃ n, page =
        pageOf ext size o (req.window claims.subject (f.choices n).rank size o f.world.db))
      f.world := by
    apply listNotifications_ensures req positive offset small
    · exact fun _ _ _ _ => trivial
    · rintro _ ⟨n, rfl⟩
      exact ⟨n, rfl⟩
  exact ensured.of_ok (fun n => ⟨n, rfl⟩) answers

theorem Fetch.next_of_page {rows : List NotificationRow} (page : f.page = pageOf ext size o rows) :
    f.next =
      if rows.length = pageLimit size then toString (Int64.ofNat (o + pageLimit size)) else "" := by
  unfold Fetch.next
  rw [page]
  rfl

/-- A page has a next one just when it is full, and that one is read at the next offset. -/
theorem Fetch.next_cases {rows : List NotificationRow} (page : f.page = pageOf ext size o rows) :
    rows.length = pageLimit size ∧ f.next = toString (Int64.ofNat (o + pageLimit size)) ∨
      rows.length ≠ pageLimit size ∧ f.next = "" := by
  by_cases full : rows.length = pageLimit size
  · exact .inl ⟨full, (Fetch.next_of_page page).trans (if_pos full)⟩
  · exact .inr ⟨full, (Fetch.next_of_page page).trans (if_neg full)⟩

theorem offset_of_next {n : ℕ} (small : n < 2 ^ 63) {token : String}
    (token_eq : token = toString (Int64.ofNat n)) : (parseI64 token).getD 0 = Int64.ofNat n := by
  rw [token_eq, parseI64_toString small]
  rfl

theorem le_of_full {subject : String} {rank : Uuid → ℕ} {db : Db} (positive : 1 ≤ size)
    (full : (req.window subject rank size o db).length = pageLimit size) :
    o + pageLimit size ≤ db.notifications.rows.length := by
  have le : (db.notifications.select (req.covers subject db)).length ≤
      db.notifications.rows.length := List.length_filter_le _ _
  have := pageLimit_pos positive
  rw [length_window] at full
  omega

/-- The pages of a walk over listings that `COUNT(*)` can count are the windows at offsets a page
apart. -/
theorem Walk.pages (walk : Walk ext claims req size token fs) (positive : 1 ≤ size)
    (offset : (parseI64 token).getD 0 = Int64.ofNat o) (small : o < 2 ^ 63)
    (fits : ∀ f ∈ fs, f.world.db.notifications.rows.length < 2 ^ 63) {k : ℕ}
    (fetched : fs[k]? = some f) :
    ∃ n, f.page = pageOf ext size (o + k * pageLimit size)
      (req.window claims.subject (f.choices n).rank size (o + k * pageLimit size) f.world.db) := by
  induction walk generalizing o k with
  | nil => cases fetched
  | last answers =>
    cases k with
    | zero =>
      cases fetched
      rw [Nat.zero_mul, Nat.add_zero]
      exact answers.page_eq positive offset small
    | succ k => cases fetched
  | more answers goes rest ih =>
    cases k with
    | zero =>
      cases fetched
      rw [Nat.zero_mul, Nat.add_zero]
      exact answers.page_eq positive offset small
    | succ k =>
      obtain ⟨n, page⟩ := answers.page_eq positive offset small
      have within := fits _ List.mem_cons_self
      rcases Fetch.next_cases page with ⟨full, next⟩ | ⟨-, next⟩
      · have bound : o + pageLimit size < 2 ^ 63 := (le_of_full positive full).trans_lt within
        have found := ih (offset_of_next bound next) bound
          (fun g hg => fits g (List.mem_cons_of_mem _ hg)) fetched
        rw [Nat.succ_mul, Nat.add_comm (k * _), ← Nat.add_assoc]
        exact found
      · exact absurd next goes

/-! ## Where a notification stands in a listing -/

/-- A notification that the listing covers. -/
def ListNotificationsRequest.Shows (req : ListNotificationsRequest) (subject : String) (db : Db)
    (id : Uuid) (r : NotificationRow) : Prop :=
  db.notifications.lookup (.id id) = some r ∧ req.covers subject db r = true

/-- How many notifications of the listing stand before one. -/
def ListNotificationsRequest.place (req : ListNotificationsRequest) (subject : String)
    (rank : Uuid → ℕ) (db : Db) (r : NotificationRow) : ℕ :=
  (db.notifications.select (req.covers subject db)).countP fun s =>
    Ahead (fun r : NotificationRow => -r.createdAt) (fun r => rank r.id) s r

variable {subject : String} {rank : Uuid → ℕ} {db : Db} {id : Uuid} {r : NotificationRow}

theorem ListNotificationsRequest.Shows.mem_select (shows : req.Shows subject db id r) :
    r ∈ db.notifications.select (req.covers subject db) :=
  Table.mem_select.2 ⟨(Table.lookup_eq_some.1 shows.1).1, shows.2⟩

theorem ListNotificationsRequest.Shows.getElem? (shows : req.Shows subject db id r)
    (injective : rank.Injective) :
    (req.listing subject rank db)[req.place subject rank db r]? = some r := by
  have apart : ∀ s ∈ db.notifications.select (req.covers subject db), -s.createdAt = -r.createdAt →
      rank s.id = rank r.id → s = r := by
    intro s hs _ same
    have mine : NotificationKey.id r.id ∈ Schema.keys s := injective same ▸ List.mem_cons_self
    exact Table.eq_of_mem_keys (Table.mem_select.1 hs).1 (Table.mem_select.1 shows.mem_select).1
      mine List.mem_cons_self
  obtain ⟨pre, post, split, length⟩ := exists_sortOn_eq shows.mem_select apart
  unfold ListNotificationsRequest.listing ListNotificationsRequest.place
  rw [split, ← length, List.getElem?_append_right le_rfl, Nat.sub_self]
  rfl

theorem ListNotificationsRequest.Shows.place_lt (shows : req.Shows subject db id r)
    (injective : rank.Injective) : req.place subject rank db r <
      (db.notifications.select (req.covers subject db)).length := by
  have found := List.getElem?_eq_some_iff.1 (shows.getElem? injective)
  rw [← (sortOn_perm (fun r => -r.createdAt) (fun r => rank r.id) _).length_eq]
  exact found.1

theorem ListNotificationsRequest.Shows.mem_window (shows : req.Shows subject db id r)
    (injective : rank.Injective) (starts : o ≤ req.place subject rank db r)
    (ends : req.place subject rank db r < o + pageLimit size) :
    r ∈ req.window subject rank size o db := by
  refine List.mem_iff_getElem?.2 ⟨req.place subject rank db r - o, ?_⟩
  unfold ListNotificationsRequest.window
  rw [List.getElem?_take, if_pos (by omega), List.getElem?_drop, Nat.add_sub_cancel' starts]
  exact shows.getElem? injective

end

namespace Sample

/-- A page that `ann` fetches. -/
def fetched (req : ListNotificationsRequest) (size : Int32) (token : String) (w : World) : Fetch where
  world := w
  choices _ := choice
  page :=
    match ((NotificationService.listNotifications ext (some ann) (req.page size token)).run
      (exec ext) (fun _ => choice) w).1 with
    | .ok page => page
    | .error _ => ⟨[], none⟩

end Sample

end Estafeta
