import Estafeta.Pages

/-!
# Badges and lists

The badge counts of a client against its lists. `GetUnseenCount` and `GetUnreadCount` count with a
statement of their own; a walk through the listing of the state, on the same store, hands out just as
many notifications, whatever the order of ties on each of its pages, and it ends.
-/

open Relational Atomic

namespace Estafeta

/-- What a badge counts. -/
inductive Badge where
  | unseen
  | unread

def Badge.state : Badge → NotificationState
  | .unseen => .unseen
  | .unread => .unread

/-- The total of a badge. -/
def Badge.total (ext : Ext) (extensions : Option AuthClaims) (slugs : List String) :
    Badge → Program Status Int64
  | .unseen => do
    let resp ← NotificationService.getUnseenCount ext extensions ⟨slugs⟩
    return resp.totalCount
  | .unread => do
    let resp ← NotificationService.getUnreadCount ext extensions ⟨slugs⟩
    return resp.totalCount

/-- What is counted for a badge: the total, and the numbers by service. -/
def Badge.counts (ext : Ext) (extensions : Option AuthClaims) (slugs : List String) :
    Badge → Program Status (Int64 × List (String × Int64))
  | .unseen => do
    let resp ← NotificationService.getUnseenCount ext extensions ⟨slugs⟩
    return (resp.totalCount, resp.countByService)
  | .unread => do
    let resp ← NotificationService.getUnreadCount ext extensions ⟨slugs⟩
    return (resp.totalCount, resp.countByService)

/-- The request for the list of a badge. -/
def Badge.request (badge : Badge) (slugs types : List String) : ListNotificationsRequest where
  states := [badge.state.toProto]
  serviceSlugs := slugs
  notificationTypes := types
  groupKey := ""
  pagination := none

section

variable {ext : Ext} {ok : Choice → Prop} {claims : AuthClaims} {w : World} {db : Db}
  {req : ListNotificationsRequest} {size : Int32} {token : String} {fs : List Fetch} {o : ℕ}

/-! ## Walks over one store -/

/-- The notifications that a walk hands out. -/
def handedOut (fs : List Fetch) : List Notification := fs.flatMap fun f => f.page.notifications

theorem complete_cons {f : Fetch} :
    Complete (f :: fs) ↔ fs = [] ∧ f.next = "" ∨ Complete fs := by
  unfold Complete
  cases fs with
  | nil => simp
  | cons g fs => simp [List.getLast?_cons_cons]

theorem not_complete_nil : ¬ Complete [] := by
  rintro ⟨f, last, -⟩
  cases last

/-- A walk hands out what is left of the listing, and cannot have more pages than rows that are
left, and one. -/
theorem Walk.handedOut_eq (walk : Walk ext claims req size token fs) (positive : 1 ≤ size)
    (offset : (parseI64 token).getD 0 = Int64.ofNat o) (small : o < 2 ^ 63)
    (fits : db.notifications.rows.length < 2 ^ 63) (same : ∀ f ∈ fs, f.world.db = db) :
    fs.length ≤ (db.notifications.select (req.covers claims.subject db)).length - o + 1 ∧
      (Complete fs → (handedOut fs).length =
        (db.notifications.select (req.covers claims.subject db)).length - o) := by
  have limit := pageLimit_pos positive
  induction walk generalizing o with
  | nil => exact ⟨Nat.zero_le _, fun complete => absurd complete not_complete_nil⟩
  | last answers ends =>
    obtain ⟨n, page⟩ := answers.page_eq positive offset small
    rcases Fetch.next_cases page with ⟨-, next⟩ | ⟨short, -⟩
    · exact absurd (next.symm.trans ends) (toString_ne_empty _)
    · rw [length_window, same _ List.mem_cons_self] at short
      refine ⟨Nat.le_add_left 1 _, fun _ => ?_⟩
      rw [handedOut, List.flatMap_singleton, page, pageOf, List.length_map, length_window,
        same _ List.mem_cons_self]
      omega
  | more answers goes rest ih =>
    obtain ⟨n, page⟩ := answers.page_eq positive offset small
    rcases Fetch.next_cases page with ⟨full, next⟩ | ⟨-, next⟩
    · have counted := full
      rw [same _ List.mem_cons_self] at full
      have bound : o + pageLimit size < 2 ^ 63 := (le_of_full positive full).trans_lt fits
      rw [length_window] at full
      obtain ⟨pages, total⟩ := ih (offset_of_next bound next) bound
        fun g hg => same g (List.mem_cons_of_mem _ hg)
      refine ⟨?_, fun complete => ?_⟩
      · rw [List.length_cons]
        omega
      · rcases complete_cons.1 complete with ⟨-, ends⟩ | complete
        · exact absurd ends goes
        · have first := total complete
          rw [handedOut] at first
          rw [handedOut, List.flatMap_cons, List.length_append, first, page, pageOf,
            List.length_map, counted]
          omega
    · exact absurd next goes

/-- A walk that has not ended goes on if no statement fails. -/
theorem Walk.goes_on (walk : Walk ext claims req size token fs) (positive : 1 ≤ size)
    (offset : (parseI64 token).getD 0 = Int64.ofNat o) (small : o < 2 ^ 63)
    (fits : db.notifications.rows.length < 2 ^ 63) (same : ∀ f ∈ fs, f.world.db = db)
    (incomplete : ¬ Complete fs) (w : World) {x : ℕ → Choice} (works : ∀ n, (x n).failure = none) :
    ∃ page, Walk ext claims req size token (fs ++ [⟨w, x, page⟩]) := by
  induction walk generalizing o with
  | nil token =>
    have ensured : (NotificationService.listNotifications ext (some claims)
        (req.page size token)).Ensures (exec ext) (fun x => x.failure = none) (fun _ _ => False)
        (fun _ _ => True) w := by
      apply listNotifications_ensures req positive offset small
      · intro x works lost
        rw [works] at lost
        cases lost
      · exact fun _ _ => trivial
    obtain ⟨page, answers, -⟩ := ensured.exists_ok works
    refine ⟨page, ?_⟩
    by_cases ends : Fetch.next ⟨w, x, page⟩ = ""
    · exact .last answers ends
    · exact .more answers ends (.nil _)
  | last answers ends => exact absurd (complete_cons.2 (.inl ⟨rfl, ends⟩)) incomplete
  | more answers goes rest ih =>
    obtain ⟨n, page⟩ := answers.page_eq positive offset small
    rcases Fetch.next_cases page with ⟨full, next⟩ | ⟨-, next⟩
    · rw [same _ List.mem_cons_self] at full
      have bound : o + pageLimit size < 2 ^ 63 := (le_of_full positive full).trans_lt fits
      obtain ⟨page, longer⟩ := ih (offset_of_next bound next) bound
        (fun g hg => same g (List.mem_cons_of_mem _ hg))
        fun complete => incomplete (complete_cons.2 (.inr complete))
      exact ⟨page, .more answers goes longer⟩
    · exact absurd next goes

/-! ## What a badge counts -/

theorem anyOf_singleton {α : Type} [DecidableEq α] (a b : α) : anyOf [a] b = decide (b = a) := by
  simp [anyOf]

theorem Badge.covers_request (badge : Badge) (slugs types : List String) (subject : String)
    (db : Db) (r : NotificationRow) : (badge.request slugs types).covers subject db r =
      (decide (r.recipientUserId = subject) && decide (r.state = badge.state.asDbStr) &&
        anyOf (db.serviceIds slugs) r.serviceId) := by
  have state : NotificationService.stateFilter [badge.state.toProto] = [badge.state.asDbStr] := by
    cases badge <;> rfl
  have group : nonEmpty "" = none := rfl
  unfold ListNotificationsRequest.covers Badge.request
  rw [state, group, anyOf_singleton, Option.all_none, Bool.and_true]

/-- The total is filtered by service, the numbers by service are not. -/
theorem Badge.counts_ensures {E : World → Status → Prop}
    {Q : World → Int64 × List (String × Int64) → Prop} (badge : Badge) (slugs : List String)
    (lost : ∀ x, ok x → x.failure.isSome = true → ∀ s, E w s)
    (counted : ∀ x, ok x → Q w (Db.Notifications.countState badge.state.asDbStr claims.subject
        (w.db.serviceIds slugs) w.db, NotificationService.countMap ext
          (Db.Notifications.countStateByService (x.env ext) badge.state.asDbStr claims.subject w.db))) :
    (badge.counts ext (some claims) slugs).Ensures (exec ext) ok E Q w := by
  cases badge with
  | unseen =>
    unfold Badge.counts NotificationService.getUnseenCount
    simp only [Prog.ensures_bind]
    refine ensures_fromExtensions _ (fun h => nomatch h) fun c hc => ?_
    cases hc
    refine serviceIds_ensures _ lost ?_
    refine ensures_read (q := .notifications (.countUnseen claims.subject (w.db.serviceIds slugs))) rfl
      lost (fun _ => _) (fun _ => rfl) fun _ _ => ?_
    exact ensures_read (q := .notifications (.countUnseenByService claims.subject)) rfl
      lost (fun x => _) (fun x => rfl) counted
  | unread =>
    unfold Badge.counts NotificationService.getUnreadCount
    simp only [Prog.ensures_bind]
    refine ensures_fromExtensions _ (fun h => nomatch h) fun c hc => ?_
    cases hc
    refine serviceIds_ensures _ lost ?_
    refine ensures_read (q := .notifications (.countUnread claims.subject (w.db.serviceIds slugs))) rfl
      lost (fun _ => _) (fun _ => rfl) fun _ _ => ?_
    exact ensures_read (q := .notifications (.countUnreadByService claims.subject)) rfl
      lost (fun x => _) (fun x => rfl) counted

theorem Badge.total_eq_counts (badge : Badge) (extensions : Option AuthClaims) (slugs : List String) :
    badge.total ext extensions slugs = badge.counts ext extensions slugs >>= fun c => .ret c.1 := by
  cases badge <;> simp only [Badge.total, Badge.counts, Prog.bind_assoc] <;> rfl

theorem Badge.total_ensures (ext : Ext) (ok : Choice → Prop) (claims : AuthClaims) (w : World)
    (badge : Badge) (slugs types : List String) :
    (badge.total ext (some claims) slugs).Ensures (exec ext) ok (fun _ _ => True)
      (fun _ total => total = Int64.ofNat (w.db.notifications.select
        ((badge.request slugs types).covers claims.subject w.db)).length) w := by
  rw [Badge.total_eq_counts, Prog.ensures_bind]
  refine badge.counts_ensures slugs (fun _ _ _ _ => trivial) fun _ _ => ?_
  show Db.Notifications.countState _ _ _ _ = _
  unfold Db.Notifications.countState
  rw [show (badge.request slugs types).covers claims.subject w.db = _ from
    funext (badge.covers_request slugs types claims.subject w.db)]

end

/-- Over a store that does not change, and with no more rows than `COUNT(*)` can count, a complete
walk through the list of a badge hands out as many notifications as the badge counts, and every walk
ends: it has at most a page for each row and one more, and as long as it has not ended the next page
can be fetched. -/
theorem badge_eq_walk (ext : Ext) (claims : AuthClaims) (db : Db)
    (fits : db.notifications.rows.length < 2 ^ 63) (badge : Badge) (slugs types : List String)
    (size : Int32) (positive : 1 ≤ size) :
    (∀ (w : World) (x : ℕ → Choice) (total : Int64) (fs : List Fetch), w.db = db →
      ((badge.total ext (some claims) slugs).run (exec ext) x w).1 = .ok total →
      Walk ext claims (badge.request slugs types) size "" fs → (∀ f ∈ fs, f.world.db = db) →
      Complete fs → ((handedOut fs).length : ℤ) = total.toInt) ∧
    ∀ fs : List Fetch, Walk ext claims (badge.request slugs types) size "" fs →
      (∀ f ∈ fs, f.world.db = db) →
      fs.length ≤ db.notifications.rows.length + 1 ∧
      (¬ Complete fs → ∀ (w : World) (x : ℕ → Choice), w.db = db → (∀ n, (x n).failure = none) →
        ∃ page, Walk ext claims (badge.request slugs types) size "" (fs ++ [⟨w, x, page⟩])) := by
  have start : (parseI64 "").getD 0 = Int64.ofNat 0 := rfl
  have le : (db.notifications.select ((badge.request slugs types).covers claims.subject db)).length ≤
      db.notifications.rows.length := List.length_filter_le _ _
  constructor
  · intro w x total fs here counted walk same complete
    have ensured := badge.total_ensures ext (fun _ => True) claims w slugs types
    obtain ⟨-, all⟩ := walk.handedOut_eq positive start (by decide) fits same
    have count : total = Int64.ofNat (db.notifications.select
        ((badge.request slugs types).covers claims.subject db)).length := by
      rw [← here]
      exact ensured.of_ok (fun _ => trivial) counted
    rw [all complete, count, Int64.toInt_ofNat_of_lt (by omega), Nat.sub_zero]
  · intro fs walk same
    obtain ⟨pages, -⟩ := walk.handedOut_eq positive start (by decide) fits same
    exact ⟨by omega, fun incomplete w x _ works =>
      walk.goes_on positive start (by decide) fits same incomplete w works⟩

namespace Sample

/-- One unseen notification for `ann`. -/
def letters : World := world (.single (notification "unseen") rfl) []

/-- Her walk through the unseen ones, one on a page. -/
def walked : List Fetch :=
  let req := Badge.unseen.request ["mail", "post"] []
  [fetched req 1 "" letters, fetched req 1 "1" letters]

theorem badge_eq_walk_letters : ((handedOut walked).length : ℤ) = (1 : Int64).toInt ∧
    walked.length ≤ 2 := by
  obtain ⟨counted, ends⟩ := badge_eq_walk ext ann letters.db (by decide) .unseen ["mail", "post"] []
    1 (by decide)
  have walk : Walk ext ann (Badge.unseen.request ["mail", "post"] []) 1 "" walked :=
    .more rfl (by decide) (.last rfl rfl)
  have same : ∀ f ∈ walked, f.world.db = letters.db := by
    intro f hf
    rcases List.mem_cons.1 hf with rfl | hf
    · rfl
    · rcases List.mem_singleton.1 hf with rfl
      rfl
  exact ⟨counted letters (fun _ => choice) 1 walked rfl rfl walk same ⟨_, rfl, rfl⟩,
    (ends walked walk same).1⟩

end Sample

end Estafeta
