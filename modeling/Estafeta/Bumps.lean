import Estafeta.ListFilters
import Estafeta.Rows

/-!
# Bumped notifications

The scheduler and an admin bump a notification by setting its `updated_at`, to bring it to the top of
the list. A listing is ordered by `created_at`, which no statement changes (`listing_rewritten`), so
that a notification is at the top after it was bumped just when it was there before
(`bump_tops_iff`).
-/

open Relational Atomic

namespace Estafeta

/-! ## Bumping -/

/-- The timestamps of a notification. -/
def NotificationRow.times (r : NotificationRow) : List Time :=
  [r.createdAt, r.updatedAt] ++
    [r.seenAt, r.readAt, r.snoozedUntil, r.expiresAt, r.nextEscalationAt].reduceOption

/-- Later than every timestamp of a user's notifications. -/
def World.Later (w : World) (userId : String) (t : Time) : Prop :=
  ∀ r ∈ w.db.notifications.rows, r.recipientUserId = userId → ∀ s ∈ r.times, s < t

/-- A notification has been bumped by an admin, or by an escalation pass in which nothing else was
due. -/
inductive Bumped (ext : Ext) (n : NotificationRow) (w w' : World) : Prop where
  | admin (claims : AuthClaims) (req : ResurfaceNotificationRequest) (x : ℕ → Choice) :
    ext.parseUuid req.notificationId = some n.id → req.action = 2 →
    (∀ k, w.Later n.recipientUserId (x k).now) →
    (AdminService.resurfaceNotification ext (some claims) req).run (exec ext) x w = (.ok (), w') →
    Bumped ext n w w'
  | scheduler (x : ℕ → Choice) :
    (∀ r ∈ w.db.notifications.rows,
      Db.Notifications.escalationDue (x 0).now r = true ↔ r = n) →
    escalationAction (w.db.notificationTypes.lookup (.id n.notificationTypeId)) = "bump" →
    (∀ k, w.Later n.recipientUserId (x k).now) →
    (runEscalation ext).run (exec ext) x w = (.ok (), w') → Bumped ext n w w'

/-- The request for a page of everything. -/
def everything (pagination : Option Pagination) : ListNotificationsRequest where
  states := []
  serviceSlugs := []
  notificationTypes := []
  groupKey := ""
  pagination := pagination

/-- What a user's listing should be after a notification was bumped: the notification, and the others
as they were listed before. -/
def topped (rank : Uuid → ℕ) (w : World) (n : NotificationRow) : List NotificationRow :=
  n :: ((everything none).listing n.recipientUserId rank w.db).filter fun r => r.id ≠ n.id

/-- Each page of what the recipient lists afterwards is a page of that. -/
def ListedFirst (ext : Ext) (claims : AuthClaims) (rank : Uuid → ℕ) (w : World)
    (n : NotificationRow) (w' : World) : Prop :=
  ∀ (pagination : Option Pagination) (x : ℕ → Choice) (resp : ListNotificationsResponse),
    (∀ k, (x k).rank = rank) →
    ((NotificationService.listNotifications ext (some claims) (everything pagination)).run (exec ext)
      x w').1 = .ok resp →
    resp.notifications.map (·.id) = (((topped rank w n).drop
      (pageOffset pagination).toNatClampNeg).take (pageSize pagination).toNatClampNeg).map
        fun r => ext.showUuid r.id

/-- The notification is the one of its recipient that was created last, or the database hands it out
before those that were created at the same time. -/
def Newest (rank : Uuid → ℕ) (w : World) (n : NotificationRow) : Prop :=
  ∀ r ∈ w.db.notifications.rows, r.recipientUserId = n.recipientUserId → r ≠ n →
    r.createdAt < n.createdAt ∨ r.createdAt = n.createdAt ∧ rank n.id < rank r.id

section

variable {ext : Ext} {w w' : World} {n r : NotificationRow} {rank : Uuid → ℕ} {userId : String}

/-! ## What is kept -/

/-- The stored notifications have been rewritten, and each has kept what it was inserted with. -/
def Rewritten (w w' : World) : Prop :=
  ∃ f : NotificationRow → NotificationRow, (∀ r : NotificationRow, r.Keeps (f r)) ∧
    w'.db.notifications.rows = w.db.notifications.rows.map f

theorem Rewritten.refl (w : World) : Rewritten w w := ⟨id, .refl, (List.map_id _).symm⟩

/-- The operation is not an insertion. -/
def Op.Rewrites (o : Op) : Prop := ∀ n, o ≠ .sql (.notifications (.insertNotification n))

theorem Rewritten.exec {w₀ : World} (rewritten : Rewritten w₀ w) (x : Choice) {o : Op}
    (rewrites : o.Rewrites) : Rewritten w₀ (Estafeta.exec ext x o w).2 := by
  obtain ⟨f, keeps, rows⟩ := rewritten
  rcases notifications_exec ext x o w with ⟨n, inserts, -⟩ | ⟨q, -, -, updated⟩ | ⟨-, same⟩
  · exact absurd (op_of_ran inserts) (rewrites n)
  · refine ⟨fun r => q.rewrite (x.env ext) w.db (f r), fun r => (keeps r).rewrite _ _ q, ?_⟩
    have updated := congrArg Table.rows updated
    rw [updated]
    show w.db.notifications.rows.map (q.rewrite (x.env ext) w.db) = _
    rw [rows, List.map_map]
    rfl
  · exact ⟨f, keeps, same ▸ rows⟩

theorem query_within {q : Sql} (rewrites : (Op.sql q).Rewrites) :
    (ext.query q).Within Op.Rewrites :=
  Prog.Within.mapErr ⟨rewrites, fun _ => Prog.within_ofExcept _⟩

theorem run_within {q : Sql} (rewrites : (Op.sql q).Rewrites) : (ext.run q).Within Op.Rewrites :=
  Prog.Within.mapErr ⟨rewrites, fun _ => Prog.within_ofExcept _⟩

theorem resurfaceNotification_within (ext : Ext) (claims : Option AuthClaims)
    (req : ResurfaceNotificationRequest) :
    (AdminService.resurfaceNotification ext claims req).Within Op.Rewrites := by
  have admin : ∀ subject, (Keto.requireAdmin subject).Within Op.Rewrites := fun subject =>
    Prog.Within.bind ⟨(fun _ same => nomatch same), fun _ => Prog.within_ofExcept _⟩
      fun _ => Prog.within_ensure _ _
  refine (Prog.within_okOr _ _).bind fun claims => (admin _).bind fun _ =>
    (Prog.within_okOr _ _).bind fun id => ?_
  refine (query_within (by rintro _ ⟨⟩)).bind fun found =>
    (Prog.within_okOr _ _).bind fun _ => (query_within ?_).bind fun _ => trivial
  intro n same
  unfold AdminService.resurfaceQuery at same
  split at same <;> cases same

theorem escalate_within (notif : NotificationRow) : (escalate ext notif).Within Op.Rewrites := by
  have again : ∀ type count, (nextEscalation type count).Within Op.Rewrites := by
    intro type count
    unfold nextEscalation
    split
    · split
      · split
        · exact ⟨(fun _ same => nomatch same), fun _ => trivial⟩
        · trivial
      · trivial
    · trivial
  refine (run_within (by rintro _ ⟨⟩)).bind fun type => (again _ _).bind fun next => ?_
  refine (run_within (by rintro _ ⟨⟩)).bind fun _ => (run_within ?_).bind fun _ => trivial
  intro n same
  rcases escalationQuery_cases (escalationAction type) notif.id with action | action <;>
  · rw [action] at same
    cases same

theorem runEscalation_within (ext : Ext) : (runEscalation ext).Within Op.Rewrites :=
  (run_within (by rintro _ ⟨⟩)).bind fun _ => Prog.within_forM escalate_within

theorem Bumped.rewritten (bumped : Bumped ext n w w') : Rewritten w w' := by
  have kept : ∀ (x : Choice) (o : Op) (v : World), o.Rewrites → Rewritten w v →
      Rewritten w (exec ext x o v).2 := fun x _ _ rewrites rewritten => rewritten.exec x rewrites
  cases bumped with
  | admin claims req x _ _ _ ran =>
    have := (resurfaceNotification_within ext (some claims) req).run (Rewritten w) kept
      (.refl w) x
    rwa [ran] at this
  | scheduler x _ _ _ ran =>
    have := (runEscalation_within ext).run (Rewritten w) kept (.refl w) x
    rwa [ran] at this

/-! ## The listing -/

theorem everything_covers (pagination : Option Pagination) (userId : String) (db : Db) :
    (everything pagination).covers userId db = fun r => decide (r.recipientUserId = userId) := by
  funext r
  unfold ListNotificationsRequest.covers
  show (decide (r.recipientUserId = userId) && true && true && true) = _
  rw [Bool.and_true, Bool.and_true, Bool.and_true]

theorem everything_listing (pagination : Option Pagination) (userId : String) (rank : Uuid → ℕ)
    (db : Db) : (everything pagination).listing userId rank db =
      (everything none).listing userId rank db := by
  unfold ListNotificationsRequest.listing
  rw [everything_covers, everything_covers]

theorem listing_rewritten (rewritten : Rewritten w w') (userId : String) (rank : Uuid → ℕ) :
    ∃ f : NotificationRow → NotificationRow, (∀ r : NotificationRow, r.Keeps (f r)) ∧
      (everything none).listing userId rank w'.db =
        ((everything none).listing userId rank w.db).map f := by
  obtain ⟨f, keeps, rows⟩ := rewritten
  refine ⟨f, keeps, ?_⟩
  unfold ListNotificationsRequest.listing
  rw [everything_covers, everything_covers, Table.select, rows, List.filter_map]
  have own : (fun r : NotificationRow => decide (r.recipientUserId = userId)) ∘ f =
      fun r => decide (r.recipientUserId = userId) := by
    funext r
    rw [Function.comp, (keeps r).recipientUserId]
  rw [own]
  refine sortOn_map fun r => ⟨?_, ?_⟩
  · rw [(keeps r).createdAt]
  · rw [(keeps r).id]

theorem mem_listing : r ∈ (everything none).listing userId rank w.db ↔
    r ∈ w.db.notifications.rows ∧ r.recipientUserId = userId := by
  unfold ListNotificationsRequest.listing
  rw [mem_sortOn, everything_covers, Table.mem_select, decide_eq_true_eq]

theorem listing_of_newest (stored : n ∈ w.db.notifications.rows) (injective : rank.Injective)
    (newest : Newest rank w n) :
    ∃ post, (everything none).listing n.recipientUserId rank w.db = n :: post := by
  have shows : (everything none).Shows n.recipientUserId w.db n.id n :=
    ⟨Table.lookup_of_mem stored List.mem_cons_self, by
      rw [everything_covers]
      exact decide_eq_true rfl⟩
  have first : (everything none).place n.recipientUserId rank w.db n = 0 := by
    unfold ListNotificationsRequest.place
    rw [List.countP_eq_zero]
    intro r selected
    rw [everything_covers] at selected
    obtain ⟨mem, own⟩ := Table.mem_select.1 selected
    rw [decide_eq_true_eq]
    by_cases same : r = n
    · rw [same]
      rintro (lt | ⟨-, lt⟩)
      · exact lt.false
      · exact lt.false
    · refine not_ahead_of_before ?_
      rcases newest r mem (of_decide_eq_true own) same with lt | ⟨tie, lt⟩
      · exact .inl (Int.neg_lt_neg lt)
      · exact .inr ⟨congrArg Neg.neg tie.symm, lt.le⟩
  have found := shows.getElem? injective
  rw [first] at found
  cases listing : (everything none).listing n.recipientUserId rank w.db with
  | nil =>
    rw [listing] at found
    cases found
  | cons r post =>
    rw [listing] at found
    cases found
    exact ⟨post, rfl⟩

theorem newest_of_listing (stored : n ∈ w.db.notifications.rows) (injective : rank.Injective)
    {post : List NotificationRow}
    (first : (everything none).listing n.recipientUserId rank w.db = n :: post) :
    Newest rank w n := by
  intro r mem own other
  have sorted : (n :: post).Pairwise (Before (fun r : NotificationRow => -r.createdAt)
      fun r => rank r.id) := first ▸ List.pairwise_insertionSort _ _
  have listed : r ∈ n :: post := first ▸ mem_listing.2 ⟨mem, own⟩
  have behind : r ∈ post := (List.mem_cons.1 listed).resolve_left other
  rcases (List.pairwise_cons.1 sorted).1 r behind with lt | ⟨tie, le⟩
  · exact .inl (Int.neg_lt_neg_iff.1 lt)
  · refine .inr ⟨(Int.neg_inj.1 tie).symm, lt_of_le_of_ne le fun same => other ?_⟩
    exact Db.Notifications.eq_of_id mem stored (injective same).symm

/-- The listing is what it should be if the notification was its first. -/
theorem topped_of_first {post : List NotificationRow}
    (first : (everything none).listing n.recipientUserId rank w.db = n :: post) :
    topped rank w n = (everything none).listing n.recipientUserId rank w.db := by
  have distinct : ((everything none).listing n.recipientUserId rank w.db).Nodup := by
    refine (sortOn_perm _ _ _).nodup_iff.2 (List.Nodup.filter _ ?_)
    exact Db.Notifications.nodup_rows w.db.notifications
  have listed : ∀ r ∈ n :: post, r ∈ w.db.notifications.rows := fun r mem =>
    (mem_listing.1 (first ▸ mem)).1
  unfold topped
  rw [first] at distinct ⊢
  rw [List.filter_cons_of_neg (by simp), List.filter_eq_self.2]
  intro r mem
  refine decide_eq_true fun same => (List.nodup_cons.1 distinct).1 ?_
  rwa [← Db.Notifications.eq_of_id (listed r (.tail _ mem)) (listed n (.head _)) same]

/-- What a page of everything shows after rows were rewritten in place is a page of the listing before
that. -/
theorem shown_rewritten (ext : Ext) (userId : String) (rewritten : Rewritten w w')
    (rank : Uuid → ℕ) (pagination : Option Pagination) :
    ((everything pagination).answer ext
        ((everything pagination).rows userId rank w'.db)).notifications.map (·.id) =
      ((((everything none).listing userId rank w.db).drop (pageOffset pagination).toNatClampNeg).take
        (pageSize pagination).toNatClampNeg).map fun r => ext.showUuid r.id := by
  obtain ⟨f, keeps, listing⟩ := listing_rewritten rewritten userId rank
  have shown : ∀ l : List NotificationRow, (l.map f).map (fun r => ext.showUuid r.id) =
      l.map fun r => ext.showUuid r.id := by
    intro l
    rw [List.map_map]
    exact List.map_congr_left fun r _ => congrArg ext.showUuid (keeps r).id
  unfold ListNotificationsRequest.rows
  rw [everything_listing, listing, ← List.map_drop, ← List.map_take, ← shown]
  exact List.map_map

theorem exists_firstPage (ext : Ext) (claims : AuthClaims) (rank : Uuid → ℕ) (w : World) :
    ∃ x : ℕ → Choice, (∀ k, (x k).rank = rank) ∧
      ((NotificationService.listNotifications ext (some claims) (everything none)).run (exec ext)
        x w).1 = .ok ((everything none).answer ext
          ((everything none).rows claims.subject rank w.db)) := by
  let x : Choice := { Choice.calm with rank := rank }
  have ensured : (NotificationService.listNotifications ext (some claims) (everything none)).Ensures
      (exec ext) (fun y => y = x) (fun _ _ => False) (fun _ resp => resp =
        (everything none).answer ext ((everything none).rows claims.subject rank w.db)) w := by
    refine listNotifications_answers _ (fun y same lost _ => ?_) (fun negative _ => ?_) ?_
    · rw [same] at lost
      cases lost
    · exact absurd negative (by decide)
    · rintro y rfl - -
      rfl
  obtain ⟨_, answers, rfl⟩ := ensured.exists_ok fun _ => (rfl : x = x)
  exact ⟨fun _ => x, fun _ => rfl, answers⟩

theorem answer_of_listed {claims : AuthClaims} {pagination : Option Pagination} {x : ℕ → Choice}
    {resp : ListNotificationsResponse} (ranked : ∀ k, (x k).rank = rank)
    (answers : ((NotificationService.listNotifications ext (some claims) (everything pagination)).run
      (exec ext) x w).1 = .ok resp) :
    resp = (everything pagination).answer ext
      ((everything pagination).rows claims.subject rank w.db) := by
  have ensured : (NotificationService.listNotifications ext (some claims)
      (everything pagination)).Ensures (exec ext) (fun y => y.rank = rank) (fun _ _ => True)
      (fun _ resp => resp = (everything pagination).answer ext
        ((everything pagination).rows claims.subject rank w.db)) w := by
    refine listNotifications_answers _ (fun _ _ _ _ => trivial) (fun _ _ => trivial) ?_
    rintro y rfl - -
    rfl
  exact ensured.of_ok ranked answers

end

/-- After a notification was bumped, its recipient's listing has it first, and the others in the
order they had before, exactly if it already was the newest. -/
theorem bump_tops_iff (ext : Ext) (showsUuid : Function.Injective ext.showUuid) (w w' : World)
    (n : NotificationRow) (stored : n ∈ w.db.notifications.rows) (bumped : Bumped ext n w w')
    (claims : AuthClaims) (own : claims.subject = n.recipientUserId) (rank : Uuid → ℕ)
    (injective : rank.Injective) : ListedFirst ext claims rank w n w' ↔ Newest rank w n := by
  have page := shown_rewritten ext n.recipientUserId bumped.rewritten rank
  constructor
  · intro tops
    obtain ⟨x, ranked, answers⟩ := exists_firstPage ext claims rank w'
    have first := tops none x _ ranked answers
    rw [own, page none] at first
    cases before : (everything none).listing n.recipientUserId rank w.db with
    | nil =>
      have mem : n ∈ (everything none).listing n.recipientUserId rank w.db :=
        mem_listing.2 ⟨stored, rfl⟩
      rw [before] at mem
      cases mem
    | cons r post =>
      rw [before] at first
      have same : ext.showUuid r.id = ext.showUuid n.id := (List.cons.inj first).1
      have mem : r ∈ w.db.notifications.rows :=
        (mem_listing.1 (before ▸ List.mem_cons_self : r ∈ _)).1
      cases Db.Notifications.eq_of_id mem stored (showsUuid same)
      exact newest_of_listing stored injective before
  · intro newest pagination x resp ranked answers
    obtain ⟨post, first⟩ := listing_of_newest stored injective newest
    rw [answer_of_listed ranked answers, own, page, topped_of_first first]

namespace Sample

/-- A store with the letter of `ann` and another, created at some time. -/
def twoLetters (created : Time) : World :=
  world
    { rows := [notification "unseen",
        { notification "unseen" with id := 5, idempotencyKey := none, createdAt := created }]
      unique := by
        refine List.pairwise_pair.2 ?_
        show ∀ k ∈ [NotificationKey.id 3, .idempotency "key"], k ∉ [NotificationKey.id 5]
        decide
      checked := by
        refine List.forall_mem_cons.2 ⟨?_, List.forall_mem_singleton.2 ?_⟩ <;>
        · show decide ("unseen" ∈ stateNames) = true
          decide } []

/-- An admin bumps the first letter. -/
def bump : ResurfaceNotificationRequest := ⟨"3", 2⟩

def bumpedLetters (created : Time) : World :=
  ((AdminService.resurfaceNotification numberExt (some ann) bump).run (exec numberExt)
    (fun _ => choice) (twoLetters created)).2

theorem bumped_letters {created : Time} (before : created < 7) :
    Bumped numberExt (notification "unseen") (twoLetters created) (bumpedLetters created) := by
  refine .admin ann bump (fun _ => choice) rfl rfl (fun _ r mem _ s timed => ?_) rfl
  rcases List.mem_cons.1 mem with rfl | mem
  · revert s
    decide
  · cases List.mem_singleton.1 mem
    have timed : s ∈ [created, 0, 1] := timed
    rcases List.mem_cons.1 timed with rfl | timed
    · exact before
    · rcases List.mem_cons.1 timed with rfl | timed
      · decide
      · cases List.mem_singleton.1 timed
        decide

end Sample

open Sample in
theorem bump_tops_iff_letters :
    ListedFirst numberExt ann choice.rank (twoLetters (-1)) (notification "unseen")
      (bumpedLetters (-1)) := by
  refine (bump_tops_iff numberExt showUuid_injective _ _ _ (.head _) (bumped_letters (by decide)) ann
    rfl choice.rank rank_injective).2 fun r mem _ other => ?_
  rcases List.mem_cons.1 mem with rfl | mem
  · exact absurd rfl other
  · cases List.mem_singleton.1 mem
    exact .inl (by decide)

open Sample in
/-- The letter that was created later stays at the top. -/
theorem not_bump_tops : ¬ ∀ (ext : Ext) (w w' : World) (n : NotificationRow) (claims : AuthClaims)
    (rank : Uuid → ℕ), n ∈ w.db.notifications.rows → Bumped ext n w w' →
    claims.subject = n.recipientUserId → rank.Injective → ListedFirst ext claims rank w n w' := by
  intro tops
  have first := tops numberExt (twoLetters 1) (bumpedLetters 1) (notification "unseen") ann
    choice.rank (.head _) (bumped_letters (by decide)) rfl rank_injective none (fun _ => choice) _
    (fun _ => rfl) rfl
  exact absurd first (by decide)

end Estafeta
