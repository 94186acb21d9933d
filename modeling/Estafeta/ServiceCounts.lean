import Mathlib.Algebra.BigOperators.Group.List.Lemmas
import Mathlib.Algebra.GroupWithZero.Nat
import Estafeta.ListFilters

/-!
# Counts by service

A count request is answered with a total and the numbers by service. The slugs of the request narrow
the total only: the statement that counts by service takes no filter, and slugs that are all unknown
narrow nothing. So the answer is consistent just when the slugs leave nothing out
(`counts_consistent_iff`).
-/

open Relational Atomic

namespace Estafeta

/-- A badge counts the notification, whatever its service. -/
def Badge.Counts (badge : Badge) (subject : String) (r : NotificationRow) : Prop :=
  r.recipientUserId = subject ∧ r.state = badge.state.asDbStr

/-- The notification belongs to a service that the slugs admit. -/
def Db.Admits (db : Db) (slugs : List String) (r : NotificationRow) : Prop :=
  ∃ svc, db.services.lookup (.id r.serviceId) = some svc ∧ svc.slug ∈ slugs

/-- Whenever a badge is counted, the numbers by service sum to the total, and every service that is
counted is one that the slugs admit. -/
def Badge.Consistent (ext : Ext) (claims : AuthClaims) (w : World) (slugs : List String)
    (badge : Badge) : Prop :=
  ∀ (x : ℕ → Choice) (total : Int64) (byService : List (String × Int64)),
    ((badge.counts ext (some claims) slugs).run (exec ext) x w).1 = .ok (total, byService) →
    (byService.map Prod.snd).sum = total ∧
    (slugs ≠ [] → ∀ count ∈ byService,
      ∃ svc ∈ w.db.services.rows, svc.slug ∈ slugs ∧ count.1 = ext.showUuid svc.id)

section

variable {ext : Ext} {claims : AuthClaims} {w : World} {db : Db} {slugs : List String}
  {badge : Badge} {subject : String} {r : NotificationRow}

/-! ## Counting by group -/

theorem sum_map_ofNat (l : List ℕ) : (l.map Int64.ofNat).sum = Int64.ofNat l.sum := by
  induction l with
  | nil => rfl
  | cons n l ih => rw [List.map_cons, List.sum_cons, List.sum_cons, Int64.ofNat_add, ih]

/-- Every row is in one group, so the groups count all rows. -/
theorem sum_countBy {α : Type} (rank : Uuid → ℕ) (group : α → Uuid) (rows : List α) :
    ((countBy rank group rows).map Prod.snd).sum = Int64.ofNat rows.length := by
  have sizes : ((sortOn (fun _ => 0) rank (rows.map group).dedup).map fun g =>
      rows.countP fun r => group r = g).sum = rows.length := by
    have size : ∀ g, (rows.countP fun r => group r = g) = (rows.map group).count g := by
      intro g
      rw [List.count, List.countP_map]
      rfl
    calc
      ((sortOn (fun _ => 0) rank (rows.map group).dedup).map fun g =>
          rows.countP fun r => group r = g).sum =
          (((rows.map group).dedup).map fun g => (rows.map group).count g).sum := by
          simp only [size]
          exact ((sortOn_perm _ _ _).map _).sum_eq
      _ = rows.length := by rw [List.sum_map_count_dedup_eq_length, List.length_map]
  unfold countBy
  rw [List.map_map, ← sizes, ← sum_map_ofNat, List.map_map]
  rfl

theorem mem_countBy {α : Type} (rank : Uuid → ℕ) {group : α → Uuid} {rows : List α} {id : Uuid} :
    (∃ n, (id, n) ∈ countBy rank group rows) ↔ ∃ r ∈ rows, group r = id := by
  unfold countBy
  simp [mem_sortOn]

/-! ## What is counted -/

theorem mem_counted : r ∈ (db.notifications.select fun r =>
      decide (r.recipientUserId = subject) && decide (r.state = badge.state.asDbStr)) ↔
    r ∈ db.notifications.rows ∧ badge.Counts subject r := by
  rw [Table.mem_select, Bool.and_eq_true, decide_eq_true_eq, decide_eq_true_eq]
  rfl

theorem admits_iff : db.Admits slugs r ↔ r.serviceId ∈ db.serviceIds slugs := mem_serviceIds.symm

/-- Slugs that leave nothing out of a count do not narrow its total. -/
theorem countState_of_admits
    (all : slugs = [] ∨ ∀ r ∈ db.notifications.rows, badge.Counts subject r → db.Admits slugs r) :
    Db.Notifications.countState badge.state.asDbStr subject (db.serviceIds slugs) db =
      Int64.ofNat (db.notifications.select fun r =>
        decide (r.recipientUserId = subject) && decide (r.state = badge.state.asDbStr)).length := by
  unfold Db.Notifications.countState
  congr 2
  refine List.filter_congr fun r stored => ?_
  rw [Bool.and_eq_left_iff_imp]
  intro counted
  unfold anyOf
  rw [Bool.or_eq_true]
  rcases all with rfl | all
  · exact .inl rfl
  · exact .inr (decide_eq_true (admits_iff.1 (all r stored
      (mem_counted.1 (Table.mem_select.2 ⟨stored, counted⟩)).2)))

theorem mem_countMap {x : Choice} {count : String × Int64}
    (listed : count ∈ NotificationService.countMap ext (Db.Notifications.countStateByService
      (x.env ext) badge.state.asDbStr subject db)) :
    ∃ r ∈ db.notifications.rows, badge.Counts subject r ∧ count.1 = ext.showUuid r.serviceId := by
  obtain ⟨⟨id, n⟩, mem, rfl⟩ := List.mem_map.1 listed
  obtain ⟨r, selected, rfl⟩ := (mem_countBy _).1 ⟨n, mem⟩
  obtain ⟨stored, counted⟩ := mem_counted.1 selected
  exact ⟨r, stored, counted, rfl⟩

theorem exists_mem_countMap (ext : Ext) (x : Choice) (stored : r ∈ db.notifications.rows)
    (counted : badge.Counts subject r) :
    ∃ n, (ext.showUuid r.serviceId, n) ∈ NotificationService.countMap ext
      (Db.Notifications.countStateByService (x.env ext) badge.state.asDbStr subject db) := by
  obtain ⟨n, listed⟩ := (mem_countBy (x.env ext).rank).2 ⟨r, mem_counted.2 ⟨stored, counted⟩, rfl⟩
  exact ⟨n, List.mem_map_of_mem listed⟩

theorem exists_counts (ext : Ext) (claims : AuthClaims) (w : World) (slugs : List String)
    (badge : Badge) : ∃ (x : ℕ → Choice) (y : Choice) (total : Int64),
      ((badge.counts ext (some claims) slugs).run (exec ext) x w).1 = .ok (total,
        NotificationService.countMap ext (Db.Notifications.countStateByService (y.env ext)
          badge.state.asDbStr claims.subject w.db)) := by
  have ensured : (badge.counts ext (some claims) slugs).Ensures (exec ext)
      (fun x => x.failure = none) (fun _ _ => False) (fun _ counts => ∃ y total, counts = (total,
        NotificationService.countMap ext (Db.Notifications.countStateByService (Choice.env ext y)
          badge.state.asDbStr claims.subject w.db))) w :=
    badge.counts_ensures slugs (fun _ works lost _ => of_lost works lost) fun x _ => ⟨x, _, rfl⟩
  obtain ⟨_, answers, y, total, rfl⟩ := ensured.exists_ok fun _ => (rfl : Choice.calm.failure = none)
  exact ⟨_, y, total, answers⟩

end

/-- The answer to a count request is consistent exactly if it names no services, or every
notification that it would count without them belongs to one of those. -/
theorem counts_consistent_iff (ext : Ext) (showsUuid : Function.Injective ext.showUuid)
    (claims : AuthClaims) (w : World) (slugs : List String) (badge : Badge) :
    badge.Consistent ext claims w slugs ↔ slugs = [] ∨
      ∀ r ∈ w.db.notifications.rows, badge.Counts claims.subject r → w.db.Admits slugs r := by
  constructor
  · intro consistent
    by_cases none : slugs = []
    · exact .inl none
    refine .inr fun r stored counted => ?_
    obtain ⟨x, y, total, answers⟩ := exists_counts ext claims w slugs badge
    obtain ⟨-, admitted⟩ := consistent x total _ answers
    obtain ⟨n, listed⟩ := exists_mem_countMap ext y stored counted
    obtain ⟨svc, registered, requested, shown⟩ := admitted none _ listed
    have same : r.serviceId = svc.id := showsUuid shown
    refine ⟨svc, ?_, requested⟩
    rw [same]
    exact Table.lookup_of_mem registered (serviceId_mem_keys.2 rfl)
  · intro all x total byService answers
    obtain ⟨-, rfl, y, rfl⟩ := of_answered (Q := fun _ counts =>
        counts.1 = Db.Notifications.countState badge.state.asDbStr claims.subject
          (w.db.serviceIds slugs) w.db ∧
        ∃ y : Choice, counts.2 = NotificationService.countMap ext
          (Db.Notifications.countStateByService (y.env ext) badge.state.asDbStr claims.subject w.db))
      (badge.counts_ensures slugs (fun _ _ _ _ => trivial) fun x _ => ⟨rfl, x, rfl⟩) answers
    constructor
    · rw [countState_of_admits all, ← sum_countBy (y.env ext).rank NotificationRow.serviceId]
      unfold NotificationService.countMap
      rw [List.map_map]
      rfl
    · intro some count listed
      obtain ⟨r, stored, counted, shown⟩ := mem_countMap listed
      obtain ⟨svc, found, requested⟩ := (all.resolve_left some) r stored counted
      obtain ⟨registered, named⟩ := Table.lookup_eq_some.1 found
      rw [← serviceId_mem_keys.1 named] at shown
      exact ⟨svc, registered, requested, shown⟩

namespace Sample

/-- A store with a letter for `ann` and a second service, `post`. -/
def twoServices : World :=
  { letters with
    db :=
      { letters.db with
        services :=
          { rows := [service, { service with id := 5, slug := "post" }]
            unique := by decide
            checked := fun _ _ => rfl } } }

end Sample

open Sample in
theorem counts_consistent_iff_letters :
    Badge.unseen.Consistent numberExt ann twoServices ["mail"] := by
  refine (counts_consistent_iff numberExt showUuid_injective ann twoServices ["mail"] .unseen).2
    (.inr fun r stored _ => ?_)
  cases List.mem_singleton.1 stored
  exact ⟨service, rfl, .head _⟩

open Sample in
/-- Asked for `post`, the answer counts nothing in total, and one letter of `mail`. -/
theorem not_counts_consistent : ¬ ∀ (ext : Ext) (claims : AuthClaims) (w : World)
    (slugs : List String) (badge : Badge), badge.Consistent ext claims w slugs := by
  intro consistent
  obtain ⟨sum, -⟩ := consistent numberExt ann twoServices ["post"] .unseen (fun _ => choice) 0
    [("1", 1)] (by decide)
  exact absurd sum (by decide)

end Estafeta
