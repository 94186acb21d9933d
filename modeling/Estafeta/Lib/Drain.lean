import Estafeta.Lib.Table

/-!
# Draining in batches

The elements of a list are taken in batches, each the first few of those that are left in the order of
their keys. Ties may be broken differently each time. No element is lost or taken twice
(`Drain.perm`), no later batch has an element that comes before one of an earlier batch
(`Drain.ordered`), and enough batches leave nothing (`Drain.emptied`).
-/

namespace Relational

section

variable {α κ : Type} [LinearOrder κ]

/-- Batches of at most `b` elements, each the first ones of what is left, and what is left then. -/
inductive Drain (key : α → κ) (b : ℕ) : List α → List (List α) → List α → Prop where
  | done (l : List α) : Drain key b l [] l
  | batch {l l' rest : List α} {batches : List (List α)} (rank : α → ℕ)
    (split : ((sortOn key rank l).take b ++ l').Perm l) (later : Drain key b l' batches rest) :
    Drain key b l ((sortOn key rank l).take b :: batches) rest

variable {key : α → κ} {b : ℕ} {l rest : List α} {batches : List (List α)}

theorem Drain.perm (drain : Drain key b l batches rest) : (batches.flatten ++ rest).Perm l := by
  induction drain with
  | done l => exact .rfl
  | batch rank split _ ih =>
    rw [List.flatten_cons, List.append_assoc]
    exact (ih.append_left _).trans split

theorem perm_drop_of_split {rank : α → ℕ} {l' : List α}
    (split : ((sortOn key rank l).take b ++ l').Perm l) : l'.Perm ((sortOn key rank l).drop b) := by
  refine (List.perm_append_left_iff ((sortOn key rank l).take b)).1 (split.trans ?_)
  rw [List.take_append_drop]
  exact (sortOn_perm key rank l).symm

theorem Drain.length (drain : Drain key b l batches rest) :
    rest.length = l.length - batches.length * b := by
  induction drain with
  | done l => simp
  | @batch l l' rest batches rank split _ ih =>
    have left := (perm_drop_of_split split).length_eq
    rw [List.length_drop, (sortOn_perm key rank l).length_eq] at left
    rw [ih, left, List.length_cons, Nat.add_one_mul]
    omega

/-- As many batches as it takes leave nothing. -/
theorem Drain.emptied (drain : Drain key b l batches rest) (enough : l.length ≤ batches.length * b) :
    rest = [] := by
  have left := drain.length
  exact List.eq_nil_of_length_eq_zero (by omega)

theorem Drain.ordered (drain : Drain key b l batches rest) :
    batches.Pairwise fun taken later => ∀ a ∈ taken, ∀ a' ∈ later, key a ≤ key a' := by
  induction drain with
  | done l => exact .nil
  | @batch l l' rest batches rank split later ih =>
    refine List.pairwise_cons.2 ⟨fun batch mem a ha a' ha' => ?_, ih⟩
    have behind : a' ∈ (sortOn key rank l).drop b := by
      refine (perm_drop_of_split split).mem_iff.1 (later.perm.mem_iff.1 ?_)
      exact List.mem_append_left _ (List.mem_flatten.2 ⟨batch, mem, ha'⟩)
    have sorted : ((sortOn key rank l).take b ++ (sortOn key rank l).drop b).Pairwise
        (Before key rank) := by
      rw [List.take_append_drop]
      exact List.pairwise_insertionSort _ _
    rcases (List.pairwise_append.1 sorted).2.2 a ha a' behind with lt | ⟨same, _⟩
    · exact lt.le
    · exact same.le

end

end Relational
