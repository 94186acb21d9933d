import Mathlib.Order.Basic
import Mathlib.Data.Nat.Find

/-!
# Reading a state in parts

The parts of a state that changes are read one after another. If no part changes after it has been
read and before another changes that is yet to be read, then at some moment all parts were what they
were when they were read (`exists_moment`). If this happens (`Torn`), what has been read may be no
state that ever was.
-/

namespace Snapshot

variable {W K : Type*} {V : K → Type*} {part : (k : K) → W → V k} {s : ℕ → W} {k : K}
  {read : K → ℕ}

/-- The part `k` changes in the step after the moment `n`. -/
def Changes (part : (k : K) → W → V k) (s : ℕ → W) (k : K) (n : ℕ) : Prop :=
  part k (s (n + 1)) ≠ part k (s n)

/-- A part changes after it has been read, and then, or in the same step, one that is yet to be
read. -/
def Torn (part : (k : K) → W → V k) (s : ℕ → W) (read : K → ℕ) : Prop :=
  ∃ j k a b, read j ≤ a ∧ a ≤ b ∧ b < read k ∧ Changes part s j a ∧ Changes part s k b

theorem eq_of_unchanged {a b : ℕ} (le : a ≤ b)
    (unchanged : ∀ n, a ≤ n → n < b → ¬ Changes part s k n) : part k (s b) = part k (s a) := by
  induction b, le using Nat.le_induction with
  | base => rfl
  | succ b le ih =>
    have step : part k (s (b + 1)) = part k (s b) := by
      by_contra changes
      exact unchanged b le (by omega) changes
    exact step.trans (ih fun n low high => unchanged n low (by omega))

theorem not_torn_of_one (one : ∀ j a, Changes part s j a → j = k) : ¬ Torn part s read := by
  rintro ⟨j, l, a, b, after, le, before, first, second⟩
  obtain rfl := one j a first
  obtain rfl := one l b second
  omega

/-- If the reads are not torn, all parts were at some moment what they were when they were read. -/
theorem exists_moment {first last : ℕ} (start : ∀ k, first ≤ read k) (stop : ∀ k, read k ≤ last)
    (le : first ≤ last) (untorn : ¬ Torn part s read) :
    ∃ n, first ≤ n ∧ n ≤ last ∧ ∀ k, part k (s n) = part k (s (read k)) := by
  classical
  by_cases change : ∃ a, a < last ∧ ∃ j, read j ≤ a ∧ Changes part s j a
  · -- the moment before the first change of a part that has been read
    obtain ⟨before, j, after, changes⟩ := Nat.find_spec change
    refine ⟨Nat.find change, (start j).trans after, before.le, fun k => ?_⟩
    by_cases early : read k ≤ Nat.find change
    · apply eq_of_unchanged early
      intro n low high changes
      exact Nat.find_min change high ⟨by omega, k, low, changes⟩
    · apply Eq.symm
      apply eq_of_unchanged (by omega)
      intro n low high changes'
      exact untorn ⟨j, k, _, n, after, low, high, changes, changes'⟩
  · -- nothing that has been read changes
    refine ⟨last, le, le_rfl, fun k => ?_⟩
    apply eq_of_unchanged (stop k)
    intro n low high changes
    exact change ⟨n, high, k, low, changes⟩

end Snapshot
