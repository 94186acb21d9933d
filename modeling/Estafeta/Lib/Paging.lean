import Mathlib.Data.List.Basic

/-!
# Following the tokens of a paged listing

A client asks for page after page, each at the token of the one before (`follow`). Where every answer
is the window of one list at the offset that its token stands for, and only a full page has a next
token (`Serves`), the client comes to an end and has got the list (`Serves.follow_eq`).
-/

namespace Paging

variable {α τ ρ ε : Type}

/-- The pages that a client gets with at most `fuel` calls, the `n`-th being the next, and the token
it is left with. -/
def follow (ask : ℕ → τ → Except ε ρ) (next : ρ → Option τ) :
    (fuel n : ℕ) → τ → Except ε (List ρ × Option τ)
  | 0, _, t => .ok ([], some t)
  | fuel + 1, n, t =>
    match ask n t with
    | .error e => .error e
    | .ok page =>
      match next page with
      | none => .ok ([page], none)
      | some t' => (follow ask next fuel (n + 1) t').map fun (pages, left) => (page :: pages, left)

/-- The answers at tokens that stand for an offset are the windows of `l` of size `b`, and a full one
has the token of the offset after it. -/
structure Serves (ask : ℕ → τ → Except ε ρ) (next : ρ → Option τ) (rows : ρ → List α)
    (Stands : τ → ℕ → Prop) (l : List α) (b : ℕ) : Prop where
  window : ∀ {n t o page}, Stands t o → ask n t = .ok page → rows page = (l.drop o).take b
  more : ∀ {n t o page}, Stands t o → ask n t = .ok page → o + b ≤ l.length →
    ∃ t', next page = some t' ∧ Stands t' (o + b)
  last : ∀ {n t o page}, Stands t o → ask n t = .ok page → l.length < o + b → next page = none

section

variable {ask : ℕ → τ → Except ε ρ} {next : ρ → Option τ} {rows : ρ → List α}
  {Stands : τ → ℕ → Prop} {l : List α} {b fuel n o : ℕ} {t : τ}

theorem succ_div {m : ℕ} (positive : 0 < b) (le : o + b ≤ m) :
    (m - o) / b = (m - (o + b)) / b + 1 := by
  have step : m - o = m - (o + b) + b := by omega
  rw [step, Nat.add_div_right _ positive]

/-- With enough calls, a client that is answered gets the rest of the list, in one page more than
there are full ones. -/
theorem Serves.follow_eq (serves : Serves ask next rows Stands l b) (positive : 0 < b)
    (stands : Stands t o) (enough : (l.length - o) / b < fuel) {pages : List ρ} {left : Option τ}
    (followed : follow ask next fuel n t = .ok (pages, left)) :
    left = none ∧ pages.length = (l.length - o) / b + 1 ∧ pages.flatMap rows = l.drop o := by
  induction fuel generalizing n t o pages with
  | zero => exact absurd enough (Nat.not_lt_zero _)
  | succ fuel ih =>
    rw [follow] at followed
    cases answer : ask n t with
    | error e =>
      rw [answer] at followed
      cases followed
    | ok page =>
      rw [answer] at followed
      have window := serves.window stands answer
      rcases Nat.lt_or_ge l.length (o + b) with short | full
      · have token := serves.last stands answer short
        simp only [token] at followed
        cases followed
        refine ⟨rfl, ?_, ?_⟩
        · rw [Nat.div_eq_of_lt (by omega)]
          rfl
        · rw [List.flatMap_singleton, window, List.take_of_length_le]
          rw [List.length_drop]
          omega
      · obtain ⟨t', token, stands'⟩ := serves.more stands answer full
        simp only [token] at followed
        rw [succ_div positive full] at enough ⊢
        cases rest : follow ask next fuel (n + 1) t' with
        | error e =>
          rw [rest] at followed
          cases followed
        | ok r =>
          obtain ⟨later, left'⟩ := r
          rw [rest] at followed
          cases followed
          obtain ⟨ended, length, listed⟩ := ih stands' (by omega) rest
          refine ⟨ended, ?_, ?_⟩
          · rw [List.length_cons, length]
          · rw [List.flatMap_cons, listed, window, ← List.drop_drop, List.take_append_drop]

/-- A client whose calls are answered is never stopped by an error. -/
theorem Serves.answered (serves : Serves ask next rows Stands l b) (stands : Stands t o)
    (answers : ∀ n t o, Stands t o → ∃ page, ask n t = .ok page) :
    ∃ r, follow ask next fuel n t = .ok r := by
  induction fuel generalizing n t o with
  | zero => exact ⟨_, rfl⟩
  | succ fuel ih =>
    obtain ⟨page, answer⟩ := answers n t o stands
    rw [follow, answer]
    rcases Nat.lt_or_ge l.length (o + b) with short | full
    · simp only [serves.last stands answer short]
      exact ⟨_, rfl⟩
    · obtain ⟨t', token, stands'⟩ := serves.more stands answer full
      obtain ⟨r, rest⟩ := ih (n := n + 1) stands'
      simp only [token, rest]
      exact ⟨_, rfl⟩

end

end Paging
