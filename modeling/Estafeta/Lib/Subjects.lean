import Mathlib.Data.List.Forall2

/-!
# Subjects and patterns

A subject is a list of tokens. A pattern is one too, in which the token `one` stands for any token
and the token `many`, at the end, for one or more. `accepts` matches a pattern against a subject,
token by token; `accepts_iff` says what that amounts to: the pattern fits the subject (`Fits`), or
what stands before a final `many` fits the beginning of it.
-/

namespace Subjects

variable {τ : Type} {one many p t : τ} {ps ts : List τ}

/-- Match a pattern against a subject. -/
def accepts [DecidableEq τ] (one many : τ) : List τ → List τ → Bool
  | [], ts => ts.isEmpty
  | _, [] => false
  | p :: ps, t :: ts => (p = many && ps.isEmpty) || ((p = one || p = t) && accepts one many ps ts)

/-- The pattern fits the subject token by token. -/
def Fits (one : τ) (ps ts : List τ) : Prop := List.Forall₂ (fun p t => p = one ∨ p = t) ps ts

@[simp] theorem fits_nil_left : Fits one [] ts ↔ ts = [] := List.forall₂_nil_left_iff

@[simp] theorem not_fits_nil : ¬ Fits one (p :: ps) [] := by
  intro fits
  cases fits

@[simp] theorem fits_cons : Fits one (p :: ps) (t :: ts) ↔ (p = one ∨ p = t) ∧ Fits one ps ts :=
  List.forall₂_cons

theorem fits_refl (one : τ) (ts : List τ) : Fits one ts ts :=
  List.forall₂_same.2 fun _ _ => .inr rfl

theorem Fits.eq_of_plain (fits : Fits one ps ts) (plain : one ∉ ps) : ps = ts := by
  induction fits with
  | nil => rfl
  | @cons p t ps ts same _ ih =>
    rcases same with rfl | rfl
    · exact absurd (List.mem_cons_self ..) plain
    · rw [ih fun mem => plain (List.mem_cons_of_mem _ mem)]

theorem fits_snoc : Fits one (ps ++ [p]) ts ↔
    ∃ ts' t, ts = ts' ++ [t] ∧ Fits one ps ts' ∧ (p = one ∨ p = t) := by
  induction ps generalizing ts with
  | nil =>
    constructor
    · intro fits
      rcases ts with _ | ⟨t, ts⟩
      · exact absurd fits not_fits_nil
      · obtain ⟨same, rest⟩ := fits_cons.1 fits
        obtain rfl := fits_nil_left.1 rest
        exact ⟨[], t, rfl, .nil, same⟩
    · rintro ⟨ts', t, rfl, fits, same⟩
      obtain rfl := fits_nil_left.1 fits
      exact fits_cons.2 ⟨same, .nil⟩
  | cons q ps ih =>
    constructor
    · intro fits
      rcases ts with _ | ⟨t, ts⟩
      · exact absurd fits not_fits_nil
      · obtain ⟨same, rest⟩ := fits_cons.1 fits
        obtain ⟨ts', t', rfl, fits', same'⟩ := ih.1 rest
        exact ⟨t :: ts', t', rfl, fits_cons.2 ⟨same, fits'⟩, same'⟩
    · rintro ⟨ts', t, rfl, fits, same⟩
      rcases ts' with _ | ⟨t', ts'⟩
      · exact absurd fits not_fits_nil
      · obtain ⟨same', fits'⟩ := fits_cons.1 fits
        exact fits_cons.2 ⟨same', ih.2 ⟨ts', t, rfl, fits', same⟩⟩

section Accepts

variable [DecidableEq τ]

@[simp] theorem accepts_nil_left : accepts one many [] ts = true ↔ ts = [] := by
  simp [accepts]

@[simp] theorem not_accepts_nil : accepts one many (p :: ps) [] = false := rfl

@[simp] theorem accepts_cons : accepts one many (p :: ps) (t :: ts) = true ↔
    p = many ∧ ps = [] ∨ (p = one ∨ p = t) ∧ accepts one many ps ts = true := by
  simp [accepts]

/-- A token at the head of both that is no wildcard can be left out. -/
theorem accepts_cons_self (nonempty : ps ≠ []) :
    accepts one many (p :: ps) (p :: ts) = accepts one many ps ts := by
  apply Bool.eq_iff_iff.2
  simp [nonempty]

/-- What a pattern accepts: what it fits, and what goes on after what the part of the pattern before
a final `many` fits. -/
theorem accepts_iff : accepts one many ps ts = true ↔ Fits one ps ts ∨
    ∃ ps' ts₁ ts₂, ps = ps' ++ [many] ∧ ts = ts₁ ++ ts₂ ∧ ts₂ ≠ [] ∧ Fits one ps' ts₁ := by
  induction ps generalizing ts with
  | nil => simp
  | cons p ps ih =>
    rcases ts with _ | ⟨t, ts⟩
    · simp
    · rw [accepts_cons, fits_cons, ih]
      constructor
      · rintro (⟨rfl, rfl⟩ | ⟨same, fits | ⟨ps', ts₁, ts₂, rfl, rfl, more, fits⟩⟩)
        · exact .inr ⟨[], [], t :: ts, rfl, rfl, by simp, .nil⟩
        · exact .inl ⟨same, fits⟩
        · exact .inr ⟨p :: ps', t :: ts₁, ts₂, rfl, rfl, more, fits_cons.2 ⟨same, fits⟩⟩
      · rintro (⟨same, fits⟩ | ⟨ps', ts₁, ts₂, pattern, subject, more, fits⟩)
        · exact .inr ⟨same, .inl fits⟩
        · rcases ps' with _ | ⟨p', ps'⟩
          · cases pattern
            exact .inl ⟨rfl, rfl⟩
          · obtain ⟨rfl, rfl⟩ := List.cons.inj pattern
            rcases ts₁ with _ | ⟨t', ts₁⟩
            · exact absurd fits not_fits_nil
            · obtain ⟨rfl, rfl⟩ := List.cons.inj subject
              obtain ⟨same, fits⟩ := fits_cons.1 fits
              exact .inr ⟨same, .inr ⟨ps', ts₁, ts₂, rfl, rfl, more, fits⟩⟩

/-- A pattern that does not end with `many` accepts only what it fits. -/
theorem accepts_snoc (last : p ≠ many) :
    accepts one many (ps ++ [p]) ts = true ↔ Fits one (ps ++ [p]) ts := by
  rw [accepts_iff]
  refine or_iff_left ?_
  rintro ⟨ps', _, _, pattern, _⟩
  exact last (List.singleton_inj.1 (List.append_inj' pattern rfl).2)

theorem accepts_iff_of_plain (plain : one ∉ ps) (finite : many ∉ ps) :
    accepts one many ps ts = true ↔ ps = ts := by
  rw [accepts_iff]
  constructor
  · rintro (fits | ⟨ps', _, _, rfl, _⟩)
    · exact fits.eq_of_plain plain
    · exact absurd (List.mem_append_right _ (List.mem_singleton_self _)) finite
  · rintro rfl
    exact .inl (fits_refl one ps)

end Accepts

end Subjects
