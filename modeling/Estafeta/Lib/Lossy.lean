import Mathlib.Data.List.Forall2

/-!
# Lossy channels

What a channel has handed over is a subsequence of what was put into it, each message as what was put
in there: `List.SublistForall₂`. These are the rules for a channel that goes on, and what such a
subsequence can hold.
-/

namespace List.SublistForall₂

variable {α β : Type} {R : α → β → Prop} {l l' : List α} {m : List β} {a : α} {b : β}

theorem lose (h : SublistForall₂ R l m) (m' : List β) : SublistForall₂ R l (m ++ m') := by
  obtain ⟨k, each, within⟩ := sublistForall₂_iff.1 h
  exact sublistForall₂_iff.2 ⟨k, each, within.trans (sublist_append_left ..)⟩

theorem snoc (h : SublistForall₂ R l m) (rel : R a b) :
    SublistForall₂ R (l ++ [a]) (m ++ [b]) := by
  obtain ⟨k, each, within⟩ := sublistForall₂_iff.1 h
  exact sublistForall₂_iff.2 ⟨k ++ [b], rel_append each (.cons rel .nil), within.append (.refl _)⟩

theorem drop (h : SublistForall₂ R l m) (fewer : l' <+ l) : SublistForall₂ R l' m := by
  induction h generalizing l' with
  | nil =>
    rw [sublist_nil.1 fewer]
    exact .nil
  | @cons a b l m rel _ ih =>
    cases fewer with
    | cons _ fewer => exact .cons_right (ih fewer)
    | cons_cons _ fewer => exact .cons rel (ih fewer)
  | cons_right _ ih => exact .cons_right (ih fewer)

theorem exists_of_mem (h : SublistForall₂ R l m) (mem : a ∈ l) : ∃ b ∈ m, R a b := by
  induction h with
  | nil => cases mem
  | @cons a' b l m rel _ ih =>
    rcases mem_cons.1 mem with rfl | mem
    · exact ⟨b, .head _, rel⟩
    · obtain ⟨b, mem, rel⟩ := ih mem
      exact ⟨b, .tail _ mem, rel⟩
  | cons_right _ ih =>
    obtain ⟨b, mem, rel⟩ := ih mem
    exact ⟨b, .tail _ mem, rel⟩

theorem countP_le {p : α → Bool} {q : β → Bool} (h : SublistForall₂ R l m)
    (kind : ∀ a ∈ l, ∀ b ∈ m, R a b → p a = true → q b = true) : l.countP p ≤ m.countP q := by
  induction h with
  | nil => exact Nat.zero_le _
  | @cons a b l m rel _ ih =>
    have rest := ih fun a ha b hb => kind a (.tail _ ha) b (.tail _ hb)
    rw [countP_cons, countP_cons]
    by_cases first : p a = true
    · rw [if_pos first, if_pos (kind a (.head _) b (.head _) rel first)]
      omega
    · rw [if_neg first]
      omega
  | @cons_right b l m _ ih =>
    have rest := ih fun a ha b hb => kind a ha b (.tail _ hb)
    rw [countP_cons]
    omega

end List.SublistForall₂
