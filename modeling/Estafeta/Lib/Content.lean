import Mathlib.Logic.Function.Basic
import Estafeta.Lib.Table

/-!
# A table as a map

Where a family of keys names each row at most once, a table is a map from the family: `content` is
what a view shows of the row under each key. Statements that write the row under one key of the
family update the map at that key, and nowhere else.
-/

namespace Relational

open Schema (keys check Key)

variable {ρ ι V : Type} [Schema ρ] {key : ι → Key ρ} {view : ρ → V} {t t' : Table ρ}
  {r : ρ} {f : Assign ρ} {i : ι} {v : V}

/-- No row has two keys of the family. -/
def Names (key : ι → Key ρ) : Prop := ∀ s i j, key i ∈ keys s → key j ∈ keys s → i = j

namespace Table

/-- What the table shows under the keys of a family. -/
def content (key : ι → Key ρ) (view : ρ → V) (t : Table ρ) (i : ι) : Option V :=
  (t.lookup (key i)).map view

theorem content_eq_some : content key view t i = some v ↔
    ∃ s ∈ t.rows, key i ∈ keys s ∧ view s = v := by
  unfold content
  rw [Option.map_eq_some_iff]
  constructor
  · rintro ⟨s, found, shown⟩
    exact ⟨s, mem_of_lookup found, key_of_lookup found, shown⟩
  · rintro ⟨s, hs, mine, shown⟩
    exact ⟨s, lookup_of_mem hs mine, shown⟩

theorem content_grows (grows : t.Grows t') (decided : ∀ r s, keys s = keys r → view s = view r)
    (shown : content key view t i = some v) : content key view t' i = some v := by
  obtain ⟨r, found, rfl⟩ := Option.map_eq_some_iff.1 shown
  obtain ⟨s, found', same⟩ := grows _ r found
  exact Option.map_eq_some_iff.2 ⟨s, found', decided r s same⟩

variable [DecidableEq ι]

theorem content_insert (names : Names key) (h : t.insert r = .ok t') (mine : key i ∈ keys r) :
    content key view t' = Function.update (content key view t) i (some (view r)) := by
  funext j
  unfold content
  rw [lookup_insert h, Function.update_apply]
  by_cases same : j = i
  · rw [if_pos (same ▸ mine), if_pos same]
    rfl
  · rw [if_neg fun other => same (names r j i other mine), if_neg same]

theorem content_update (names : Names key) (found : t.lookup (key i) = some r) :
    content key view (t.update (fun s => key i ∈ keys s) f) =
      Function.update (content key view t) i (some (view (f.set r))) := by
  funext j
  unfold content
  rw [lookup_update, Function.update_apply]
  by_cases same : j = i
  · rw [if_pos same, same, found, Option.map_some, if_pos (decide_eq_true (key_of_lookup found))]
    rfl
  · rw [if_neg same]
    cases found' : t.lookup (key j) with
    | none => rfl
    | some s =>
      rw [Option.map_some, if_neg]
      rintro other
      exact same (names s j i (key_of_lookup found') (of_decide_eq_true other))

theorem update_self {p : ρ → Bool} (same : ∀ s, f.set s = s) : t.update p f = t := by
  apply Table.ext
  show t.rows.map _ = t.rows
  rw [List.map_congr_left (g := id) fun s _ => ?_, List.map_id]
  rw [same, ite_self]
  rfl

theorem lookup_delete (t : Table ρ) (p : ρ → Bool) (k : Key ρ) :
    (t.delete p).lookup k = (t.lookup k).filter fun s => !p s := by
  ext s
  rw [Option.filter_eq_some_iff, lookup_eq_some, lookup_eq_some]
  show s ∈ t.rows.filter _ ∧ _ ↔ _
  rw [List.mem_filter]
  exact and_right_comm

theorem content_delete (names : Names key) {p : ρ → Bool}
    (under : ∀ s, p s = true ↔ key i ∈ keys s) :
    content key view (t.delete p) = Function.update (content key view t) i none := by
  funext j
  unfold content
  rw [lookup_delete, Function.update_apply]
  cases found : t.lookup (key j) with
  | none => split <;> rfl
  | some s =>
    by_cases same : j = i
    · rw [if_pos same, Option.filter_some, (under s).2 (same ▸ key_of_lookup found)]
      rfl
    · have kept : p s = false := by
        apply Bool.eq_false_of_not_eq_true
        intro deleted
        exact same (names s j i (key_of_lookup found) ((under s).1 deleted))
      rw [if_neg same, Option.filter_some, kept]
      rfl

end Table

end Relational
