import Mathlib.Data.List.Sort

/-!
# Tables with unique keys

A `Schema` says which unique keys a row has (its primary key and the unique indexes it takes part
in) and which CHECK constraint it must satisfy. A `Table` is a list of rows, in the order in which
they are stored, that carries both facts: no two rows share a key, and every row is checked. Rows
are inserted, updated by a SET clause that keeps keys and constraint (`Assign`), and deleted.

`lookup` finds the row of a key; `lookup_insert` and `lookup_update` say how a statement changes what
it finds. `sortOn` is an ORDER BY clause whose ties are broken by a rank; `exists_sortOn_eq` says at
which place of the result a row stands.
-/

namespace Relational

/-- The unique keys and the CHECK constraint of a row. -/
class Schema (ρ : Type) where
  Key : Type
  decEqKey : DecidableEq Key
  keys : ρ → List Key
  check : ρ → Bool

instance {ρ : Type} [Schema ρ] : DecidableEq (Schema.Key ρ) := Schema.decEqKey

instance {ρ : Type} [Schema ρ] : LawfulBEq (Schema.Key ρ) := inferInstance

open Schema (keys check Key)

variable {ρ : Type} [Schema ρ]

/-- A SET clause: it leaves the unique keys of a row alone and keeps the CHECK constraint. -/
structure Assign (ρ : Type) [Schema ρ] where
  set : ρ → ρ
  keys_set : ∀ r, keys (set r) = keys r
  check_set : ∀ r, check r = true → check (set r) = true

/-- A list of rows that share no key and satisfy the CHECK constraint. -/
@[ext] structure Table (ρ : Type) [Schema ρ] where
  rows : List ρ
  unique : rows.Pairwise fun r s => ∀ k ∈ keys r, k ∉ keys s
  checked : ∀ r ∈ rows, check r = true

/-- Why a row is not inserted. -/
inductive Violation where
  | unique
  | check
  deriving DecidableEq

namespace Table

/-- The table without rows. -/
def empty : Table ρ := ⟨[], .nil, by simp⟩

instance : Inhabited (Table ρ) := ⟨empty⟩

/-- The table with one row. -/
def single (r : ρ) (valid : check r = true) : Table ρ :=
  ⟨[r], List.pairwise_singleton _ _, by simpa using valid⟩

/-- The row that has the key `k`. -/
def lookup (t : Table ρ) (k : Key ρ) : Option ρ :=
  t.rows.find? fun r => k ∈ keys r

/-- The rows satisfying a WHERE clause, in the order in which they are stored. -/
def select (t : Table ρ) (p : ρ → Bool) : List ρ := t.rows.filter p

/-- Set the rows satisfying `p`. -/
def update (t : Table ρ) (p : ρ → Bool) (f : Assign ρ) : Table ρ where
  rows := t.rows.map fun r => if p r then f.set r else r
  unique := by
    refine List.pairwise_map.2 (t.unique.imp fun {r s} h => ?_)
    have same : ∀ r, keys (if p r then f.set r else r) = keys r := by
      intro r
      split
      · exact f.keys_set r
      · rfl
    rw [same, same]
    exact h
  checked := by
    intro r hr
    obtain ⟨s, hs, rfl⟩ := List.mem_map.1 hr
    split
    · exact f.check_set s (t.checked s hs)
    · exact t.checked s hs

/-- Delete the rows satisfying `p`. -/
def delete (t : Table ρ) (p : ρ → Bool) : Table ρ where
  rows := t.rows.filter fun r => !p r
  unique := t.unique.filter _
  checked := fun r hr => t.checked r (List.mem_of_mem_filter hr)

/-- Store a row, unless it violates its CHECK constraint or one of its keys is taken. -/
def insert (t : Table ρ) (r : ρ) : Except Violation (Table ρ) :=
  if valid : check r = true then
    if free : ∀ k ∈ keys r, ∀ s ∈ t.rows, k ∉ keys s then
      .ok
        { rows := t.rows ++ [r]
          unique := by
            refine List.pairwise_append.2 ⟨t.unique, List.pairwise_singleton _ _, ?_⟩
            intro s hs r' hr' k hk
            obtain rfl := List.mem_singleton.1 hr'
            exact fun hk' => free k hk' s hs hk
          checked := by
            intro s hs
            rcases List.mem_append.1 hs with hs | hs
            · exact t.checked s hs
            · obtain rfl := List.mem_singleton.1 hs
              exact valid }
    else .error .unique
  else .error .check

/-! ## Looking rows up -/

variable {t t' : Table ρ} {r s : ρ} {k : Key ρ} {p : ρ → Bool} {f : Assign ρ}

theorem eq_of_mem_keys (hr : r ∈ t.rows) (hs : s ∈ t.rows) (hkr : k ∈ keys r) (hks : k ∈ keys s) :
    r = s := by
  have same : ∀ r ∈ t.rows, ∀ s ∈ t.rows, k ∈ keys r → k ∈ keys s → r = s := by
    refine List.Pairwise.forall_of_forall_of_flip (fun _ _ _ _ => rfl) ?_ ?_
    · exact t.unique.imp fun h hkr hks => absurd hks (h k hkr)
    · exact t.unique.imp fun h hks hkr => absurd hks (h k hkr)
  exact same r hr s hs hkr hks

theorem lookup_eq_some : t.lookup k = some r ↔ r ∈ t.rows ∧ k ∈ keys r := by
  constructor
  · intro h
    exact ⟨List.mem_of_find?_eq_some h, by simpa using List.find?_some h⟩
  · rintro ⟨hr, hk⟩
    rcases found : t.lookup k with _ | s
    · have := List.find?_eq_none.1 found r hr
      simp [hk] at this
    · have hs := List.mem_of_find?_eq_some found
      have hks : k ∈ keys s := by simpa using List.find?_some found
      rw [eq_of_mem_keys hs hr hks hk]

theorem lookup_eq_none : t.lookup k = none ↔ ∀ r ∈ t.rows, k ∉ keys r := by
  simp [lookup]

theorem lookup_of_mem (hr : r ∈ t.rows) (hk : k ∈ keys r) : t.lookup k = some r :=
  lookup_eq_some.2 ⟨hr, hk⟩

theorem mem_of_lookup (h : t.lookup k = some r) : r ∈ t.rows := (lookup_eq_some.1 h).1

theorem key_of_lookup (h : t.lookup k = some r) : k ∈ keys r := (lookup_eq_some.1 h).2

@[simp] theorem lookup_empty : (empty : Table ρ).lookup k = none := rfl

@[simp] theorem mem_select : r ∈ t.select p ↔ r ∈ t.rows ∧ p r = true := List.mem_filter

/-- An update sets the row it finds when the WHERE clause admits it. -/
theorem lookup_update (t : Table ρ) (p : ρ → Bool) (f : Assign ρ) (k : Key ρ) :
    (t.update p f).lookup k = (t.lookup k).map fun r => if p r then f.set r else r := by
  simp only [lookup, update, List.find?_map]
  congr 2
  funext r
  simp only [Function.comp]
  split
  · rw [f.keys_set]
  · rfl

theorem update_of_forall (h : ∀ r ∈ t.rows, p r = false) : t.update p f = t := by
  apply Table.ext
  show t.rows.map _ = t.rows
  rw [List.map_congr_left (g := id) fun r hr => by simp [h r hr], List.map_id]

theorem insert_eq_ok : t.insert r = .ok t' ↔
    check r = true ∧ (∀ k ∈ keys r, t.lookup k = none) ∧ t'.rows = t.rows ++ [r] := by
  have free : (∀ k ∈ keys r, t.lookup k = none) ↔ ∀ k ∈ keys r, ∀ s ∈ t.rows, k ∉ keys s := by
    simp only [lookup_eq_none]
  rw [free, insert]
  split
  next valid =>
    split
    next free =>
      simp only [Except.ok.injEq, Table.ext_iff, valid, true_and]
      exact ⟨fun h => ⟨free, h.symm⟩, fun h => h.2.symm⟩
    next taken => simp [taken]
  next invalid => simp [invalid]

theorem insert_rows (h : t.insert r = .ok t') : t'.rows = t.rows ++ [r] := (insert_eq_ok.1 h).2.2

theorem insert_fresh (h : t.insert r = .ok t') (hk : k ∈ keys r) : t.lookup k = none :=
  (insert_eq_ok.1 h).2.1 k hk

theorem insert_ok (valid : check r = true) (free : ∀ k ∈ keys r, t.lookup k = none) :
    ∃ t', t.insert r = .ok t' := by
  have free : ∀ k ∈ keys r, ∀ s ∈ t.rows, k ∉ keys s := fun k hk => lookup_eq_none.1 (free k hk)
  rw [insert, dif_pos valid, dif_pos free]
  exact ⟨_, rfl⟩

theorem insert_unique (valid : check r = true) (taken : ¬ ∀ k ∈ keys r, t.lookup k = none) :
    t.insert r = .error .unique := by
  rw [insert, dif_pos valid, dif_neg]
  exact fun free => taken fun k hk => lookup_eq_none.2 (free k hk)

theorem insert_invalid (invalid : ¬ check r = true) : t.insert r = .error .check := by
  rw [insert, dif_neg invalid]

theorem mem_insert (h : t.insert r = .ok t') : s ∈ t'.rows ↔ s ∈ t.rows ∨ s = r := by
  rw [insert_rows h, List.mem_append, List.mem_singleton]

theorem lookup_insert (h : t.insert r = .ok t') (k : Key ρ) :
    t'.lookup k = if k ∈ keys r then some r else t.lookup k := by
  split
  next hk => exact lookup_of_mem ((mem_insert h).2 (.inr rfl)) hk
  next hk =>
    ext s
    simp only [lookup_eq_some, mem_insert h]
    constructor
    · rintro ⟨hs | rfl, hks⟩
      · exact ⟨hs, hks⟩
      · exact absurd hks hk
    · rintro ⟨hs, hks⟩
      exact ⟨.inl hs, hks⟩

/-! ## What is true of all rows -/

section Forall

variable {P : ρ → Prop}

theorem forall_insert (h : t.insert r = .ok t') (old : ∀ s ∈ t.rows, P s) (new : P r) :
    ∀ s ∈ t'.rows, P s := by
  intro s hs
  rcases (mem_insert h).1 hs with hs | rfl
  · exact old s hs
  · exact new

theorem forall_update (old : ∀ s ∈ t.rows, P s) (set : ∀ s, P s → P (f.set s)) :
    ∀ s ∈ (t.update p f).rows, P s := by
  intro s hs
  obtain ⟨r, hr, rfl⟩ := List.mem_map.1 hs
  split
  · exact set r (old r hr)
  · exact old r hr

theorem forall_delete (old : ∀ s ∈ t.rows, P s) : ∀ s ∈ (t.delete p).rows, P s :=
  fun s hs => old s (List.mem_of_mem_filter hs)

end Forall

/-! ## Tables that lose no key -/

/-- What has a key keeps it, and its row keeps all its keys. -/
def Grows (t t' : Table ρ) : Prop :=
  ∀ k r, t.lookup k = some r → ∃ r', t'.lookup k = some r' ∧ keys r' = keys r

theorem Grows.refl (t : Table ρ) : Grows t t := fun _ r found => ⟨r, found, rfl⟩

theorem Grows.trans {t'' : Table ρ} (first : Grows t t') (second : Grows t' t'') : Grows t t'' := by
  intro k r found
  obtain ⟨r', found', same⟩ := first k r found
  obtain ⟨r'', found'', same'⟩ := second k r' found'
  exact ⟨r'', found'', same'.trans same⟩

theorem grows_update (t : Table ρ) (p : ρ → Bool) (f : Assign ρ) : Grows t (t.update p f) := by
  intro k r found
  refine ⟨if p r then f.set r else r, by rw [lookup_update, found]; rfl, ?_⟩
  split
  · exact f.keys_set r
  · rfl

theorem grows_insert (h : t.insert r = .ok t') : Grows t t' := by
  intro k s found
  refine ⟨s, ?_, rfl⟩
  rw [lookup_insert h, if_neg fun hk => ?_, found]
  cases found.symm.trans (insert_fresh h hk)

/-! ## Parts of a table -/

variable {own : ρ → Bool}

/-- The rows that satisfy `p` are found in any part that contains them. -/
theorem select_select (within : ∀ r, p r = true → own r = true) :
    t.select p = (t.select own).filter p := by
  rw [select, select, List.filter_filter]
  refine List.filter_congr fun r _ => ?_
  by_cases hp : p r = true <;> simp [hp, within]

/-- An update that keeps the rows of a part in it, and others out, is an update of the part. -/
theorem select_update (same : ∀ r, own (f.set r) = own r) :
    (t.update p f).select own = (t.select own).map fun r => if p r then f.set r else r := by
  simp only [select, update, List.filter_map]
  congr 1
  refine List.filter_congr fun r _ => ?_
  simp only [Function.comp]
  split
  · exact same r
  · rfl

theorem select_delete : (t.delete p).select own = (t.select own).filter fun r => !p r :=
  List.filter_comm ..

theorem delete_of_select (none : t.select p = []) : t.delete p = t := by
  refine Table.ext (List.filter_eq_self.2 fun r hr => ?_)
  have kept := List.filter_eq_nil_iff.1 none r hr
  simpa using kept

theorem select_insert (h : t.insert r = .ok t') :
    t'.select own = t.select own ++ if own r then [r] else [] := by
  rw [select, insert_rows h, List.filter_append, select]
  by_cases mine : own r = true <;> simp [mine]

theorem select_update_other (same : ∀ r, own (f.set r) = own r)
    (other : ∀ r, p r = true → own r = false) : (t.update p f).select own = t.select own := by
  rw [select_update same]
  conv_rhs => rw [← List.map_id (t.select own)]
  refine List.map_congr_left fun r hr => ?_
  have mine := (mem_select.1 hr).2
  rw [if_neg fun hp => by rw [other r hp] at mine; cases mine]
  rfl

theorem select_delete_other (other : ∀ r, p r = true → own r = false) :
    (t.delete p).select own = t.select own := by
  rw [select_delete, List.filter_eq_self]
  intro r hr
  have mine := (mem_select.1 hr).2
  by_contra hp
  rw [other r (by simpa using hp)] at mine
  cases mine

theorem select_insert_other (h : t.insert r = .ok t') (other : own r = false) :
    t'.select own = t.select own := by
  rw [select_insert h, other]
  exact List.append_nil _

/-- Two tables have the same rows in a part. -/
def Alike (own : ρ → Bool) (t t' : Table ρ) : Prop := (t.select own).Perm (t'.select own)

section Alike

variable {u u' : Table ρ}

theorem Alike.mem (h : Alike own t u) (mine : own r = true) : r ∈ t.rows ↔ r ∈ u.rows := by
  have := h.mem_iff (a := r)
  simpa [mine] using this

theorem Alike.select (h : Alike own t u) (within : ∀ r, p r = true → own r = true) :
    (t.select p).Perm (u.select p) := by
  rw [select_select within, select_select within]
  exact h.filter p

theorem Alike.lookup (h : Alike own t u) (within : ∀ r, k ∈ keys r → own r = true) :
    t.lookup k = u.lookup k := by
  ext r
  rw [lookup_eq_some, lookup_eq_some]
  constructor
  · rintro ⟨hr, hk⟩
    exact ⟨(h.mem (within r hk)).1 hr, hk⟩
  · rintro ⟨hr, hk⟩
    exact ⟨(h.mem (within r hk)).2 hr, hk⟩

theorem Alike.update (h : Alike own t u) (same : ∀ r, own (f.set r) = own r) :
    Alike own (t.update p f) (u.update p f) := by
  rw [Alike, select_update same, select_update same]
  exact h.map _

theorem Alike.delete (h : Alike own t u) : Alike own (t.delete p) (u.delete p) := by
  rw [Alike, select_delete, select_delete]
  exact h.filter _

theorem Alike.insert (h : Alike own t u) (ht : t.insert r = .ok t') (hu : u.insert r = .ok u') :
    Alike own t' u' := by
  rw [Alike, select_insert ht, select_insert hu]
  exact h.append (List.Perm.refl _)

/-- If each key of a row is free in both tables or in neither, the row is stored in both or in
neither. -/
theorem Alike.insert_iff (h : Alike own t u)
    (free : ∀ k ∈ keys r, t.lookup k = none ↔ u.lookup k = none) :
    (∃ v, t.insert r = .error v ∧ u.insert r = .error v) ∨
      ∃ t' u', t.insert r = .ok t' ∧ u.insert r = .ok u' ∧ Alike own t' u' := by
  by_cases valid : check r = true
  · by_cases all : ∀ k ∈ keys r, t.lookup k = none
    · obtain ⟨t', ht⟩ := insert_ok valid all
      obtain ⟨u', hu⟩ := insert_ok valid fun k hk => (free k hk).1 (all k hk)
      exact .inr ⟨t', u', ht, hu, h.insert ht hu⟩
    · refine .inl ⟨.unique, insert_unique valid all, insert_unique valid fun none => all ?_⟩
      exact fun k hk => (free k hk).2 (none k hk)
  · exact .inl ⟨.check, insert_invalid valid, insert_invalid valid⟩

end Alike

/-- Two tables have the same rows in a part, and a key in `K` is free in both or in neither. -/
structure AlikeOn (own : ρ → Bool) (K : Key ρ → Prop) (t u : Table ρ) : Prop where
  rows : Alike own t u
  free : ∀ k, K k → (t.lookup k = none ↔ u.lookup k = none)

namespace AlikeOn

variable {K : Key ρ → Prop} {u v : Table ρ}

theorem refl (own : ρ → Bool) (K : Key ρ → Prop) (t : Table ρ) : AlikeOn own K t t :=
  ⟨List.Perm.refl _, fun _ _ => Iff.rfl⟩

theorem symm (h : AlikeOn own K t u) : AlikeOn own K u t :=
  ⟨h.rows.symm, fun k hk => (h.free k hk).symm⟩

theorem trans (h : AlikeOn own K t u) (h' : AlikeOn own K u v) : AlikeOn own K t v :=
  ⟨h.rows.trans h'.rows, fun k hk => (h.free k hk).trans (h'.free k hk)⟩

theorem insert (h : AlikeOn own K t u) (within : ∀ k ∈ keys r, K k) :
    (∃ e, t.insert r = .error e ∧ u.insert r = .error e) ∨
      ∃ t' u', t.insert r = .ok t' ∧ u.insert r = .ok u' ∧ AlikeOn own K t' u' := by
  rcases h.rows.insert_iff fun k hk => h.free k (within k hk) with
    rejected | ⟨t', u', ht, hu, rows⟩
  · exact .inl rejected
  · refine .inr ⟨t', u', ht, hu, rows, fun k hk => ?_⟩
    rw [lookup_insert ht, lookup_insert hu]
    split
    · rfl
    · exact h.free k hk

/-- A row outside the part, with no key in `K`, makes no difference. -/
theorem insert_other (h : t.insert r = .ok t') (other : own r = false)
    (apart : ∀ k ∈ keys r, ¬ K k) : AlikeOn own K t' t := by
  refine ⟨List.Perm.of_eq (select_insert_other h other), fun k hk => ?_⟩
  rw [lookup_insert h, if_neg fun hkr => apart k hkr hk]

end AlikeOn

end Table

/-! ## Ordering -/

section Ordering

variable {α κ : Type} [LinearOrder κ]

/-- The order of an ORDER BY clause: by `key`, and by `rank` where the keys are equal. -/
def Before (key : α → κ) (rank : α → ℕ) (a b : α) : Prop :=
  key a < key b ∨ key a = key b ∧ rank a ≤ rank b

instance (key : α → κ) (rank : α → ℕ) : DecidableRel (Before key rank) :=
  fun a b => inferInstanceAs (Decidable (key a < key b ∨ key a = key b ∧ rank a ≤ rank b))

instance (key : α → κ) (rank : α → ℕ) : Std.Total (Before key rank) where
  total a b := by
    rcases lt_trichotomy (key a) (key b) with h | h | h
    · exact .inl (.inl h)
    · rcases le_total (rank a) (rank b) with hr | hr
      · exact .inl (.inr ⟨h, hr⟩)
      · exact .inr (.inr ⟨h.symm, hr⟩)
    · exact .inr (.inl h)

instance (key : α → κ) (rank : α → ℕ) : IsTrans α (Before key rank) where
  trans a b c := by
    rintro (hab | ⟨hab, rab⟩) (hbc | ⟨hbc, rbc⟩)
    · exact .inl (hab.trans hbc)
    · exact .inl (hbc ▸ hab)
    · exact .inl (hab ▸ hbc)
    · exact .inr ⟨hab.trans hbc, rab.trans rbc⟩

/-- The elements of a list in the order of their keys, ties broken by `rank`. -/
def sortOn (key : α → κ) (rank : α → ℕ) (l : List α) : List α :=
  l.insertionSort (Before key rank)

variable {key : α → κ} {rank : α → ℕ} {l l' : List α}

theorem sortOn_perm (key : α → κ) (rank : α → ℕ) (l : List α) : (sortOn key rank l).Perm l :=
  List.perm_insertionSort _ l

@[simp] theorem mem_sortOn {a : α} : a ∈ sortOn key rank l ↔ a ∈ l :=
  (sortOn_perm key rank l).mem_iff

theorem sortOn_map {f : α → α} (keeps : ∀ a, key (f a) = key a ∧ rank (f a) = rank a) :
    sortOn key rank (l.map f) = (sortOn key rank l).map f := by
  refine (List.map_insertionSort _ _ f l fun a _ b _ => ?_).symm
  unfold Before
  rw [(keeps a).1, (keeps b).1, (keeps a).2, (keeps b).2]

/-- Where key and rank tell the elements apart, only the elements decide how they are ordered. -/
theorem sortOn_congr (same : l.Perm l')
    (apart : ∀ a ∈ l, ∀ b ∈ l, key a = key b → rank a = rank b → a = b) :
    sortOn key rank l = sortOn key rank l' := by
  have sorted : ∀ l : List α, (sortOn key rank l).Pairwise (Before key rank) :=
    List.pairwise_insertionSort _
  refine List.Perm.eq_of_pairwise ?_ (sorted l) (sorted l')
    ((sortOn_perm key rank l).trans (same.trans (sortOn_perm key rank l').symm))
  intro a b ha hb hab hba
  have ha : a ∈ l := mem_sortOn.1 ha
  have hb : b ∈ l := same.mem_iff.2 (mem_sortOn.1 hb)
  rcases hab with hab | ⟨hk, hr⟩
  · rcases hba with hba | ⟨hk, _⟩
    · exact absurd hba hab.asymm
    · exact absurd hk hab.ne'
  · rcases hba with hba | ⟨_, hr'⟩
    · exact absurd hk hba.ne'
    · exact apart a ha b hb hk (hr.antisymm hr')

theorem sortOn_sorted (key : α → κ) (rank : α → ℕ) (l : List α) :
    (sortOn key rank l).Pairwise fun a b => key a ≤ key b := by
  refine (List.pairwise_insertionSort (Before key rank) l).imp ?_
  rintro a b (lt | ⟨same, -⟩)
  · exact lt.le
  · exact same.le

/-- Where the keys tell the elements apart, the rank does not matter. -/
theorem sortOn_rank (rank' : α → ℕ) (apart : ∀ a ∈ l, ∀ b ∈ l, key a = key b → a = b) :
    sortOn key rank l = sortOn key rank' l := by
  refine List.Perm.eq_of_pairwise ?_ (sortOn_sorted key rank l) (sortOn_sorted key rank' l)
    ((sortOn_perm key rank l).trans (sortOn_perm key rank' l).symm)
  intro a b ha hb hab hba
  exact apart a (mem_sortOn.1 ha) b (mem_sortOn.1 hb) (hab.antisymm hba)

/-- Strictly before, in the order of an ORDER BY clause. -/
def Ahead (key : α → κ) (rank : α → ℕ) (a b : α) : Prop :=
  key a < key b ∨ key a = key b ∧ rank a < rank b

instance (key : α → κ) (rank : α → ℕ) : DecidableRel (Ahead key rank) :=
  fun a b => inferInstanceAs (Decidable (key a < key b ∨ key a = key b ∧ rank a < rank b))

theorem not_ahead_of_before {a b : α} (before : Before key rank a b) : ¬ Ahead key rank b a := by
  rintro (lt | ⟨same, lt⟩)
  · rcases before with before | ⟨same, _⟩
    · exact lt.asymm before
    · exact lt.ne' same
  · rcases before with before | ⟨_, le⟩
    · exact before.ne' same
    · omega

/-- An element comes after as many others as there are ahead of it. -/
theorem exists_sortOn_eq {a : α} (mem : a ∈ l)
    (apart : ∀ b ∈ l, key b = key a → rank b = rank a → b = a) :
    ∃ pre post, sortOn key rank l = pre ++ a :: post ∧
      pre.length = l.countP fun b => Ahead key rank b a := by
  have listed : a ∈ sortOn key rank l := mem_sortOn.2 mem
  obtain ⟨pre, post, split, first⟩ := List.eq_append_cons_of_mem listed
  have sorted : (pre ++ a :: post).Pairwise (Before key rank) :=
    split ▸ List.pairwise_insertionSort _ _
  obtain ⟨-, later, earlier⟩ := List.pairwise_append.1 sorted
  refine ⟨pre, post, split, ?_⟩
  have inFront : pre.countP (fun b => Ahead key rank b a) = pre.length := by
    rw [List.countP_eq_length]
    intro b hb
    have hl : b ∈ l := mem_sortOn.1 (split ▸ List.mem_append_left _ hb)
    rcases earlier b hb a List.mem_cons_self with lt | ⟨same, le⟩
    · exact decide_eq_true (.inl lt)
    · refine decide_eq_true (.inr ⟨same, lt_of_le_of_ne le fun tie => first ?_⟩)
      exact apart b hl same tie ▸ hb
  have behind : (a :: post).countP (fun b => Ahead key rank b a) = 0 := by
    rw [List.countP_eq_zero]
    intro b hb
    rw [decide_eq_true_eq]
    rcases List.mem_cons.1 hb with rfl | hb
    · rintro (lt | ⟨-, lt⟩)
      · exact lt.false
      · exact lt.false
    · have after : Before key rank a b := (List.pairwise_cons.1 later).1 b hb
      exact not_ahead_of_before after
  rw [← (sortOn_perm key rank l).countP_eq, split, List.countP_append, inFront, behind,
    Nat.add_zero]

end Ordering

end Relational
