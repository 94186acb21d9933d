import Mathlib.Data.List.Basic

/-!
# Copies of a source

A source goes from one version to the next. Threads keep a copy of it: each fetches the version
that the source has then, and later installs it. A thread that is slow may install a version after a
newer one has been installed; `inOrder_iff` says that versions are installed in order exactly if no
thread is overtaken between its fetch and its installation.
-/

namespace Refresh

/-- What a thread does: fetch a version, or install the one that it has fetched. -/
inductive Step where
  | fetch (i version : ℕ)
  | install (i : ℕ)

variable {ts us : List Step}

/-- The source only goes forward, and a thread installs the only version that it has fetched. -/
structure Valid (ts : List Step) : Prop where
  forward : ∀ a i m b j n c, ts = a ++ .fetch i m :: b ++ .fetch j n :: c → m ≤ n
  once : ∀ i m n, .fetch i m ∈ ts → .fetch i n ∈ ts → m = n
  fetched : ∀ a i b, ts = a ++ .install i :: b → ∃ m, .fetch i m ∈ a

/-- Versions are installed in the order in which the source has had them. -/
def InOrder (ts : List Step) : Prop :=
  ∀ a i b j c, ts = a ++ .install i :: b ++ .install j :: c →
    ∀ m n, .fetch i m ∈ ts → .fetch j n ∈ ts → m ≤ n

/-- No newer version is installed between a thread's fetch and its installation. -/
def NotOvertaken (ts : List Step) : Prop :=
  ∀ a i m b c, ts = a ++ .fetch i m :: b ++ .install i :: c →
    ∀ j n, .install j ∈ b → .fetch j n ∈ ts → n ≤ m

/-- Versions are installed in order if and only if no thread is overtaken. -/
theorem inOrder_iff (valid : Valid ts) : InOrder ts ↔ NotOvertaken ts := by
  constructor
  · rintro ordered a i m b c rfl j n between fetched
    obtain ⟨b₁, b₂, rfl⟩ := List.append_of_mem between
    have mine :
        Step.fetch i m ∈ a ++ .fetch i m :: (b₁ ++ .install j :: b₂) ++ .install i :: c := by
      simp
    exact ordered (a ++ .fetch i m :: b₁) j b₂ i c (by simp) n m fetched mine
  · intro alone a i b j c split m n first second
    obtain ⟨n', before⟩ := valid.fetched (a ++ .install i :: b) j c split
    have same : n' = n := valid.once j n' n (split ▸ List.mem_append_left _ before) second
    subst same
    rcases List.mem_append.1 before with before | between
    · -- the second was fetched before the first was installed
      obtain ⟨a₁, a₂, rfl⟩ := List.append_of_mem before
      refine alone a₁ j n' (a₂ ++ .install i :: b) c ?_ i m (by simp) first
      rw [split]
      simp
    · -- and otherwise the source has gone forward
      obtain ⟨m', earlier⟩ := valid.fetched a i (b ++ .install j :: c) (by rw [split]; simp)
      have same : m' = m := valid.once i m' m (split ▸ by simp [earlier]) first
      subst same
      have between : Step.fetch j n' ∈ b := (List.mem_cons.1 between).resolve_left nofun
      obtain ⟨a₁, a₂, rfl⟩ := List.append_of_mem earlier
      obtain ⟨b₁, b₂, rfl⟩ := List.append_of_mem between
      refine valid.forward a₁ i m' (a₂ ++ .install i :: b₁) j n' (b₂ ++ .install j :: c) ?_
      rw [split]
      simp

theorem InOrder.append_left (ordered : InOrder (ts ++ us)) : InOrder ts := by
  rintro a i b j c rfl m n first second
  refine ordered a i b j (c ++ us) (by simp) m n ?_ ?_
  · exact List.mem_append_left _ first
  · exact List.mem_append_left _ second

end Refresh
