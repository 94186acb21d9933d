import Mathlib.Data.List.Perm.Subperm
import Estafeta.Lib.Pool

/-!
# Histories of a run

Where the events of a history stand: the world at a position (`worldAt`), what each thread has done
(`doneBy`), and how often events of a kind occur. `Run.recorded` says that what a thread has done is
what the monitor of its call records, and `Watched.balance` compares two kinds of events thread by
thread.
-/

namespace Atomic

section

variable {C Op W χ ε α σ : Type} {Ans : Op → Type}

/-! ## Positions -/

/-- The world before the event at a position of a history, or the last one. -/
def worldAt (es : List (Event C Op Ans W χ)) (w : W) (n : ℕ) : W :=
  (es[n]?.map Event.before).getD w

theorem worldAt_of_getElem? {es : List (Event C Op Ans W χ)} {w : W} {n : ℕ} {e : Event C Op Ans W χ}
    (h : es[n]? = some e) : worldAt es w n = e.before := by
  simp [worldAt, h]

theorem worldAt_mem (es : List (Event C Op Ans W χ)) (w : W) (n : ℕ) :
    worldAt es w n ∈ es.map Event.before ++ [w] := by
  unfold worldAt
  rcases h : es[n]? with _ | e
  · simp
  · exact List.mem_append_left _ (List.mem_map.2 ⟨e, List.mem_of_getElem? h, rfl⟩)

/-- What has the same value at every event of a history has it at every moment. -/
theorem worldAt_constant {es : List (Event C Op Ans W χ)} {w : W} {β : Type*} {f : W → β} {b : β}
    {m : ℕ} (same : (es.map Event.before ++ [w]).map f = List.replicate m b) (n : ℕ) :
    f (worldAt es w n) = b := by
  apply List.eq_of_mem_replicate (n := m)
  rw [← same]
  exact List.mem_map.2 ⟨_, worldAt_mem es w n, rfl⟩

/-- Two places in a list: the one is before the other, or they are the same. -/
theorem split_cases {β : Type} {a b c d : List β} {x y : β} (h : a ++ x :: b = c ++ y :: d) :
    (∃ m, c = a ++ x :: m ∧ b = m ++ y :: d) ∨ (a = c ∧ x = y ∧ b = d) ∨
      ∃ m, a = c ++ y :: m ∧ d = m ++ x :: b := by
  rcases List.append_eq_append_iff.1 h with ⟨m, rfl, rest⟩ | ⟨m, rfl, rest⟩
  · rcases List.cons_eq_append_iff.1 rest with ⟨rfl, rest⟩ | ⟨m, rfl, rest⟩
    · cases rest
      exact .inr (.inl ⟨by simp, rfl, rfl⟩)
    · exact .inl ⟨m, rfl, (List.cons.inj rest).2⟩
  · rcases List.cons_eq_append_iff.1 rest with ⟨rfl, rest⟩ | ⟨m, rfl, rest⟩
    · cases rest
      exact .inr (.inl ⟨by simp, rfl, rfl⟩)
    · exact .inr (.inr ⟨m, rfl, (List.cons.inj rest).2⟩)

/-! ## What each thread has done -/

/-- The interaction of an event. -/
def Event.done (e : Event C Op Ans W χ) : Σ o, Ans o := ⟨e.op, e.ans⟩

/-- The interactions of a thread. -/
def doneBy (es : List (Event C Op Ans W χ)) (i : ℕ) : List (Σ o, Ans o) :=
  (es.filter fun e => e.tid = i).map Event.done

theorem doneBy_append (es es' : List (Event C Op Ans W χ)) (i : ℕ) :
    doneBy (es ++ es') i = doneBy es i ++ doneBy es' i := by
  simp [doneBy]

theorem doneBy_own {e : Event C Op Ans W χ} {i : ℕ} (own : e.tid = i) : doneBy [e] i = [e.done] := by
  simp [doneBy, own]

theorem doneBy_other {e : Event C Op Ans W χ} {i : ℕ} (other : e.tid ≠ i) : doneBy [e] i = [] := by
  simp [doneBy, other]

theorem mem_doneBy {es : List (Event C Op Ans W χ)} {i : ℕ} {a : Σ o, Ans o} :
    a ∈ doneBy es i ↔ ∃ e ∈ es, e.tid = i ∧ e.done = a := by
  simp [doneBy, and_assoc]

/-- An interaction of a thread is that of an event, which comes after the thread's earlier ones and
before its later ones. -/
theorem doneBy_split {es : List (Event C Op Ans W χ)} {i : ℕ} {h t : List (Σ o, Ans o)}
    {a : Σ o, Ans o} (same : doneBy es i = h ++ a :: t) :
    ∃ pre e post, es = pre ++ e :: post ∧ e.tid = i ∧ e.done = a ∧ doneBy pre i = h ∧
      doneBy post i = t := by
  induction es generalizing h with
  | nil => simp [doneBy] at same
  | cons e es ih =>
    by_cases own : e.tid = i
    · have head : doneBy (e :: es) i = e.done :: doneBy es i := by simp [doneBy, own]
      rw [head] at same
      rcases h with _ | ⟨b, h⟩
      · cases same
        exact ⟨[], e, es, rfl, own, rfl, rfl, rfl⟩
      · obtain ⟨rfl, rest⟩ := List.cons.inj same
        obtain ⟨pre, e', post, rfl, own', done, before, after⟩ := ih rest
        refine ⟨e :: pre, e', post, rfl, own', done, ?_, after⟩
        rw [← before]
        simp [doneBy, own]
    · have skip : ∀ l, doneBy (e :: l) i = doneBy l i := by simp [doneBy, own]
      obtain ⟨pre, e', post, rfl, own', done, before, after⟩ := ih ((skip es).symm.trans same)
      exact ⟨e :: pre, e', post, rfl, own', done, (skip pre).trans before, after⟩

theorem doneBy_position {es : List (Event C Op Ans W χ)} {i s : ℕ} {h t : List (Σ o, Ans o)}
    {a : Σ o, Ans o} (same : doneBy (es.drop s) i = h ++ a :: t) :
    ∃ n e, s ≤ n ∧ es[n]? = some e ∧ e.tid = i ∧ e.done = a ∧ doneBy (es.drop (n + 1)) i = t := by
  obtain ⟨pre, e, post, split, own, done, _, rest⟩ := doneBy_split same
  refine ⟨s + pre.length, e, by omega, ?_, own, done, ?_⟩
  · rw [← List.getElem?_drop, split]
    simp
  · rw [Nat.add_assoc, ← List.drop_drop, split]
    simpa using rest

/-- What the threads of a run have done is what their calls' monitors record, so that each operation
was permitted after the thread's earlier ones, and so are those that are left. -/
theorem System.Run.recorded {sys : System C Op Ans W χ ε α}
    {P : C → List (Σ o, Ans o) → Op → Prop} {E : C → List (Σ o, Ans o) → ε → Prop}
    {Q : C → List (Σ o, Ans o) → α → Prop} {w₀ : W} {es : List (Event C Op Ans W χ)}
    {p : Pool C Op Ans W ε α}
    (obeys : ∀ c, (sys.body c).Obeys (.recording (P c)) (E c) (Q c) [])
    (run : sys.Run (Pool.idle w₀) es p) :
    Along (fun pre e => P e.call (doneBy pre e.tid) e.op) es ∧
      (∀ i, p.threads i = none → doneBy es i = []) ∧
      ∀ i c k, p.threads i = some (c, k) → k.Obeys (.recording (P c)) (E c) (Q c) (doneBy es i) := by
  induction run with
  | init => exact ⟨along_nil, fun _ _ => rfl, fun i c k h => by cases h⟩
  | @start es p j d _ free ih =>
    obtain ⟨along, idle, left⟩ := ih
    refine ⟨along, fun i h => idle i ?_, fun i c k h => ?_⟩
    · by_cases same : i = j
      · exact same ▸ free
      · simpa only [System.started, Function.update_of_ne same] using h
    · by_cases same : i = j
      · subst same
        simp only [System.started, Function.update_self, Option.some.injEq, Prod.mk.injEq] at h
        obtain ⟨rfl, rfl⟩ := h
        exact (idle i free).symm ▸ obeys d
      · exact left i c k (by simpa only [System.started, Function.update_of_ne same] using h)
  | @step es p j d o l x _ at_call ih =>
    obtain ⟨along, idle, left⟩ := ih
    obtain ⟨permitted, rest⟩ := left j d _ at_call
    refine ⟨along_snoc.2 ⟨along, permitted⟩, fun i h => ?_, fun i c k h => ?_⟩
    · by_cases same : i = j
      · simp [System.stepped, same] at h
      · rw [doneBy_append, doneBy_other (e := sys.event j d o x p.world) (Ne.symm same),
          List.append_nil]
        exact idle i (by simpa only [System.stepped, Function.update_of_ne same] using h)
    · by_cases same : i = j
      · subst same
        simp only [System.stepped, Function.update_self, Option.some.injEq, Prod.mk.injEq] at h
        obtain ⟨rfl, rfl⟩ := h
        rw [doneBy_append, doneBy_own (e := sys.event i d o x p.world) (i := i) rfl]
        exact rest _
      · rw [doneBy_append, doneBy_other (e := sys.event j d o x p.world) (Ne.symm same),
          List.append_nil]
        exact left i c k (by simpa only [System.stepped, Function.update_of_ne same] using h)

theorem System.Run.ended {sys : System C Op Ans W χ ε α} {p₀ p : Pool C Op Ans W ε α}
    {es : List (Event C Op Ans W χ)} {i : ℕ} {c : C} {k : Prog Op Ans ε α} (done : k.Done)
    (run : sys.Run p₀ es p) (thread : p₀.threads i = some (c, k)) :
    p.threads i = some (c, k) ∧ ∀ e ∈ es, e.tid ≠ i := by
  induction run with
  | init => exact ⟨thread, by simp⟩
  | @start es p j d _ free ih =>
    obtain ⟨thread', earlier⟩ := ih
    refine ⟨(Function.update_of_ne ?_ ..).trans thread', earlier⟩
    rintro rfl
    cases free.symm.trans thread'
  | @step es p j d o l x _ at_call ih =>
    obtain ⟨thread', earlier⟩ := ih
    by_cases same : i = j
    · subst same
      cases at_call.symm.trans thread'
      exact done.elim
    · refine ⟨(Function.update_of_ne same ..).trans thread', fun e he => ?_⟩
      rcases List.mem_append.1 he with he | he
      · exact earlier e he
      · obtain rfl := List.mem_singleton.1 he
        exact Ne.symm same

/-! ## Counting events -/

theorem countP_snoc (p : Event C Op Ans W χ → Bool) (es : List (Event C Op Ans W χ))
    (e : Event C Op Ans W χ) : (es ++ [e]).countP p = es.countP p + (p e).toNat := by
  rw [List.countP_append, List.countP_singleton]
  cases p e <;> rfl

theorem Watched.countP_unstarted {sys : System C Op Ans W χ ε α} {m : C → Monitor Op Ans σ}
    {s₀ : C → σ} {w₀ w : W} {es : List (Event C Op Ans W χ)} {g : ℕ → Option (C × σ)} {i : ℕ}
    (run : Watched sys m s₀ w₀ es w g) (free : g i = none) (p : Event C Op Ans W χ → Bool) :
    es.countP (fun e => p e && e.tid = i) = 0 := by
  refine List.countP_eq_zero.2 fun e he both => ?_
  obtain ⟨_, started⟩ := run.started e he
  simp only [Bool.and_eq_true, decide_eq_true_eq] at both
  rw [both.2, free] at started
  cases started

/-- Events that are no more frequent than others in every thread are no more frequent. -/
theorem countP_le_of_threads {p q : Event C Op Ans W χ → Bool} {es : List (Event C Op Ans W χ)}
    (h : ∀ i, es.countP (fun e => p e && e.tid = i) ≤ es.countP (fun e => q e && e.tid = i)) :
    es.countP p ≤ es.countP q := by
  have part : ∀ (p : Event C Op Ans W χ → Bool) i,
      ((es.filter p).map (·.tid)).count i = es.countP fun e => p e && e.tid = i := by
    intro p i
    rw [List.count, List.countP_map, List.countP_filter]
    refine List.countP_congr fun e _ => ?_
    simp [and_comm]
  have fewer : ((es.filter p).map (·.tid)).Subperm ((es.filter q).map (·.tid)) := by
    rw [List.subperm_iff_count]
    intro i
    rw [part, part]
    exact h i
  simpa [List.countP_eq_length_filter] using fewer.length_le

theorem countP_eq_of_threads {p q : Event C Op Ans W χ → Bool} {es : List (Event C Op Ans W χ)}
    (h : ∀ i, es.countP (fun e => p e && e.tid = i) = es.countP (fun e => q e && e.tid = i)) :
    es.countP p = es.countP q :=
  Nat.le_antisymm (countP_le_of_threads fun i => Nat.le_of_eq (h i))
    (countP_le_of_threads fun i => Nat.le_of_eq (h i).symm)

/-- The threads of a run keep a balance: events of one kind and what is left to do (`a`) are covered by
events of another kind and what is owed (`b`), if that is so when a thread starts and each of its own
operations keeps it so. -/
theorem Watched.balance {sys : System C Op Ans W χ ε α} {m : C → Monitor Op Ans σ} {s₀ : C → σ}
    {w₀ w : W} {es : List (Event C Op Ans W χ)} {g : ℕ → Option (C × σ)}
    (p q : Event C Op Ans W χ → Bool) (a b : σ → ℕ) (start : ∀ c, a (s₀ c) ≤ b (s₀ c))
    (step : ∀ es' w g i c s o x, es' ++ [sys.event i c o x w] <+: es →
      Watched sys m s₀ w₀ es' w g → g i = some (c, s) → (m c).may s o →
      (p (sys.event i c o x w)).toNat + a ((m c).next s o (sys.exec x o w).1) + b s ≤
        (q (sys.event i c o x w)).toNat + b ((m c).next s o (sys.exec x o w).1) + a s)
    (run : Watched sys m s₀ w₀ es w g) : ∀ i c s, g i = some (c, s) →
      es.countP (fun e => p e && e.tid = i) + a s ≤ es.countP (fun e => q e && e.tid = i) + b s := by
  intro i c s thread
  refine run.local (fun es' _ i _ s => es' <+: es →
    es'.countP (fun e => p e && e.tid = i) + a s ≤ es'.countP (fun e => q e && e.tid = i) + b s)
    ?_ ?_ ?_ i c s thread (List.prefix_refl es)
  · intro es' w g i c run free _
    rw [run.countP_unstarted free, run.countP_unstarted free]
    simpa using start c
  · intro es' w g i c s o x run at_call permitted earlier short
    have earlier := earlier ((List.prefix_append ..).trans short)
    have kept := step es' w g i c s o x short run at_call permitted
    simp only [countP_snoc]
    simp only [System.event, decide_true, Bool.and_true] at kept ⊢
    omega
  · intro es' w g i c s j c' s' o x _ _ ne _ _ earlier short
    have earlier := earlier ((List.prefix_append ..).trans short)
    simp only [countP_snoc]
    simpa [System.event, ne] using earlier

/-- Events that are no more frequent than others in every thread that has started are no more
frequent. -/
theorem Watched.countP_le {sys : System C Op Ans W χ ε α} {m : C → Monitor Op Ans σ} {s₀ : C → σ}
    {w₀ w : W} {es : List (Event C Op Ans W χ)} {g : ℕ → Option (C × σ)}
    {p q : Event C Op Ans W χ → Bool} (run : Watched sys m s₀ w₀ es w g)
    (fewer : ∀ i c s, g i = some (c, s) →
      es.countP (fun e => p e && e.tid = i) ≤ es.countP (fun e => q e && e.tid = i)) :
    es.countP p ≤ es.countP q := by
  refine countP_le_of_threads fun i => ?_
  rcases thread : g i with _ | ⟨c, s⟩
  · rw [run.countP_unstarted thread p]
    exact Nat.zero_le _
  · exact fewer i c s thread

end

end Atomic
