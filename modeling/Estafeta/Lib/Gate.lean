import Estafeta.Lib.History

/-!
# Gates

A gate is a system whose calls end with a value or with a call of another system, which goes on in
the same thread (`System.behind`). The operations of the two are interleaved, but neither touches the
world of the other: a run of the whole is a run of the gate and a run of the system behind it, in
which only the calls that the gate has admitted are started (`Run.sides`). What holds of every run of
either so holds of its side of the whole.
-/

namespace Atomic

/-- The same program over other operations, which are answered alike. -/
def Prog.relabel {Op Op' : Type} {Ans' : Op' → Type} {ε α : Type} (f : Op → Op') :
    Prog Op (fun o => Ans' (f o)) ε α → Prog Op' Ans' ε α
  | .ret a => .ret a
  | .fail e => .fail e
  | .call o k => .call (f o) fun a => (k a).relabel f

/-- The same event, without the call that it is of. -/
def Event.anonymous {C Op W χ : Type} {Ans : Op → Type} (e : Event C Op Ans W χ) :
    Event Unit Op Ans W χ :=
  { e with call := () }

variable {C D Op Op' W V χ χ' ε α : Type} {Ans : Op → Type} {Ans' : Op' → Type}

/-- The event, if it is one of the gate. -/
def Event.fore : Event D (Op' ⊕ Op) (Sum.elim Ans' Ans) (V × W) (χ' × χ) →
    Option (Event D Op' Ans' V χ')
  | ⟨i, d, .inl o, x, a, w, w'⟩ => some ⟨i, d, o, x.1, a, w.1, w'.1⟩
  | ⟨_, _, .inr _, _, _, _, _⟩ => none

/-- The event, if it is one behind the gate. -/
def Event.hind : Event D (Op' ⊕ Op) (Sum.elim Ans' Ans) (V × W) (χ' × χ) →
    Option (Event Unit Op Ans W χ)
  | ⟨_, _, .inl _, _, _, _, _⟩ => none
  | ⟨i, _, .inr o, x, a, w, w'⟩ => some ⟨i, (), o, x.2, a, w.2, w'.2⟩

theorem Event.tid_of_hind {e : Event D (Op' ⊕ Op) (Sum.elim Ans' Ans) (V × W) (χ' × χ)}
    {b : Event Unit Op Ans W χ} (hind : e.hind = some b) : b.tid = e.tid := by
  obtain ⟨i, d, o, x, a, w, w'⟩ := e
  cases o with
  | inl o => cases hind
  | inr o =>
    cases hind
    rfl

namespace System

/-- What the gate has led to goes on behind it. -/
def onward (sys : System C Op Ans W χ ε α) :
    α ⊕ C → Prog (Op' ⊕ Op) (Sum.elim Ans' Ans) ε α
  | .inl a => .ret a
  | .inr c => (sys.body c).relabel .inr

/-- A system behind a gate. -/
def behind (gate : System D Op' Ans' V χ' ε (α ⊕ C)) (sys : System C Op Ans W χ ε α) :
    System D (Op' ⊕ Op) (Sum.elim Ans' Ans) (V × W) (χ' × χ) ε α where
  body d := (gate.body d).relabel .inl >>= sys.onward
  exec x o w :=
    match o with
    | .inl o => ((gate.exec x.1 o w.1).1, (gate.exec x.1 o w.1).2, w.2)
    | .inr o => ((sys.exec x.2 o w.2).1, w.1, (sys.exec x.2 o w.2).2)

/-- A thread of the whole is one of the gate, or has been admitted and is one of the system. -/
inductive Split (sys : System C Op Ans W χ ε α) :
    Option (D × Prog (Op' ⊕ Op) (Sum.elim Ans' Ans) ε α) → Option (D × Prog Op' Ans' ε (α ⊕ C)) →
      Option (C × Prog Op Ans ε α) → Prop where
  | idle : Split sys none none none
  | fore {d k} : (∀ c, k ≠ .ret (.inr c)) →
    Split sys (some (d, k.relabel .inl >>= sys.onward)) (some (d, k)) none
  | hind {d c k} : Split sys (some (d, k.relabel .inr)) (some (d, .ret (.inr c))) (some (c, k))

/-- The sides of a run: a run of the gate, and one of the system behind it. -/
structure Sides (gate : System D Op' Ans' V χ' ε (α ⊕ C)) (sys : System C Op Ans W χ ε α) (v₀ : V)
    (w₀ : W) (es : List (Event D (Op' ⊕ Op) (Sum.elim Ans' Ans) (V × W) (χ' × χ)))
    (p : Pool D (Op' ⊕ Op) (Sum.elim Ans' Ans) (V × W) ε α)
    (fs : List (Event D Op' Ans' V χ')) (g : Pool D Op' Ans' V ε (α ⊕ C))
    (bs : List (Event C Op Ans W χ)) (q : Pool C Op Ans W ε α) : Prop where
  fore : gate.Run (Pool.idle v₀) fs g
  hind : sys.Run (Pool.idle w₀) bs q
  world : p.world = (g.world, q.world)
  threads : ∀ i, Split sys (p.threads i) (g.threads i) (q.threads i)
  fores : fs = es.filterMap Event.fore
  hinds : bs.map Event.anonymous = es.filterMap Event.hind

section

variable {gate : System D Op' Ans' V χ' ε (α ⊕ C)} {sys : System C Op Ans W χ ε α} {v₀ : V} {w₀ : W}
  {es : List (Event D (Op' ⊕ Op) (Sum.elim Ans' Ans) (V × W) (χ' × χ))}
  {p : Pool D (Op' ⊕ Op) (Sum.elim Ans' Ans) (V × W) ε α}
  {fs : List (Event D Op' Ans' V χ')} {g : Pool D Op' Ans' V ε (α ⊕ C)}
  {bs : List (Event C Op Ans W χ)} {q : Pool C Op Ans W ε α}

theorem Split.enter {i : ℕ} {d : D} {k : Prog Op' Ans' ε (α ⊕ C)}
    (run : sys.Run (Pool.idle w₀) bs q) (free : q.threads i = none) :
    ∃ q', sys.Run (Pool.idle w₀) bs q' ∧ q'.world = q.world ∧
      (∀ j, j ≠ i → q'.threads j = q.threads j) ∧
      Split sys (some (d, k.relabel .inl >>= sys.onward)) (some (d, k)) (q'.threads i) := by
  by_cases admitted : ∃ c, k = .ret (.inr c)
  · obtain ⟨c, rfl⟩ := admitted
    refine ⟨sys.started q i c, run.start c free, rfl, fun j other => ?_, ?_⟩
    · exact Function.update_of_ne other ..
    · simp only [started, Function.update_self]
      exact .hind
  · exact ⟨q, run, rfl, fun _ _ => rfl, free ▸ .fore fun c same => admitted ⟨c, same⟩⟩

/-- A run of a system behind a gate is a run of the gate and a run of the system. -/
theorem Run.sides (run : (gate.behind sys).Run (Pool.idle (v₀, w₀)) es p) :
    ∃ fs g bs q, Sides gate sys v₀ w₀ es p fs g bs q := by
  induction run with
  | init => exact ⟨[], Pool.idle v₀, [], Pool.idle w₀, .init, .init, rfl, fun _ => .idle, rfl, rfl⟩
  | @start es p i d _ free ih =>
    obtain ⟨fs, g, bs, q, sides⟩ := ih
    have split := sides.threads i
    rw [free] at split
    obtain ⟨idle, idle'⟩ : g.threads i = none ∧ q.threads i = none := by
      generalize g.threads i = a, q.threads i = b at split
      cases split
      exact ⟨rfl, rfl⟩
    obtain ⟨q', hind, world, others, split⟩ := Split.enter (d := d) (k := gate.body d) sides.hind idle'
    refine ⟨fs, gate.started g i d, bs, q', sides.fore.start d idle, hind, ?_, fun j => ?_,
      sides.fores, sides.hinds⟩
    · rw [world]
      exact sides.world
    · by_cases same : j = i
      · subst same
        simp only [System.started, Function.update_self]
        exact split
      · rw [others j same]
        simpa only [System.started, Function.update_of_ne same] using sides.threads j
  | @step es p i d o l x _ at_call ih =>
    obtain ⟨fs, g, bs, q, sides⟩ := ih
    obtain ⟨w, ts⟩ := p
    obtain rfl := sides.world
    have split := sides.threads i
    rw [at_call] at split
    generalize thread : g.threads i = a, thread' : q.threads i = b, whole : Prog.call o l = k at split
    cases split with
    | @fore d k before =>
      -- the program of the gate is at the same operation
      cases k with
      | ret r =>
        cases r with
        | inl a => cases whole
        | inr c => exact absurd rfl (before c)
      | fail e => cases whole
      | call o k =>
        cases whole
        obtain ⟨q', hind, world, others, split⟩ :=
          Split.enter (d := d) (k := k (gate.exec x.1 o g.world).1) sides.hind thread'
        refine ⟨_, _, bs, q', sides.fore.step x.1 thread, hind, ?_, fun j => ?_, ?_, ?_⟩
        · rw [world]
          rfl
        · by_cases same : j = i
          · subst same
            simp only [System.stepped, Function.update_self]
            exact split
          · rw [others j same]
            simpa only [System.stepped, Function.update_of_ne same] using sides.threads j
        · rw [List.filterMap_append, ← sides.fores]
          rfl
        · rw [List.filterMap_append, ← sides.hinds]
          exact (List.append_nil _).symm
    | @hind d c k =>
      cases k with
      | ret a => cases whole
      | fail e => cases whole
      | call o k =>
        cases whole
        refine ⟨fs, g, _, _, sides.fore, sides.hind.step x.2 thread', rfl, fun j => ?_, ?_, ?_⟩
        · by_cases same : j = i
          · subst same
            simp only [System.stepped, Function.update_self, thread]
            exact .hind
          · simpa only [System.stepped, Function.update_of_ne same] using sides.threads j
        · rw [List.filterMap_append, ← sides.fores]
          exact (List.append_nil _).symm
        · rw [List.map_append, List.filterMap_append, ← sides.hinds]
          rfl

theorem Sides.admitted (sides : Sides gate sys v₀ w₀ es p fs g bs q) {i : ℕ} {c : C}
    {k : Prog Op Ans ε α} (thread : q.threads i = some (c, k)) :
    ∃ d, g.threads i = some (d, .ret (.inr c)) ∧ p.threads i = some (d, k.relabel .inr) := by
  have split := sides.threads i
  rw [thread] at split
  generalize whole : p.threads i = a, fore : g.threads i = b at split
  cases split with
  | hind => exact ⟨_, rfl, rfl⟩

/-- An operation of the whole that is not one of the gate is one of a thread of the system. -/
theorem Sides.entered (sides : Sides gate sys v₀ w₀ es p fs g bs q)
    {e : Event D (Op' ⊕ Op) (Sum.elim Ans' Ans) (V × W) (χ' × χ)} (he : e ∈ es)
    {b : Event Unit Op Ans W χ} (hind : e.hind = some b) : ∃ c k, q.threads b.tid = some (c, k) := by
  have mem : b ∈ bs.map Event.anonymous := by
    rw [sides.hinds]
    exact List.mem_filterMap.2 ⟨e, he, hind⟩
  obtain ⟨b', hb, rfl⟩ := List.mem_map.1 mem
  obtain ⟨k, thread⟩ := sides.hind.started b' hb
  exact ⟨b'.call, k, thread⟩

end

end System

section

variable {σ : Type} {E : σ → ε → Prop} {Q : σ → α → Prop}

/-- What a monitor is to the operations that are relabelled to its own. -/
def Monitor.comap (f : Op → Op') (m : Monitor Op' Ans' σ) :
    Monitor Op (fun o => Ans' (f o)) σ where
  may s o := m.may s (f o)
  next s o a := m.next s (f o) a

theorem Prog.obeys_relabel (f : Op → Op') (m : Monitor Op' Ans' σ)
    (p : Prog Op (fun o => Ans' (f o)) ε α) (s : σ) :
    (p.relabel f).Obeys m E Q s ↔ p.Obeys (m.comap f) E Q s := by
  induction p generalizing s with
  | ret a => rfl
  | fail e => rfl
  | call o k ih => simp only [Prog.relabel, Prog.obeys_call, ih, Monitor.comap]

end

end Atomic
