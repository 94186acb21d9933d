import Estafeta.Lib.Pool

/-!
# Noninterference by unwinding

Two runs of a system agree about some of the threads, `mine`: these are started with the same calls
and perform their operations in the same order and under the same choices, while the other threads
do as they please. An `Unwinding` is a relation between worlds that the operations of the others
keep on either side, and that the operations of `mine` keep when both runs perform them, with equal
answers. It carries over from operations to whole runs (`Unwinding.perform`).
-/

namespace Atomic

variable {C Op W χ ε α : Type} {Ans : Op → Type}

/-- A relation that operations of others keep on one side, and one's own operations on both. -/
structure Unwinding (exec : χ → (o : Op) → W → Ans o × W) where
  /-- the operations that the threads of interest may perform -/
  own : Op → Prop
  /-- the operations that the other threads may perform -/
  other : Op → Prop
  /-- what is assumed of the choices for the threads of interest -/
  sound : χ → W → Prop
  rel : W → W → Prop
  symm : ∀ {w w'}, rel w w' → rel w' w
  respects : ∀ {x o w w'}, other o → rel w w' → rel (exec x o w).2 w'
  consistent : ∀ {x o w w'}, own o → sound x w → sound x w' → rel w w' →
    (exec x o w).1 = (exec x o w').1 ∧ rel (exec x o w).2 (exec x o w').2

namespace Unwinding

variable {sys : System C Op Ans W χ ε α} (u : Unwinding sys.exec) (mine : ℕ → Bool)

/-- What a thread may do. -/
def Allows (i : ℕ) : Op → Prop := if mine i then u.own else u.other

/-- The action starts a thread that does only what it may. -/
def Admits : Action C χ → Prop
  | .start i c => (sys.body c).Within (u.Allows mine i)
  | .step .. => True

/-- Two pools with the same threads of interest, and related worlds. -/
structure Related (p p' : Pool C Op Ans W ε α) : Prop where
  rel : u.rel p.world p'.world
  threads : ∀ i, mine i = true → p.threads i = p'.threads i
  left : ∀ i c k, p.threads i = some (c, k) → k.Within (u.Allows mine i)
  right : ∀ i c k, p'.threads i = some (c, k) → k.Within (u.Allows mine i)

variable {u} {mine}

theorem allows {i : ℕ} {o : Op} (own : mine i = true → u.own o)
    (other : mine i = false → u.other o) : u.Allows mine i o := by
  rw [Allows]
  split
  next h => exact own h
  next h => exact other (by simpa using h)

variable {p p' q q' : Pool C Op Ans W ε α} {es es' : List (Event C Op Ans W χ)}
  {a : Action C χ}

theorem Related.symm (h : u.Related mine p p') : u.Related mine p' p :=
  ⟨u.symm h.rel, fun i hi => (h.threads i hi).symm, h.right, h.left⟩

theorem related_idle {w w' : W} (h : u.rel w w') :
    u.Related mine (Pool.idle w) (Pool.idle w' : Pool C Op Ans W ε α) :=
  ⟨h, fun _ _ => rfl, nofun, nofun⟩

theorem bound_act (admits : u.Admits mine a) (h : sys.act p a = some (q, es))
    (bound : ∀ i c k, p.threads i = some (c, k) → k.Within (u.Allows mine i)) :
    ∀ i c k, q.threads i = some (c, k) → k.Within (u.Allows mine i) := by
  intro j d l hj
  by_cases same : a.tid = j
  · subst same
    obtain ⟨i, c, rfl, _, rfl, _⟩ | ⟨i, x, c, o, k, rfl, at_call, rfl, _⟩ := System.act_cases h
    · simp only [System.started, Action.tid, Function.update_self] at hj
      cases hj
      exact admits
    · simp only [System.stepped, Action.tid, Function.update_self] at hj
      cases hj
      exact (bound i d _ at_call).2 _
  · rw [System.act_other h same] at hj
    exact bound j d l hj

/-- An action of another thread in one of the pools keeps them related. -/
theorem Related.act_other (h : u.Related mine p p') (admits : u.Admits mine a)
    (first : sys.act p a = some (q, es)) (other : mine a.tid = false) : u.Related mine q p' := by
  refine ⟨?_, fun i hi => ?_, bound_act admits first h.left, h.right⟩
  · obtain ⟨i, c, rfl, _, rfl, _⟩ | ⟨i, x, c, o, k, rfl, at_call, rfl, _⟩ := System.act_cases first
    · exact h.rel
    · have permitted := (h.left i c _ at_call).1
      rw [Allows, show mine i = false from other] at permitted
      exact u.respects permitted h.rel
  · rw [System.act_other first, h.threads i hi]
    rintro rfl
    rw [other] at hi
    cases hi

/-- An action of a thread of interest in both pools keeps them related. -/
theorem Related.act (h : u.Related mine p p') (admits : u.Admits mine a)
    (first : sys.act p a = some (q, es)) (first' : sys.act p' a = some (q', es'))
    (own : mine a.tid = true) (sound : ∀ e ∈ es, u.sound e.choice e.before)
    (sound' : ∀ e ∈ es', u.sound e.choice e.before) : u.Related mine q q' := by
  have threads : ∀ i, mine i = true → i ≠ a.tid → q.threads i = q'.threads i := by
    intro i hi apart
    rw [System.act_other first apart.symm, System.act_other first' apart.symm, h.threads i hi]
  obtain ⟨i, c, rfl, _, rfl, _⟩ | ⟨i, x, c, o, k, rfl, at_call, rfl, rfl⟩ := System.act_cases first
  · obtain ⟨_, _, same, _, rfl, _⟩ | ⟨_, _, _, _, _, same, _⟩ := System.act_cases first'
    · cases same
      refine ⟨h.rel, fun j hj => ?_, bound_act admits first h.left, bound_act admits first' h.right⟩
      by_cases apart : j = i
      · subst apart
        simp only [System.started, Function.update_self]
      · exact threads j hj apart
    · cases same
  · obtain ⟨_, _, same, _⟩ | ⟨_, _, _, _, _, same, at_call', rfl, rfl⟩ := System.act_cases first'
    · cases same
    · cases same
      have permitted := (h.left i c _ at_call).1
      rw [Allows, show mine i = true from own] at permitted
      rw [← h.threads i own, at_call] at at_call'
      cases at_call'
      have sound : u.sound x p.world := sound _ (.head _)
      have sound' : u.sound x p'.world := sound' _ (.head _)
      obtain ⟨answers, rel⟩ := u.consistent permitted sound sound' h.rel
      refine ⟨rel, fun j hj => ?_, bound_act admits first h.left, bound_act admits first' h.right⟩
      by_cases apart : j = i
      · subst apart
        simp only [System.stepped, Function.update_self, answers]
      · exact threads j hj apart

/-- Schedules that agree about the threads of interest lead from related pools to related pools. -/
theorem Related.perform {as as' : List (Action C χ)} (h : u.Related mine p p')
    (same : as.filter (fun a => mine a.tid) = as'.filter fun a => mine a.tid)
    (admits : ∀ a ∈ as, u.Admits mine a) (admits' : ∀ a ∈ as', u.Admits mine a)
    (run : sys.perform p as = some (q, es)) (run' : sys.perform p' as' = some (q', es'))
    (sound : ∀ e ∈ es, mine e.tid = true → u.sound e.choice e.before)
    (sound' : ∀ e ∈ es', mine e.tid = true → u.sound e.choice e.before) : u.Related mine q q' := by
  have tids : ∀ {p q : Pool C Op Ans W ε α} {es a}, sys.act p a = some (q, es) →
      ∀ e ∈ es, e.tid = a.tid := by
    intro p q es a h
    obtain ⟨_, _, _, _, _, rfl⟩ | ⟨_, _, _, _, _, rfl, _, _, rfl⟩ := System.act_cases h
    · simp
    · simp [System.event, Action.tid]
  induction as generalizing p p' as' es es' with
  | nil =>
    cases run
    induction as' generalizing p' es' with
    | nil =>
      cases run'
      exact h
    | cons b bs ih =>
      obtain ⟨p₁, es₁, es₂, first, rest, rfl⟩ := System.perform_cons.1 run'
      have other : mine b.tid = false := by
        by_contra own
        simp [own] at same
      have h := (h.symm.act_other (admits' b (.head _)) first other).symm
      refine ih ?_ (fun a ha => admits' a (.tail _ ha)) rest (fun e he =>
        sound' e (List.mem_append_right _ he)) h
      simpa [other] using same
  | cons a as ih =>
    obtain ⟨p₁, es₁, es₂, first, rest, rfl⟩ := System.perform_cons.1 run
    have admits_as : ∀ a ∈ as, u.Admits mine a := fun b hb => admits b (.tail _ hb)
    have sound_as : ∀ e ∈ es₂, mine e.tid = true → u.sound e.choice e.before :=
      fun e he => sound e (List.mem_append_right _ he)
    by_cases own : mine a.tid = true
    · -- the other schedule reaches the same action after some of the other threads
      induction as' generalizing p' es' with
      | nil => simp [own] at same
      | cons b bs inner =>
        obtain ⟨p₁', es₁', es₂', first', rest', rfl⟩ := System.perform_cons.1 run'
        have admits_bs : ∀ a ∈ bs, u.Admits mine a := fun c hc => admits' c (.tail _ hc)
        have sound_bs : ∀ e ∈ es₂', mine e.tid = true → u.sound e.choice e.before :=
          fun e he => sound' e (List.mem_append_right _ he)
        by_cases own' : mine b.tid = true
        · simp only [List.filter_cons, own, own', if_true] at same
          obtain ⟨rfl, tails⟩ := List.cons.inj same
          have h := h.act (admits a (.head _)) first first' own
            (fun e he => sound e (List.mem_append_left _ he) (tids first e he ▸ own))
            fun e he => sound' e (List.mem_append_left _ he) (tids first' e he ▸ own)
          exact ih h tails admits_as admits_bs rest rest' sound_as sound_bs
        · have other : mine b.tid = false := by simpa using own'
          have h := (h.symm.act_other (admits' b (.head _)) first' other).symm
          refine inner h ?_ admits_bs rest' sound_bs
          simpa only [List.filter_cons, other, Bool.false_eq_true, if_false] using same
    · have other : mine a.tid = false := by simpa using own
      have h := h.act_other (admits a (.head _)) first other
      refine ih h ?_ admits_as admits' rest run' sound_as sound'
      simpa only [List.filter_cons, other, Bool.false_eq_true, if_false] using same

end Unwinding

end Atomic
