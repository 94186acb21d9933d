import Mathlib.Data.List.Induction
import Mathlib.Logic.Function.Basic
import Estafeta.Lib.Prog

/-!
# Interleaved threads

A `System` gives every kind of call `c : C` its program and every operation its effect on a world
`W`; what the effect leaves open (a clock reading, a failure, an answer of another component) is
fixed by a choice `x : χ`. A `Pool` is a world with any number of threads, each in the middle of
its call's program. In a `Run`, threads are started at any time and perform their operations one at
a time, in any order. A thread that is never scheduled again is one that crashed or was cancelled.
Each operation leaves an `Event` in the history.

`Run.watched` replaces programs by monitors: if the program of every call obeys its monitor, each
run of the pool is a run of a pool of monitors (`Watched`), in which a thread is only the state of
its monitor. Invariants of all interleavings are proved by induction on `Watched`.
-/

namespace Atomic

/-- The program of every call, and the effect of every operation. -/
structure System (C Op : Type) (Ans : Op → Type) (W χ ε α : Type) where
  body : C → Prog Op Ans ε α
  exec : χ → (o : Op) → W → Ans o × W

/-- A world and the threads running in it, each with its call and what is left of its program. -/
structure Pool (C Op : Type) (Ans : Op → Type) (W ε α : Type) where
  world : W
  threads : ℕ → Option (C × Prog Op Ans ε α)

/-- One operation of one thread. -/
structure Event (C Op : Type) (Ans : Op → Type) (W χ : Type) where
  tid : ℕ
  call : C
  op : Op
  choice : χ
  ans : Ans op
  before : W
  after : W

/-- What the scheduler can do: start a thread, or let one perform its next operation. -/
inductive Action (C χ : Type) where
  | start (i : ℕ) (c : C)
  | step (i : ℕ) (x : χ)

/-- The thread that an action is about. -/
def Action.tid {C χ : Type} : Action C χ → ℕ
  | .start i _ => i
  | .step i _ => i

section

variable {C Op W χ ε α σ : Type} {Ans : Op → Type}

/-- A world in which no thread has been started. -/
def Pool.idle (w : W) : Pool C Op Ans W ε α := ⟨w, fun _ => none⟩

namespace System

variable (sys : System C Op Ans W χ ε α)

/-- The event of thread `i` performing `o` in the world `w`. -/
def event (i : ℕ) (c : C) (o : Op) (x : χ) (w : W) : Event C Op Ans W χ :=
  ⟨i, c, o, x, (sys.exec x o w).1, w, (sys.exec x o w).2⟩

/-- Start thread `i` with the program of `c`. -/
def started (p : Pool C Op Ans W ε α) (i : ℕ) (c : C) : Pool C Op Ans W ε α :=
  { p with threads := Function.update p.threads i (some (c, sys.body c)) }

/-- Thread `i` performs `o` and goes on as `k` says. -/
def stepped (p : Pool C Op Ans W ε α) (i : ℕ) (c : C) (o : Op) (k : Ans o → Prog Op Ans ε α)
    (x : χ) : Pool C Op Ans W ε α :=
  ⟨(sys.exec x o p.world).2,
    Function.update p.threads i (some (c, k (sys.exec x o p.world).1))⟩

/-- Perform one action of the scheduler, if it is possible. -/
def act (p : Pool C Op Ans W ε α) :
    Action C χ → Option (Pool C Op Ans W ε α × List (Event C Op Ans W χ))
  | .start i c =>
    match p.threads i with
    | none => some (sys.started p i c, [])
    | some _ => none
  | .step i x =>
    match p.threads i with
    | some (c, .call o k) => some (sys.stepped p i c o k x, [sys.event i c o x p.world])
    | _ => none

/-- Perform a schedule. -/
def perform (p : Pool C Op Ans W ε α) :
    List (Action C χ) → Option (Pool C Op Ans W ε α × List (Event C Op Ans W χ))
  | [] => some (p, [])
  | a :: as => do
    let (p, es) ← sys.act p a
    let (p, es') ← perform p as
    return (p, es ++ es')

/-- The pools that can be reached from `p₀`, each with the history of the operations performed. -/
inductive Run (p₀ : Pool C Op Ans W ε α) :
    List (Event C Op Ans W χ) → Pool C Op Ans W ε α → Prop where
  | init : Run p₀ [] p₀
  | start {es p i} (c : C) : Run p₀ es p → p.threads i = none → Run p₀ es (sys.started p i c)
  | step {es p i c o k} (x : χ) : Run p₀ es p → p.threads i = some (c, .call o k) →
      Run p₀ (es ++ [sys.event i c o x p.world]) (sys.stepped p i c o k x)

variable {sys} {p₀ p q : Pool C Op Ans W ε α} {es es' : List (Event C Op Ans W χ)}

theorem act_cases {a : Action C χ} (h : sys.act p a = some (q, es)) :
    (∃ i c, a = .start i c ∧ p.threads i = none ∧ q = sys.started p i c ∧ es = []) ∨
      ∃ i x c o k, a = .step i x ∧ p.threads i = some (c, .call o k) ∧
        q = sys.stepped p i c o k x ∧ es = [sys.event i c o x p.world] := by
  cases a with
  | start i c =>
    rw [System.act] at h
    split at h
    next free =>
      cases h
      exact .inl ⟨i, c, rfl, free, rfl, rfl⟩
    next => cases h
  | step i x =>
    rw [System.act] at h
    split at h
    next at_call =>
      cases h
      exact .inr ⟨i, x, _, _, _, rfl, at_call, rfl, rfl⟩
    next => cases h

theorem perform_cons {a : Action C χ} {as : List (Action C χ)} :
    sys.perform p (a :: as) = some (q, es) ↔ ∃ p' es₁ es₂, sys.act p a = some (p', es₁) ∧
      sys.perform p' as = some (q, es₂) ∧ es = es₁ ++ es₂ := by
  simp only [System.perform, Option.bind_eq_bind, Option.bind_eq_some_iff, Prod.exists,
    Option.pure_def, Option.some.injEq, Prod.mk.injEq]
  constructor
  · rintro ⟨p', es₁, first, _, es₂, rest, rfl, rfl⟩
    exact ⟨p', es₁, es₂, first, rest, rfl⟩
  · rintro ⟨p', es₁, es₂, first, rest, rfl⟩
    exact ⟨p', es₁, first, q, es₂, rest, rfl, rfl⟩

theorem Run.act {a : Action C χ} (run : sys.Run p₀ es p) (h : sys.act p a = some (q, es')) :
    sys.Run p₀ (es ++ es') q := by
  obtain ⟨i, c, rfl, free, rfl, rfl⟩ | ⟨i, x, c, o, k, rfl, at_call, rfl, rfl⟩ := act_cases h
  · simpa using run.start c free
  · exact run.step x at_call

theorem Run.perform {as : List (Action C χ)} (run : sys.Run p₀ es p)
    (h : sys.perform p as = some (q, es')) : sys.Run p₀ (es ++ es') q := by
  induction as generalizing p es es' with
  | nil =>
    cases h
    simpa using run
  | cons a as ih =>
    obtain ⟨p', es₁, es₂, first, rest, rfl⟩ := perform_cons.1 h
    rw [← List.append_assoc]
    exact ih (run.act first) rest

theorem act_other {a : Action C χ} {i : ℕ} (h : sys.act p a = some (q, es)) (other : a.tid ≠ i) :
    q.threads i = p.threads i := by
  obtain ⟨i, c, rfl, _, rfl, _⟩ | ⟨i, x, c, o, k, rfl, _, rfl, _⟩ := act_cases h
  · exact Function.update_of_ne (Ne.symm other) ..
  · exact Function.update_of_ne (Ne.symm other) ..

theorem perform_other {as : List (Action C χ)} {i : ℕ} (h : sys.perform p as = some (q, es))
    (other : ∀ a ∈ as, a.tid ≠ i) : q.threads i = p.threads i := by
  induction as generalizing p es with
  | nil =>
    cases h
    rfl
  | cons a as ih =>
    obtain ⟨p', es₁, es₂, first, rest, rfl⟩ := perform_cons.1 h
    rw [ih rest fun a ha => other a (.tail _ ha), act_other first (other a (.head _))]

theorem Run.trans {r : Pool C Op Ans W ε α} (first : sys.Run p₀ es p) (second : sys.Run p es' r) :
    sys.Run p₀ (es ++ es') r := by
  induction second with
  | init => simpa using first
  | start c _ free ih => exact ih.start c free
  | step x _ at_call ih =>
    rw [← List.append_assoc]
    exact ih.step x at_call

theorem Run.within {P : Op → Prop} {i : ℕ} {c : C} {k : Prog Op Ans ε α} (run : sys.Run p₀ es p)
    (thread : p₀.threads i = some (c, k)) (within : k.Within P) :
    (∃ k', p.threads i = some (c, k') ∧ k'.Within P) ∧ ∀ e ∈ es, e.tid = i → P e.op := by
  induction run with
  | init => exact ⟨⟨k, thread, within⟩, by simp⟩
  | @start es p j d _ free ih =>
    obtain ⟨⟨k', thread', within'⟩, earlier⟩ := ih
    refine ⟨⟨k', ?_, within'⟩, earlier⟩
    refine (Function.update_of_ne ?_ ..).trans thread'
    rintro rfl
    cases free.symm.trans thread'
  | @step es p j d o l x _ at_call ih =>
    obtain ⟨⟨k', thread', within'⟩, earlier⟩ := ih
    by_cases same : i = j
    · subst same
      cases at_call.symm.trans thread'
      refine ⟨⟨_, Function.update_self .., within'.2 _⟩, fun e he tid => ?_⟩
      rcases List.mem_append.1 he with he | he
      · exact earlier e he tid
      · obtain rfl := List.mem_singleton.1 he
        exact within'.1
    · refine ⟨⟨k', (Function.update_of_ne same ..).trans thread', within'⟩, fun e he tid => ?_⟩
      rcases List.mem_append.1 he with he | he
      · exact earlier e he tid
      · obtain rfl := List.mem_singleton.1 he
        exact absurd tid.symm same

theorem run_of_perform {as : List (Action C χ)} (h : sys.perform p as = some (q, es)) :
    sys.Run p es q := by
  have start : sys.Run p [] p := .init
  simpa using start.perform h

end System

/-! ## Histories -/

/-- `P pre e` holds of every event `e` of the history, `pre` being the events before it. -/
def Along (P : List (Event C Op Ans W χ) → Event C Op Ans W χ → Prop)
    (es : List (Event C Op Ans W χ)) : Prop :=
  ∀ pre e post, es = pre ++ e :: post → P pre e

section Along

variable {P : List (Event C Op Ans W χ) → Event C Op Ans W χ → Prop}
  {es : List (Event C Op Ans W χ)} {e : Event C Op Ans W χ}

theorem along_nil : Along P [] := by
  intro pre e post h
  simp at h

theorem along_snoc : Along P (es ++ [e]) ↔ Along P es ∧ P es e := by
  constructor
  · intro h
    exact ⟨fun pre e' post eq => h pre e' (post ++ [e]) (by simp [eq]), h es e [] rfl⟩
  · rintro ⟨earlier, last⟩ pre e' post eq
    rcases List.eq_nil_or_concat post with rfl | ⟨post', e'', rfl⟩
    · obtain ⟨rfl, h⟩ := List.append_inj' eq rfl
      cases h
      exact last
    · rw [List.concat_eq_append, ← List.cons_append, ← List.append_assoc] at eq
      exact earlier pre e' post' (List.append_inj' eq rfl).1

end Along

/-! ## Pools of monitors -/

/-- The runs of a pool in which the program of each thread is replaced by its call's monitor. -/
inductive Watched (sys : System C Op Ans W χ ε α) (m : C → Monitor Op Ans σ) (s₀ : C → σ) (w₀ : W) :
    List (Event C Op Ans W χ) → W → (ℕ → Option (C × σ)) → Prop where
  | init : Watched sys m s₀ w₀ [] w₀ (fun _ => none)
  | start {es w g i} (c : C) : Watched sys m s₀ w₀ es w g → g i = none →
      Watched sys m s₀ w₀ es w (Function.update g i (some (c, s₀ c)))
  | step {es w g i c s o} (x : χ) : Watched sys m s₀ w₀ es w g → g i = some (c, s) →
      (m c).may s o →
      Watched sys m s₀ w₀ (es ++ [sys.event i c o x w]) (sys.exec x o w).2
        (Function.update g i (some (c, (m c).next s o (sys.exec x o w).1)))

/-- A monitor state fits a thread: what is left of the program obeys the monitor from there. -/
def Fits (m : C → Monitor Op Ans σ) (E : C → σ → ε → Prop) (Q : C → σ → α → Prop) :
    Option (C × Prog Op Ans ε α) → Option (C × σ) → Prop
  | some (c, p), some (c', s) => c = c' ∧ p.Obeys (m c) (E c) (Q c) s
  | none, none => True
  | _, _ => False

/-- A run of threads whose programs obey their monitors is a run of the monitors. -/
theorem System.Run.watched {sys : System C Op Ans W χ ε α} {m : C → Monitor Op Ans σ} {s₀ : C → σ}
    {E : C → σ → ε → Prop} {Q : C → σ → α → Prop} {w₀ : W} {es : List (Event C Op Ans W χ)}
    {p : Pool C Op Ans W ε α} (obeys : ∀ c, (sys.body c).Obeys (m c) (E c) (Q c) (s₀ c))
    (run : sys.Run (Pool.idle w₀) es p) :
    ∃ g, Watched sys m s₀ w₀ es p.world g ∧ ∀ i, Fits m E Q (p.threads i) (g i) := by
  induction run with
  | init => exact ⟨_, .init, fun i => trivial⟩
  | @start es p i c _ free ih =>
    obtain ⟨g, watched, fits⟩ := ih
    have idle : g i = none := by
      have h := fits i
      rw [free] at h
      rcases hg : g i with _ | ⟨c', s⟩
      · rfl
      · rw [hg] at h
        exact h.elim
    refine ⟨_, watched.start c idle, fun j => ?_⟩
    by_cases hj : j = i
    · subst hj
      simp only [System.started, Function.update_self]
      exact ⟨rfl, obeys c⟩
    · simpa only [System.started, Function.update_of_ne hj] using fits j
  | @step es p i c o k x _ at_call ih =>
    obtain ⟨g, watched, fits⟩ := ih
    have h := fits i
    rw [at_call] at h
    rcases hg : g i with _ | ⟨c', s⟩
    · rw [hg] at h
      exact h.elim
    · rw [hg] at h
      obtain ⟨rfl, permitted, rest⟩ := h
      refine ⟨_, watched.step x hg permitted, fun j => ?_⟩
      by_cases hj : j = i
      · subst hj
        simp only [System.stepped, Function.update_self]
        exact ⟨rfl, rest _⟩
      · simpa only [System.stepped, Function.update_of_ne hj] using fits j

/-- Each event of a run is one operation of the system, permitted by the monitor of its call. -/
theorem Watched.permitted {sys : System C Op Ans W χ ε α} {m : C → Monitor Op Ans σ} {s₀ : C → σ}
    {w₀ w : W} {es : List (Event C Op Ans W χ)} {g : ℕ → Option (C × σ)}
    (run : Watched sys m s₀ w₀ es w g) :
    ∀ e ∈ es, ∃ i c s o x w, e = sys.event i c o x w ∧ (m c).may s o := by
  induction run with
  | init => simp
  | start c _ _ ih => exact ih
  | step x _ _ permitted ih =>
    intro e he
    rcases List.mem_append.1 he with he | he
    · exact ih e he
    · exact ⟨_, _, _, _, _, _, List.mem_singleton.1 he, permitted⟩

/-- A fact about one thread holds in every run if it holds when the thread starts, the thread's own
steps keep it, and so do the steps of the other threads. -/
theorem Watched.local {sys : System C Op Ans W χ ε α} {m : C → Monitor Op Ans σ} {s₀ : C → σ}
    {w₀ w : W} {es : List (Event C Op Ans W χ)} {g : ℕ → Option (C × σ)}
    (J : List (Event C Op Ans W χ) → W → ℕ → C → σ → Prop)
    (starts : ∀ es w g i c, Watched sys m s₀ w₀ es w g → g i = none → J es w i c (s₀ c))
    (own : ∀ es w g i c s o x, Watched sys m s₀ w₀ es w g → g i = some (c, s) → (m c).may s o →
      J es w i c s → J (es ++ [sys.event i c o x w]) (sys.exec x o w).2 i c
        ((m c).next s o (sys.exec x o w).1))
    (other : ∀ es w g i c s j c' s' o x, Watched sys m s₀ w₀ es w g → g i = some (c, s) → j ≠ i →
      g j = some (c', s') → (m c').may s' o → J es w i c s →
      J (es ++ [sys.event j c' o x w]) (sys.exec x o w).2 i c s)
    (run : Watched sys m s₀ w₀ es w g) : ∀ i c s, g i = some (c, s) → J es w i c s := by
  induction run with
  | init => simp
  | @start es w g j c run free ih =>
    intro i c' s hi
    by_cases same : i = j
    · subst same
      rw [Function.update_self] at hi
      cases hi
      exact starts es w g i c run free
    · rw [Function.update_of_ne same] at hi
      exact ih i c' s hi
  | @step es w g j c s o x run at_call permitted ih =>
    intro i c' s' hi
    by_cases same : i = j
    · subst same
      rw [Function.update_self] at hi
      cases hi
      exact own es w g i c s o x run at_call permitted (ih i c s at_call)
    · rw [Function.update_of_ne same] at hi
      exact other es w g i c' s' j c s o x run hi (Ne.symm same) at_call permitted (ih i c' s' hi)

/-! ## Looking back -/

/-- The events lead from one world to another. -/
inductive Joined : W → List (Event C Op Ans W χ) → W → Prop where
  | nil (w) : Joined w [] w
  | snoc {w es} (e : Event C Op Ans W χ) : Joined w es e.before → Joined w (es ++ [e]) e.after

theorem Joined.keeps {w w' : W} {es : List (Event C Op Ans W χ)} {K : W → Prop}
    (joined : Joined w es w') (kept : ∀ e ∈ es, K e.before → K e.after) (holds : K w) : K w' := by
  induction joined with
  | nil => exact holds
  | snoc e _ ih => exact kept e (by simp) (ih fun e' he => kept e' (by simp [he]))

theorem Joined.eq_of_nil {w w' : W}
    (joined : Joined w ([] : List (Event C Op Ans W χ)) w') : w = w' :=
  joined.keeps (K := fun v => w = v) (by simp) rfl

/-- If `K` does not hold any more, some event ended it and none has restored it since. -/
theorem Joined.lost {w w' : W} {es : List (Event C Op Ans W χ)} {K : W → Prop}
    (joined : Joined w es w') (held : K w) (lost : ¬ K w') :
    ∃ es₁ e es₂, es = es₁ ++ e :: es₂ ∧ K e.before ∧ ¬ K e.after ∧
      ∀ e' ∈ es₂, ¬ (¬ K e'.before ∧ K e'.after) := by
  induction joined with
  | nil => exact absurd held lost
  | @snoc es e _ ih =>
    by_cases before : K e.before
    · exact ⟨es, e, [], rfl, before, lost, by simp⟩
    · obtain ⟨es₁, e₁, es₂, rfl, was, ended, since⟩ := ih before
      refine ⟨es₁, e₁, es₂ ++ [e], by simp, was, ended, fun e' he => ?_⟩
      rcases List.mem_append.1 he with he | he
      · exact since e' he
      · obtain rfl := List.mem_singleton.1 he
        exact fun restored => lost restored.2

/-- Events after which `K` does not hold, and none of which restores it. -/
theorem Joined.still {w w' : W} {es : List (Event C Op Ans W χ)} {K : W → Prop}
    (joined : Joined w es w') (ended : ¬ K w)
    (since : ∀ e ∈ es, ¬ (¬ K e.before ∧ K e.after)) : ¬ K w' :=
  joined.keeps (K := fun w => ¬ K w) (fun e he before after => since e he ⟨before, after⟩) ended

theorem Watched.at {sys : System C Op Ans W χ ε α} {m : C → Monitor Op Ans σ} {s₀ : C → σ}
    {w₀ w : W} {pre post : List (Event C Op Ans W χ)} {e : Event C Op Ans W χ}
    {g : ℕ → Option (C × σ)} (run : Watched sys m s₀ w₀ (pre ++ e :: post) w g) :
    ∃ g' i c s o x w', e = sys.event i c o x w' ∧ Watched sys m s₀ w₀ pre w' g' ∧
      g' i = some (c, s) ∧ (m c).may s o ∧ Joined (sys.exec x o w').2 post w := by
  generalize same : pre ++ e :: post = es at run
  induction run generalizing post with
  | init => simp at same
  | start c _ _ ih => exact ih same
  | @step es w g i c s o x run at_call permitted ih =>
    rcases List.eq_nil_or_concat post with rfl | ⟨post, last, rfl⟩
    · obtain ⟨rfl, h⟩ := List.append_inj' same rfl
      cases h
      exact ⟨g, i, c, s, o, x, w, rfl, run, at_call, permitted, .nil _⟩
    · rw [List.concat_eq_append, ← List.cons_append, ← List.append_assoc] at same
      obtain ⟨earlier, h⟩ := List.append_inj' same rfl
      cases h
      obtain ⟨g', i', c', s', o', x', w', rfl, run', at_call', permitted', joined⟩ := ih earlier
      rw [List.concat_eq_append]
      exact ⟨g', i', c', s', o', x', w', rfl, run', at_call', permitted',
        joined.snoc (sys.event i c o x w)⟩

theorem Watched.between {sys : System C Op Ans W χ ε α} {m : C → Monitor Op Ans σ} {s₀ : C → σ}
    {w₀ w : W} {pre mid post : List (Event C Op Ans W χ)} {e e' : Event C Op Ans W χ}
    {g : ℕ → Option (C × σ)} (run : Watched sys m s₀ w₀ (pre ++ e :: (mid ++ e' :: post)) w g) :
    Joined e.after mid e'.before := by
  rw [← List.cons_append, ← List.append_assoc] at run
  obtain ⟨_, _, _, _, _, _, _, rfl, run, _⟩ := run.at
  obtain ⟨_, _, _, _, _, _, _, rfl, _, _, _, joined⟩ := run.at
  exact joined

/-- Induction over the operations of a run: what holds at the start, and holds after an operation
if it holds after every shorter history, holds always. -/
theorem Watched.strong {sys : System C Op Ans W χ ε α} {m : C → Monitor Op Ans σ} {s₀ : C → σ}
    {w₀ : W} (I : List (Event C Op Ans W χ) → W → Prop) (start : I [] w₀)
    (step : ∀ pre w g i c s o x, Watched sys m s₀ w₀ pre w g → g i = some (c, s) →
      (m c).may s o → (∀ pre' w' g', pre' <+: pre → Watched sys m s₀ w₀ pre' w' g' → I pre' w') →
      I (pre ++ [sys.event i c o x w]) (sys.exec x o w).2)
    {es : List (Event C Op Ans W χ)} {w : W} {g : ℕ → Option (C × σ)}
    (run : Watched sys m s₀ w₀ es w g) : I es w := by
  suffices ∀ pre w g, pre <+: es → Watched sys m s₀ w₀ pre w g → I pre w from
    this es w g (List.prefix_refl es) run
  clear run
  induction es using List.reverseRecOn with
  | nil =>
    intro pre w g short run
    obtain rfl := List.prefix_nil.1 short
    generalize none : ([] : List (Event C Op Ans W χ)) = es at run
    induction run with
    | init => exact none ▸ start
    | start _ _ _ ih => exact ih none
    | step => simp at none
  | append_singleton es e ih =>
    intro pre w g short run
    rcases List.prefix_concat_iff.1 short with rfl | short
    · obtain ⟨g', i, c, s, o, x, w', rfl, run', at_call, permitted, joined⟩ := run.at
      rw [← joined.eq_of_nil]
      exact step es w' g' i c s o x run' at_call permitted ih
    · exact ih pre w g short run

theorem Watched.started {sys : System C Op Ans W χ ε α} {m : C → Monitor Op Ans σ} {s₀ : C → σ}
    {w₀ w : W} {es : List (Event C Op Ans W χ)} {g : ℕ → Option (C × σ)}
    (run : Watched sys m s₀ w₀ es w g) : ∀ e ∈ es, ∃ s, g e.tid = some (e.call, s) := by
  induction run with
  | init => simp
  | @start es w g i c _ free ih =>
    intro e he
    obtain ⟨s, hs⟩ := ih e he
    refine ⟨s, ?_⟩
    rwa [Function.update_of_ne fun same => by rw [same, free] at hs; cases hs]
  | @step es w g i c s o x _ at_call _ ih =>
    intro e he
    rcases List.mem_append.1 he with he | he
    · obtain ⟨s', hs⟩ := ih e he
      by_cases same : e.tid = i
      · rw [same] at hs ⊢
        rw [at_call] at hs
        cases hs
        exact ⟨_, Function.update_self ..⟩
      · exact ⟨s', by rwa [Function.update_of_ne same]⟩
    · obtain rfl := List.mem_singleton.1 he
      exact ⟨_, Function.update_self ..⟩

theorem System.Run.started {sys : System C Op Ans W χ ε α} {w₀ : W}
    {es : List (Event C Op Ans W χ)} {p : Pool C Op Ans W ε α}
    (run : sys.Run (Pool.idle w₀) es p) : ∀ e ∈ es, ∃ k, p.threads e.tid = some (e.call, k) := by
  induction run with
  | init => simp
  | @start es p i c _ free ih =>
    intro e he
    obtain ⟨k, hk⟩ := ih e he
    refine ⟨k, (Function.update_of_ne ?_ ..).trans hk⟩
    intro same
    rw [same, free] at hk
    cases hk
  | @step es p i c o l x _ at_call ih =>
    intro e he
    rcases List.mem_append.1 he with he | he
    · obtain ⟨k, hk⟩ := ih e he
      by_cases same : e.tid = i
      · rw [same, at_call] at hk
        cases hk
        rw [same]
        exact ⟨_, Function.update_self ..⟩
      · exact ⟨k, (Function.update_of_ne same ..).trans hk⟩
    · obtain rfl := List.mem_singleton.1 he
      exact ⟨_, Function.update_self ..⟩

theorem System.Run.at {sys : System C Op Ans W χ ε α} {p₀ p : Pool C Op Ans W ε α}
    {pre post : List (Event C Op Ans W χ)} {e : Event C Op Ans W χ}
    (run : sys.Run p₀ (pre ++ e :: post) p) :
    ∃ q i c o k x, e = sys.event i c o x q.world ∧ sys.Run p₀ pre q ∧
      q.threads i = some (c, .call o k) ∧ sys.Run (sys.stepped q i c o k x) post p := by
  generalize same : pre ++ e :: post = es at run
  induction run generalizing post with
  | init => simp at same
  | start c _ free ih =>
    obtain ⟨q, i, c', o, k, x, rfl, run, at_call, rest⟩ := ih same
    exact ⟨q, i, c', o, k, x, rfl, run, at_call, rest.start c free⟩
  | @step es p i c o k x run at_call ih =>
    rcases List.eq_nil_or_concat post with rfl | ⟨post, last, rfl⟩
    · obtain ⟨rfl, h⟩ := List.append_inj' same rfl
      cases h
      exact ⟨p, i, c, o, k, x, rfl, run, at_call, .init⟩
    · rw [List.concat_eq_append, ← List.cons_append, ← List.append_assoc] at same
      obtain ⟨earlier, h⟩ := List.append_inj' same rfl
      cases h
      obtain ⟨q, i', c', o', k', x', rfl, run', at_call', rest⟩ := ih earlier
      rw [List.concat_eq_append]
      exact ⟨q, i', c', o', k', x', rfl, run', at_call', rest.step x at_call⟩

theorem System.Run.confined {sys : System C Op Ans W χ ε α} {w₀ : W} {P : Op → Prop}
    {es : List (Event C Op Ans W χ)} {p : Pool C Op Ans W ε α} (run : sys.Run (Pool.idle w₀) es p)
    {i : ℕ} {c : C} {k : Prog Op Ans ε α} (thread : p.threads i = some (c, k))
    (within : (sys.body c).Within P) : k.Within P ∧ ∀ e ∈ es, e.tid = i → P e.op := by
  induction run generalizing i c k with
  | init => cases thread
  | @start es p j d run free ih =>
    by_cases same : i = j
    · subst same
      cases (Function.update_self ..).symm.trans thread
      refine ⟨within, fun e he own => ?_⟩
      obtain ⟨_, started⟩ := run.started e he
      rw [own, free] at started
      cases started
    · exact ih ((Function.update_of_ne same ..).symm.trans thread) within
  | @step es p j d o l x _ at_call ih =>
    by_cases same : i = j
    · subst same
      cases (Function.update_self ..).symm.trans thread
      obtain ⟨confined, earlier⟩ := ih at_call within
      refine ⟨confined.2 _, fun e he own => ?_⟩
      rcases List.mem_append.1 he with he | he
      · exact earlier e he own
      · obtain rfl := List.mem_singleton.1 he
        exact confined.1
    · obtain ⟨confined, earlier⟩ := ih ((Function.update_of_ne same ..).symm.trans thread) within
      refine ⟨confined, fun e he own => ?_⟩
      rcases List.mem_append.1 he with he | he
      · exact earlier e he own
      · obtain rfl := List.mem_singleton.1 he
        exact absurd own (Ne.symm same)

/-- What every operation keeps holds at the end of a run if it holds at its start. -/
theorem System.Run.keeps {sys : System C Op Ans W χ ε α} {p₀ p : Pool C Op Ans W ε α}
    {es : List (Event C Op Ans W χ)} {K : W → Prop} (run : sys.Run p₀ es p)
    (kept : ∀ x o w, K w → K (sys.exec x o w).2) (holds : K p₀.world) : K p.world := by
  induction run with
  | init => exact holds
  | start _ _ _ ih => exact ih
  | step x _ _ ih => exact kept _ _ _ ih

/-- What every event of a run keeps holds at its end if it holds at its start. -/
theorem System.Run.keeps_along {sys : System C Op Ans W χ ε α} {p₀ p : Pool C Op Ans W ε α}
    {es : List (Event C Op Ans W χ)} {K : W → Prop} (run : sys.Run p₀ es p)
    (kept : ∀ e ∈ es, K e.before → K e.after) (holds : K p₀.world) : K p.world := by
  induction run with
  | init => exact holds
  | start _ _ _ ih => exact ih kept
  | step x _ _ ih =>
    refine kept _ (List.mem_append_right _ (.head _)) (ih fun e he => ?_)
    exact kept e (List.mem_append_left _ he)

/-- What no event changes from one on is at the end what it was before that one. -/
theorem System.Run.unchanged {sys : System C Op Ans W χ ε α} {p₀ p : Pool C Op Ans W ε α}
    {pre post : List (Event C Op Ans W χ)} {e : Event C Op Ans W χ} {β : Type*} {f : W → β}
    (run : sys.Run p₀ (pre ++ e :: post) p) (same : ∀ e' ∈ e :: post, f e'.after = f e'.before) :
    f p.world = f e.before := by
  obtain ⟨q, i, c, o, k, x, rfl, _, _, rest⟩ := run.at
  refine rest.keeps_along (K := fun w => f w = f q.world) (fun e he before => ?_) ?_
  · exact (same e (.tail _ he)).trans before
  · exact same _ (.head _)

/-- What every operation keeps holds at the end of a run if it holds before one of its events. -/
theorem System.Run.since {sys : System C Op Ans W χ ε α} {p₀ p : Pool C Op Ans W ε α}
    {pre post : List (Event C Op Ans W χ)} {e : Event C Op Ans W χ} {K : W → Prop}
    (run : sys.Run p₀ (pre ++ e :: post) p) (kept : ∀ x o w, K w → K (sys.exec x o w).2)
    (holds : K e.before) : K p.world := by
  obtain ⟨q, i, c, o, k, x, rfl, _, _, rest⟩ := run.at
  exact rest.keeps kept (kept _ _ _ holds)

end

end Atomic
