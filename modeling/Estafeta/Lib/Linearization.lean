import Estafeta.Lib.History
import Estafeta.Lib.Linear

/-!
# Objects that calls take turns at

Some calls of a system work on an object, whose state is what `abs` shows of the view, and take effect
at one of their operations (`Lib.Linear`); the others leave the object as it is, or change it as its
environment may. In every interleaving there is an order of the calls that have taken effect, one after
the other as the object serves them, that leads to the state that is reached and explains the answers
(`Linearization`); each call has its place in the order at one of its own operations, so that a call
that has ended before another begins comes before it.
-/

namespace Atomic

variable {C Op V W χ ε α M : Type} {Ans : Op → Type}

/-- A call that has taken effect: the place of its effect in the history, and its result. -/
structure Effect (C ε α : Type) where
  place : ℕ
  tid : ℕ
  call : C
  result : Except ε α

/-- The object serves calls one after the other, amid what the environment does to it. -/
inductive Serves (serve : C → M → Except ε α → M → Prop) (env : M → M → Prop) :
    M → List (Effect C ε α) → M → Prop where
  | nil (m) : Serves serve env m [] m
  | snoc {m m' m'' ls} (l : Effect C ε α) : Serves serve env m ls m' →
    serve l.call m' l.result m'' → Serves serve env m (ls ++ [l]) m''
  | amid {m m' m'' ls} : Serves serve env m ls m' → env m' m'' → Serves serve env m ls m''

/-- An order of the calls of an object that have taken effect in a run. -/
structure Linearization (serve : C → M → Except ε α → M → Prop) (env : M → M → Prop)
    (mine : C → Prop) (es : List (Event C Op Ans W χ)) (p : Pool C Op Ans W ε α) (m m' : M)
    (ls : List (Effect C ε α)) : Prop where
  serves : Serves serve env m ls m'
  ordered : ls.Pairwise fun l l' => l.place < l'.place
  once : (ls.map (·.tid)).Nodup
  own : ∀ l ∈ ls, mine l.call ∧ ∃ e, es[l.place]? = some e ∧ e.tid = l.tid ∧ e.call = l.call
  answers : ∀ l ∈ ls, ∀ c k r, p.threads l.tid = some (c, k) → k.Ends r → r = l.result
  complete : ∀ i c k r, p.threads i = some (c, k) → mine c → k.Ends r → eventsOf i es ≠ [] →
    ∃ l ∈ ls, l.tid = i

section

variable {sys : System C Op Ans W χ ε α} {view : W → V} {later : W → W → Prop} {w₀ : W}
  {es pre post : List (Event C Op Ans W χ)} {p p₀ : Pool C Op Ans W ε α} {e : Event C Op Ans W χ}
  {i n : ℕ}

/-! ## Worlds of a run -/

theorem System.Run.worldAt_zero (run : sys.Run p₀ es p) : worldAt es p.world 0 = p₀.world := by
  induction run with
  | init => rfl
  | start _ _ _ ih => exact ih
  | @step es p i c o k x _ _ ih =>
    cases es with
    | nil => exact ih
    | cons e es => exact ih

theorem System.Run.worldAt_succ (run : sys.Run p₀ es p) (here : es[n]? = some e) :
    worldAt es p.world (n + 1) = e.after := by
  obtain ⟨inside, rfl⟩ := List.getElem?_eq_some_iff.1 here
  have split : es = es.take n ++ es[n] :: es.drop (n + 1) := by
    rw [List.getElem_cons_drop, List.take_append_drop]
  rw [split] at run
  obtain ⟨q, i, c, o, k, x, event, _, _, rest⟩ := run.at
  have next := rest.worldAt_zero
  unfold worldAt at next ⊢
  rw [← List.head?_eq_getElem?, List.head?_drop] at next
  rw [next, event]
  rfl

/-! ## Fates -/

/-- What becomes of a thread: it leaves the view as it is, or takes effect at a place. -/
inductive Fate (sys : System C Op Ans W χ ε α) (view : W → V) (i : ℕ) (c : C)
    (es : List (Event C Op Ans W χ)) (k : Prog Op Ans ε α) : Option (ℕ × Except ε α) → Prop where
  | looks : Quiet view i es → (∀ r, k.Ends r → eventsOf i es = []) → Fate sys view i c es k none
  | acts {pre e post r} : es = pre ++ e :: post → Quiet view i (pre ++ post) →
    Linearized sys view i c es k e r → Fate sys view i c es k (some (pre.length, r))

theorem Progress.fate {c : C} {w : W} {k : Prog Op Ans ε α}
    (progress : Progress sys view later i c es w k) : ∃ f, Fate sys view i c es k f := by
  rcases progress with ⟨quiet, unended, _⟩ | ⟨pre, e, post, r, split, quiet, _, linearized⟩
  · exact ⟨_, .looks quiet unended⟩
  · exact ⟨_, .acts split quiet linearized⟩

/-- Choices that decide as the environment has decided for a thread. -/
theorem exists_decided (i : ℕ) (es : List (Event C Op Ans W χ)) (x : χ) : ∃ y, Decided i es y :=
  ⟨fun n => ((eventsOf i es)[n]?.map (·.choice)).getD x, fun n e here => by simp [here]⟩

/-- An event of a thread takes effect, or leaves the view as it is. -/
theorem Fate.event {c : C} {k : Prog Op Ans ε α} {f : Option (ℕ × Except ε α)}
    (fate : Fate sys view i c es k f) (here : es[n]? = some e) (own : e.tid = i) :
    (∃ r, f = some (n, r) ∧ Linearized sys view i c es k e r) ∨
      (∀ r, f ≠ some (n, r)) ∧ view e.after = view e.before := by
  cases fate with
  | looks quiet _ =>
    exact .inr ⟨fun r same => Option.some_ne_none _ same.symm, quiet e (List.mem_of_getElem? here) own⟩
  | @acts pre e' post r split quiet linearized =>
    subst split
    by_cases same : pre.length = n
    · subst same
      obtain rfl : e' = e := by simpa using here
      exact .inl ⟨r, rfl, linearized⟩
    · refine .inr ⟨fun r' eq => ?_, quiet e ?_ own⟩
      · cases eq
        exact same rfl
      · rw [List.mem_append]
        rcases Nat.lt_or_gt_of_ne same with before | after
        · rw [List.getElem?_append_right (Nat.le_of_lt before), List.getElem?_cons,
            if_neg (by omega)] at here
          exact .inr (List.mem_of_getElem? here)
        · rw [List.getElem?_append_left after] at here
          exact .inl (List.mem_of_getElem? here)

theorem Fate.answers {c : C} {k : Prog Op Ans ε α} {r r' : Except ε α}
    (fate : Fate sys view i c es k (some (n, r))) (ends : k.Ends r') : r' = r := by
  cases fate with
  | acts _ _ linearized => exact linearized.ends r' ends

theorem Fate.acted {c : C} {k : Prog Op Ans ε α} {f : Option (ℕ × Except ε α)} {r : Except ε α}
    (fate : Fate sys view i c es k f) (ends : k.Ends r) (acted : eventsOf i es ≠ []) :
    ∃ n e, f = some (n, r) ∧ es[n]? = some e ∧ e.tid = i := by
  cases fate with
  | looks _ unended => exact absurd (unended r ends) acted
  | @acts pre e post r' split _ linearized =>
    obtain rfl := linearized.ends r ends
    exact ⟨pre.length, e, rfl, by simp [split], linearized.own⟩

/-! ## The order -/

/-- The call has taken effect where the fate of its thread says. -/
def Took (mine : C → Prop) (es : List (Event C Op Ans W χ)) (fate : ℕ → Option (ℕ × Except ε α))
    (l : Effect C ε α) : Prop :=
  mine l.call ∧ fate l.tid = some (l.place, l.result) ∧
    ∃ e, es[l.place]? = some e ∧ e.tid = l.tid ∧ e.call = l.call

section Order

variable {serve : C → M → Except ε α → M → Prop} {env : M → M → Prop} {mine : C → Prop}
  {abs : V → M} {fate : ℕ → Option (ℕ × Except ε α)}

/-- The calls that have taken effect before a place of the history lead to the state there. -/
theorem serves_until (run : sys.Run (Pool.idle w₀) es p)
    (alone : ∀ e ∈ es, mine e.call → ∀ x, serve e.call (abs (view e.before))
      ((sys.body e.call).run sys.exec x e.before).1
      (abs (view ((sys.body e.call).run sys.exec x e.before).2)))
    (others : ∀ e ∈ es, ¬ mine e.call → env (abs (view e.before)) (abs (view e.after)))
    (fates : ∀ i c k, p.threads i = some (c, k) → mine c → Fate sys view i c es k (fate i)) (n : ℕ)
    (inside : n ≤ es.length) :
    ∃ ls, Serves serve env (abs (view w₀)) ls (abs (view (worldAt es p.world n))) ∧
      (ls.Pairwise fun l l' => l.place < l'.place) ∧
      ∀ l, l ∈ ls ↔ l.place < n ∧ Took mine es fate l := by
  induction n with
  | zero =>
    refine ⟨[], ?_, .nil, by simp⟩
    rw [run.worldAt_zero]
    exact .nil _
  | succ n ih =>
    obtain ⟨ls, serves, ordered, members⟩ := ih (by omega)
    obtain ⟨e, here⟩ : ∃ e, es[n]? = some e := ⟨_, List.getElem?_eq_getElem inside⟩
    have mem := List.mem_of_getElem? here
    obtain ⟨k, thread⟩ := run.started e mem
    rw [run.worldAt_succ here]
    rw [worldAt_of_getElem? here] at serves
    -- an event that is no effect
    have skip : (∀ l, Took mine es fate l → l.place ≠ n) →
        Serves serve env (abs (view w₀)) ls (abs (view e.after)) →
        ∃ ls, Serves serve env (abs (view w₀)) ls (abs (view e.after)) ∧
          (ls.Pairwise fun l l' => l.place < l'.place) ∧
          ∀ l, l ∈ ls ↔ l.place < n + 1 ∧ Took mine es fate l := by
      intro none serves
      refine ⟨ls, serves, ordered, fun l => (members l).trans ⟨?_, ?_⟩⟩
      · exact fun ⟨before, took⟩ => ⟨Nat.lt_succ_of_lt before, took⟩
      · exact fun ⟨before, took⟩ =>
          ⟨Nat.lt_of_le_of_ne (Nat.le_of_lt_succ before) (none l took), took⟩
    -- an effect at this place is one of the thread of the event
    have own : ∀ l, Took mine es fate l → l.place = n → mine e.call ∧
        fate e.tid = some (n, l.result) ∧ l = ⟨n, e.tid, e.call, l.result⟩ := by
      rintro ⟨place, tid, call, result⟩ ⟨its, fated, e', here', rfl, rfl⟩ rfl
      cases here.symm.trans here'
      exact ⟨its, fated, rfl⟩
    by_cases its : mine e.call
    · rcases (fates _ _ _ thread its).event here rfl with ⟨r, fated, linearized⟩ | ⟨unfated, same⟩
      · obtain ⟨x, decided⟩ := exists_decided e.tid es e.choice
        obtain ⟨result, after⟩ := linearized.alone x decided
        have served := alone e mem its x
        rw [result, after] at served
        refine ⟨ls ++ [⟨n, e.tid, e.call, r⟩], serves.snoc ⟨n, e.tid, e.call, r⟩ served, ?_, ?_⟩
        · refine List.pairwise_append.2 ⟨ordered, List.pairwise_singleton .., fun l hl l' hl' => ?_⟩
          cases List.mem_singleton.1 hl'
          exact ((members l).1 hl).1
        · intro l
          rw [List.mem_append, members, List.mem_singleton]
          constructor
          · rintro (⟨before, took⟩ | rfl)
            · exact ⟨Nat.lt_succ_of_lt before, took⟩
            · exact ⟨Nat.lt_succ_self n, its, fated, e, here, rfl, rfl⟩
          · rintro ⟨before, took⟩
            rcases Nat.lt_succ_iff_lt_or_eq.1 before with before | same
            · exact .inl ⟨before, took⟩
            · obtain ⟨_, fated', eq⟩ := own l took same
              cases fated.symm.trans fated'
              exact .inr eq
      · exact skip (fun l took place => unfated _ (own l took place).2.1) (same ▸ serves)
    · exact skip (fun l took place => its (own l took place).1) (serves.amid (others e mem its))

variable (view abs) in
/-- In every interleaving, the calls of an object have taken effect in some order. -/
theorem System.Run.linearization (run : sys.Run (Pool.idle w₀) es p) (refl : ∀ w, later w w)
    (trans : ∀ {u v w}, later u v → later v w → later u w)
    (mono : ∀ x o w, later w (sys.exec x o w).2)
    (linear : ∀ c, mine c → (sys.body c).Linear sys.exec view later)
    (alone : ∀ e ∈ es, mine e.call → ∀ x, serve e.call (abs (view e.before))
      ((sys.body e.call).run sys.exec x e.before).1
      (abs (view ((sys.body e.call).run sys.exec x e.before).2)))
    (others : ∀ e ∈ es, ¬ mine e.call → env (abs (view e.before)) (abs (view e.after))) :
    ∃ ls, Linearization serve env mine es p (abs (view w₀)) (abs (view p.world)) ls := by
  have fated : ∀ i, ∃ f : Option (ℕ × Except ε α), ∀ c k, p.threads i = some (c, k) → mine c →
      Fate sys view i c es k f := by
    intro i
    rcases thread : p.threads i with _ | ⟨c, k⟩
    · exact ⟨none, fun _ _ same => by cases same⟩
    · by_cases its : mine c
      · obtain ⟨f, fate⟩ := (run.progress refl trans mono thread (linear c its)).fate
        exact ⟨f, fun _ _ same _ => by cases same; exact fate⟩
      · exact ⟨none, fun _ _ same its' => by cases same; exact absurd its' its⟩
  choose fate fates using fated
  obtain ⟨ls, serves, ordered, members⟩ := serves_until run alone others fates es.length (Nat.le_refl _)
  have last : worldAt es p.world es.length = p.world := by simp [worldAt]
  rw [last] at serves
  refine ⟨ls, serves, ordered, ?_, fun l hl => ?_, fun l hl c k r thread ends => ?_, ?_⟩
  · refine List.pairwise_map.2 (ordered.imp_of_mem fun {l l'} hl hl' before same => ?_)
    obtain ⟨_, _, fated, _⟩ := (members l).1 hl
    obtain ⟨_, _, fated', _⟩ := (members l').1 hl'
    rw [same, fated'] at fated
    have place : l'.place = l.place := (Prod.mk.inj (Option.some.inj fated)).1
    omega
  · obtain ⟨_, its, _, own⟩ := (members l).1 hl
    exact ⟨its, own⟩
  · obtain ⟨_, its, fated, e, here, own, call⟩ := (members l).1 hl
    obtain ⟨k', thread'⟩ := run.started e (List.mem_of_getElem? here)
    rw [own, thread] at thread'
    cases thread'
    have fate := fates _ _ _ thread (call ▸ its)
    exact (fated ▸ fate).answers ends
  · intro i c k r thread its ends acted
    obtain ⟨n, e, fated, here, own⟩ := (fates i c k thread its).acted ends acted
    obtain ⟨k', thread'⟩ := run.started e (List.mem_of_getElem? here)
    rw [own, thread] at thread'
    cases thread'
    refine ⟨⟨n, i, e.call, r⟩, (members _).2 ⟨?_, its, fated, e, here, own, rfl⟩, rfl⟩
    exact (List.getElem?_eq_some_iff.1 here).1

end Order

end

end Atomic
