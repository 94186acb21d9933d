import Estafeta.Lib.Pool

/-!
# Programs that take effect at one operation

A program is `Linear` if it only looks before one of its operations, at what does not change any more
once it has been seen, and is settled after it. Whatever other threads do in between, such a program
then answers, and changes what `view` shows of the world, as if it ran alone from the moment of that
operation (`System.Run.linearized`); a program that fails has changed nothing.
-/

namespace Atomic

namespace Prog

variable {Op : Type} {Ans : Op → Type} {ε ε' α β γ V W χ : Type}

/-- How a program has ended. -/
def Ends : Prog Op Ans ε α → Except ε α → Prop
  | .ret a, r => r = .ok a
  | .fail e, r => r = .error e
  | .call _ _, _ => False

section

variable (exec : χ → (o : Op) → W → Ans o × W) (view : W → V) (later : W → W → Prop)

/-- Whatever it is answered, the program ends as `r`, and the view stays as it is. -/
def Settled (r : Except ε α) : Prog Op Ans ε α → Prop
  | .ret a => r = .ok a
  | .fail e => r = .error e
  | .call o k => (∀ x w, view (exec x o w).2 = view w) ∧ ∀ a, (k a).Settled r

/-- Each operation of the program settles it, or is a look at the world after which the program goes
on in the same way in all later worlds. -/
def Linear : Prog Op Ans ε α → Prop
  | .ret _ => True
  | .fail _ => True
  | .call o k => ∀ x w,
    (∃ r, (k (exec x o w).1).Settled exec view r ∧
        ∀ e, r = .error e → view (exec x o w).2 = view w) ∨
      (k (exec x o w).1).Linear ∧
        ∀ w', later w w' → k (exec x o w').1 = k (exec x o w).1 ∧ (exec x o w').2 = w'

end

variable {exec : χ → (o : Op) → W → Ans o × W} {view : W → V} {later : W → W → Prop}

theorem Done.ends {p : Prog Op Ans ε α} (done : p.Done) : ∃ r, p.Ends r := by
  cases p with
  | ret a => exact ⟨_, rfl⟩
  | fail e => exact ⟨_, rfl⟩
  | call => exact done.elim

theorem Done.bind {p : Prog Op Ans ε α} {f : α → Prog Op Ans ε β} (done : p.Done)
    (rest : ∀ a, (f a).Done) : (p >>= f).Done := by
  cases p with
  | ret a => exact rest a
  | fail e => trivial
  | call => exact done.elim

theorem done_okOr (e : ε) (o : Option α) : (okOr e o : Prog Op Ans ε α).Done := by
  cases o <;> trivial

theorem done_ensure (c : Bool) (e : ε) : (ensure c e : Prog Op Ans ε Unit).Done := by
  cases c <;> trivial

theorem Settled.of_ends {p : Prog Op Ans ε α} {r : Except ε α} (ends : p.Ends r) :
    p.Settled exec view r := by
  cases p with
  | call => exact ends.elim
  | _ => exact ends

theorem Settled.ends_iff {p : Prog Op Ans ε α} {r r' : Except ε α} (settled : p.Settled exec view r)
    (ends : p.Ends r') : r = r' := by
  cases p with
  | call => exact ends.elim
  | _ => exact settled.trans ends.symm

theorem Settled.run {p : Prog Op Ans ε α} {r : Except ε α} (settled : p.Settled exec view r)
    (x : ℕ → χ) (w : W) :
    (p.run exec x w).1 = r ∧ view (p.run exec x w).2 = view w := by
  induction p generalizing x w with
  | ret a => exact ⟨settled.symm, rfl⟩
  | fail e => exact ⟨settled.symm, rfl⟩
  | call o k ih =>
    obtain ⟨ends, kept⟩ := ih _ (settled.2 _) (fun n => x (n + 1)) (exec (x 0) o w).2
    exact ⟨ends, kept.trans (settled.1 ..)⟩

theorem Settled.mapErr {p : Prog Op Ans ε α} {r : Except ε α} (g : ε → ε')
    (settled : p.Settled exec view r) : (p.mapErr g).Settled exec view (r.mapError g) := by
  induction p with
  | ret a =>
    cases settled
    rfl
  | fail e =>
    cases settled
    rfl
  | call o k ih => exact ⟨settled.1, fun a => ih a (settled.2 a)⟩

theorem Settled.map {p : Prog Op Ans ε α} {r : Except ε α} (g : α → β)
    (settled : p.Settled exec view r) :
    (p >>= fun a => .ret (g a)).Settled exec view (r.map g) := by
  induction p with
  | ret a =>
    cases settled
    rfl
  | fail e =>
    cases settled
    rfl
  | call o k ih => exact ⟨settled.1, fun a => ih a (settled.2 a)⟩

/-! ## Rules -/

theorem Linear.mapErr {p : Prog Op Ans ε α} (g : ε → ε') (linear : p.Linear exec view later) :
    (p.mapErr g).Linear exec view later := by
  induction p with
  | ret a => trivial
  | fail e => trivial
  | call o k ih =>
    intro x w
    rcases linear x w with ⟨r, settled, failing⟩ | ⟨rest, same⟩
    · refine .inl ⟨_, settled.mapErr g, fun e failed => ?_⟩
      cases r with
      | ok a => cases failed
      | error e' => exact failing e' rfl
    · exact .inr ⟨ih _ rest, fun w' h => ⟨congrArg (Prog.mapErr g) (same w' h).1, (same w' h).2⟩⟩

theorem Linear.map {p : Prog Op Ans ε α} (g : α → β) (linear : p.Linear exec view later) :
    (p >>= fun a => .ret (g a)).Linear exec view later := by
  induction p with
  | ret a => trivial
  | fail e => trivial
  | call o k ih =>
    intro x w
    rcases linear x w with ⟨r, settled, failing⟩ | ⟨rest, same⟩
    · refine .inl ⟨_, settled.map g, fun e failed => ?_⟩
      cases r with
      | ok a => cases failed
      | error e' => exact failing e' rfl
    · exact .inr ⟨ih _ rest, fun w' h => ⟨congrArg (· >>= _) (same w' h).1, (same w' h).2⟩⟩

theorem linear_okOr_bind {e : ε} {o : Option α} {f : α → Prog Op Ans ε β}
    (rest : ∀ a, (f a).Linear exec view later) : (okOr e o >>= f).Linear exec view later := by
  cases o with
  | none => trivial
  | some a => exact rest a

theorem linear_ofExcept_bind {r : Except ε α} {f : α → Prog Op Ans ε β}
    (rest : ∀ a, (f a).Linear exec view later) : (ofExcept r >>= f).Linear exec view later := by
  cases r with
  | error e => trivial
  | ok a => exact rest a

theorem linear_ensure_bind {c : Bool} {e : ε} {f : Unit → Prog Op Ans ε β}
    (rest : (f ()).Linear exec view later) : (ensure c e >>= f).Linear exec view later := by
  cases c with
  | false => trivial
  | true => exact rest

end Prog

/-! ## Runs -/

section

variable {C Op V W χ ε α : Type} {Ans : Op → Type} {sys : System C Op Ans W χ ε α} {view : W → V}
  {later : W → W → Prop}

/-- The events of a thread. -/
def eventsOf (i : ℕ) (es : List (Event C Op Ans W χ)) : List (Event C Op Ans W χ) :=
  es.filter fun e => e.tid = i

theorem eventsOf_snoc_self {i : ℕ} {es : List (Event C Op Ans W χ)} {e : Event C Op Ans W χ}
    (own : e.tid = i) : eventsOf i (es ++ [e]) = eventsOf i es ++ [e] := by
  simp [eventsOf, own]

theorem eventsOf_snoc_other {i : ℕ} {es : List (Event C Op Ans W χ)} {e : Event C Op Ans W χ}
    (other : e.tid ≠ i) : eventsOf i (es ++ [e]) = eventsOf i es := by
  simp [eventsOf, other]

/-- The environment decides as it has decided for the thread. -/
def Decided (i : ℕ) (es : List (Event C Op Ans W χ)) (x : ℕ → χ) : Prop :=
  ∀ n e, (eventsOf i es)[n]? = some e → x n = e.choice

theorem Decided.of_snoc {i : ℕ} {es : List (Event C Op Ans W χ)} {e : Event C Op Ans W χ} {x : ℕ → χ}
    (decided : Decided i (es ++ [e]) x) : Decided i es x := by
  intro n e' h
  refine decided n e' ?_
  by_cases own : e.tid = i
  · rw [eventsOf_snoc_self own]
    exact List.getElem?_append_left (List.getElem?_eq_some_iff.1 h).1 ▸ h
  · rwa [eventsOf_snoc_other own]

theorem Decided.last {i : ℕ} {es : List (Event C Op Ans W χ)} {e : Event C Op Ans W χ} {x : ℕ → χ}
    (decided : Decided i (es ++ [e]) x) (own : e.tid = i) :
    x (eventsOf i es).length = e.choice := by
  refine decided _ e ?_
  rw [eventsOf_snoc_self own]
  exact List.getElem?_concat_length

/-- The thread leaves the view as it is. -/
def Quiet (view : W → V) (i : ℕ) (es : List (Event C Op Ans W χ)) : Prop :=
  ∀ e ∈ es, e.tid = i → view e.after = view e.before

theorem Quiet.snoc {i : ℕ} {es : List (Event C Op Ans W χ)} {e : Event C Op Ans W χ}
    (quiet : Quiet view i es) (last : e.tid = i → view e.after = view e.before) :
    Quiet view i (es ++ [e]) := by
  intro e' he
  rcases List.mem_append.1 he with he | he
  · exact quiet e' he
  · obtain rfl := List.mem_singleton.1 he
    exact last

/-- The thread has taken effect at its operation `e`: it ends, if it does, and has changed the view as
if its call had run alone from there. -/
structure Linearized (sys : System C Op Ans W χ ε α) (view : W → V) (i : ℕ) (c : C)
    (es : List (Event C Op Ans W χ)) (k : Prog Op Ans ε α) (e : Event C Op Ans W χ)
    (r : Except ε α) : Prop where
  own : e.tid = i
  alone : ∀ x, Decided i es x → ((sys.body c).run sys.exec x e.before).1 = r ∧
    view ((sys.body c).run sys.exec x e.before).2 = view e.after
  ends : ∀ r', k.Ends r' → r' = r
  failing : ∀ err, r = .error err → view e.after = view e.before

/-- What a thread has done so far: it has only looked, or it has taken effect. -/
def Progress (sys : System C Op Ans W χ ε α) (view : W → V) (later : W → W → Prop) (i : ℕ) (c : C)
    (es : List (Event C Op Ans W χ)) (w : W) (k : Prog Op Ans ε α) : Prop :=
  (Quiet view i es ∧ (∀ r, k.Ends r → eventsOf i es = []) ∧ k.Linear sys.exec view later ∧
      ∀ x, Decided i es x → ∀ w', later w w' →
        (sys.body c).run sys.exec x w' =
          k.run sys.exec (fun n => x (n + (eventsOf i es).length)) w') ∨
    ∃ pre e post r, es = pre ++ e :: post ∧ Quiet view i (pre ++ post) ∧
      k.Settled sys.exec view r ∧ Linearized sys view i c es k e r

section Progress

variable {i : ℕ} {c : C} {es : List (Event C Op Ans W χ)} {w : W} {o : Op}
  {k : Ans o → Prog Op Ans ε α} {x : χ}

theorem Progress.looked (refl : ∀ w, later w w) (trans : ∀ {u v w}, later u v → later v w → later u w)
    (mono : ∀ x o w, later w (sys.exec x o w).2) (quiet : Quiet view i es)
    (linear : (Prog.call o k).Linear sys.exec view later)
    (alone : ∀ x, Decided i es x → ∀ w', later w w' →
      (sys.body c).run sys.exec x w' =
        (Prog.call o k).run sys.exec (fun n => x (n + (eventsOf i es).length)) w') :
    Progress sys view later i c (es ++ [sys.event i c o x w]) (sys.exec x o w).2
      (k (sys.exec x o w).1) := by
  have steps : (eventsOf i (es ++ [sys.event i c o x w])).length = (eventsOf i es).length + 1 := by
    have own : (sys.event i c o x w).tid = i := rfl
    rw [eventsOf_snoc_self own, List.length_append, List.length_singleton]
  -- alone from a later world, the call makes the same operation with the same choice
  have next : ∀ y, Decided i (es ++ [sys.event i c o x w]) y → ∀ w', later w w' →
      (sys.body c).run sys.exec y w' = (k (sys.exec x o w').1).run sys.exec
        (fun n => y (n + (eventsOf i (es ++ [sys.event i c o x w])).length))
        (sys.exec x o w').2 := by
    intro y decided w' after
    have chosen : y (0 + (eventsOf i es).length) = x :=
      (Nat.zero_add _).symm ▸ decided.last rfl
    rw [alone y decided.of_snoc w' after, Prog.run, chosen, steps]
    simp only [Nat.add_assoc, Nat.add_comm 1]
  by_cases settles : ∃ r, (k (sys.exec x o w).1).Settled sys.exec view r ∧
      ∀ e, r = .error e → view (sys.exec x o w).2 = view w
  · obtain ⟨r, settled, failing⟩ := settles
    refine .inr ⟨es, sys.event i c o x w, [], r, rfl, by rwa [List.append_nil], settled, rfl, ?_,
      fun r' ends => (settled.ends_iff ends).symm, failing⟩
    intro y decided
    show ((sys.body c).run sys.exec y w).1 = r ∧
      view ((sys.body c).run sys.exec y w).2 = view (sys.exec x o w).2
    rw [next y decided w (refl w)]
    exact settled.run ..
  · obtain ⟨rest, same⟩ := (linear x w).resolve_left settles
    obtain ⟨_, unchanged⟩ := same w (refl w)
    refine .inl ⟨quiet.snoc fun _ => congrArg view unchanged, fun r ends => ?_, rest, ?_⟩
    · exact absurd ⟨r, .of_ends ends, fun _ _ => congrArg view unchanged⟩ settles
    · intro y decided w' after
      obtain ⟨answered, kept⟩ := same w' (trans (mono x o w) after)
      rw [next y decided w' (trans (mono x o w) after), answered, kept]

theorem Progress.settled {pre post : List (Event C Op Ans W χ)} {e : Event C Op Ans W χ}
    {r : Except ε α} (split : es = pre ++ e :: post) (quiet : Quiet view i (pre ++ post))
    (settled : (Prog.call o k).Settled sys.exec view r)
    (linearized : Linearized sys view i c es (.call o k) e r) :
    Progress sys view later i c (es ++ [sys.event i c o x w]) (sys.exec x o w).2
      (k (sys.exec x o w).1) := by
  have rest := settled.2 (sys.exec x o w).1
  refine .inr ⟨pre, e, post ++ [sys.event i c o x w], r, by simp [split], ?_, rest,
    { linearized with
      alone := fun y decided => linearized.alone y decided.of_snoc
      ends := fun r' ends => (rest.ends_iff ends).symm }⟩
  rw [← List.append_assoc]
  exact quiet.snoc fun _ => settled.1 x w

theorem Progress.other {k : Prog Op Ans ε α} {j : ℕ} {d : C}
    (trans : ∀ {u v w}, later u v → later v w → later u w)
    (mono : ∀ x o w, later w (sys.exec x o w).2) (apart : j ≠ i)
    (progress : Progress sys view later i c es w k) :
    Progress sys view later i c (es ++ [sys.event j d o x w]) (sys.exec x o w).2 k := by
  have other : (sys.event j d o x w).tid ≠ i := apart
  rcases progress with ⟨quiet, ended, linear, alone⟩ |
    ⟨pre, e, post, r, split, quiet, settled, linearized⟩
  · refine .inl ⟨quiet.snoc fun own => absurd own other, ?_, linear, ?_⟩
    · rwa [eventsOf_snoc_other other]
    · intro y decided w' after
      rw [eventsOf_snoc_other other]
      exact alone y decided.of_snoc w' (trans (mono x o w) after)
  · refine .inr ⟨pre, e, post ++ [sys.event j d o x w], r, by simp [split], ?_, settled,
      { linearized with alone := fun y decided => linearized.alone y decided.of_snoc }⟩
    rw [← List.append_assoc]
    exact quiet.snoc fun own => absurd own other

end Progress

/-- In every interleaving, a thread whose program is linear has only looked so far, or has taken effect
at one of its operations. -/
theorem System.Run.progress {w₀ : W} {es : List (Event C Op Ans W χ)} {p : Pool C Op Ans W ε α}
    (refl : ∀ w, later w w) (trans : ∀ {u v w}, later u v → later v w → later u w)
    (mono : ∀ x o w, later w (sys.exec x o w).2) (run : sys.Run (Pool.idle w₀) es p) {i : ℕ} {c : C}
    {k : Prog Op Ans ε α} (thread : p.threads i = some (c, k))
    (linear : (sys.body c).Linear sys.exec view later) :
    Progress sys view later i c es p.world k := by
  induction run generalizing i c k with
  | init => cases thread
  | @start es p j d run free ih =>
    by_cases same : i = j
    · subst same
      cases (Function.update_self ..).symm.trans thread
      have none : eventsOf i es = [] := by
        refine List.filter_eq_nil_iff.2 fun e he own => ?_
        obtain ⟨_, started⟩ := run.started e he
        rw [of_decide_eq_true own, free] at started
        cases started
      refine .inl ⟨fun e he own => ?_, fun _ _ => none, linear, fun x _ w' _ => ?_⟩
      · exact absurd (List.mem_filter.2 ⟨he, decide_eq_true own⟩) (none ▸ List.not_mem_nil)
      · rw [none]
        rfl
    · exact ih ((Function.update_of_ne same ..).symm.trans thread) linear
  | @step es p j d o l x _ at_call ih =>
    by_cases same : i = j
    · subst same
      cases (Function.update_self ..).symm.trans thread
      rcases ih at_call linear with ⟨quiet, _, linear, alone⟩ |
        ⟨pre, e, post, r, split, quiet, settled, linearized⟩
      · exact .looked refl trans mono quiet linear alone
      · exact .settled split quiet settled linearized
    · exact (ih ((Function.update_of_ne same ..).symm.trans thread) linear).other trans mono
        (Ne.symm same)

end

end Atomic
