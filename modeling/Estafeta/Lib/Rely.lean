import Estafeta.Lib.History

/-!
# Programs among other threads

`Prog.Relies` says how a program ends when other threads change the world between any two of its
operations, as long as each of these changes is one that the program relies on. It is proved
operation by operation and composed as the program is (`relies_bind`, `relies_mapErr`,
`relies_attempt`); `System.Run.relied` says that it holds of the threads of every interleaving.
-/

namespace Atomic

namespace Prog

variable {Op : Type} {Ans : Op → Type} {ε ε' α β W χ : Type}

/-- Other threads change the world as `rely` says, and the environment decides about the operations of
the program as `ok` says. The program, having done `h` before, then ends with `Q` if it returns and
with `E` if it fails. -/
def Relies (rely : W → W → Prop) (exec : χ → (o : Op) → W → Ans o × W) (ok : χ → Op → W → Prop)
    (E : List (Σ o, Ans o) → W → ε → Prop) (Q : List (Σ o, Ans o) → W → α → Prop) :
    Prog Op Ans ε α → List (Σ o, Ans o) → W → Prop
  | .ret a, h, w => Q h w a
  | .fail e, h, w => E h w e
  | .call o k, h, w => ∀ w', rely w w' → ∀ x, ok x o w' →
    (k (exec x o w').1).Relies rely exec ok E Q (h ++ [⟨o, (exec x o w').1⟩]) (exec x o w').2

variable {rely : W → W → Prop} {exec : χ → (o : Op) → W → Ans o × W} {ok : χ → Op → W → Prop}
  {E : List (Σ o, Ans o) → W → ε → Prop} {Q : List (Σ o, Ans o) → W → α → Prop}

theorem relies_bind {Q : List (Σ o, Ans o) → W → β → Prop} (p : Prog Op Ans ε α)
    (f : α → Prog Op Ans ε β) (h : List (Σ o, Ans o)) (w : W) :
    (p >>= f).Relies rely exec ok E Q h w ↔
      p.Relies rely exec ok E (fun h w a => (f a).Relies rely exec ok E Q h w) h w := by
  induction p generalizing h w with
  | ret a => rfl
  | fail e => rfl
  | call o k ih => simp only [call_bind, Relies, ih]

theorem relies_mapErr {E' : List (Σ o, Ans o) → W → ε' → Prop} (g : ε → ε') (p : Prog Op Ans ε α)
    (h : List (Σ o, Ans o)) (w : W) : (p.mapErr g).Relies rely exec ok E' Q h w ↔
      p.Relies rely exec ok (fun h w e => E' h w (g e)) Q h w := by
  induction p generalizing h w with
  | ret a => rfl
  | fail e => rfl
  | call o k ih => simp only [mapErr, Relies, ih]

theorem relies_attempt {E' : List (Σ o, Ans o) → W → ε' → Prop}
    {Q : List (Σ o, Ans o) → W → Except ε α → Prop} (p : Prog Op Ans ε α) (h : List (Σ o, Ans o))
    (w : W) : (p.attempt : Prog Op Ans ε' _).Relies rely exec ok E' Q h w ↔
      p.Relies rely exec ok (fun h w e => Q h w (.error e)) (fun h w a => Q h w (.ok a)) h w := by
  induction p generalizing h w with
  | ret a => rfl
  | fail e => rfl
  | call o k ih => simp only [attempt, Relies, ih]

theorem relies_okOr (e : ε) (o : Option α) (h : List (Σ o, Ans o)) (w : W) :
    (okOr e o : Prog Op Ans ε α).Relies rely exec ok E Q h w ↔
      (o = none → E h w e) ∧ ∀ a, o = some a → Q h w a := by
  cases o <;> simp [okOr, Relies]

theorem Relies.mono {E' : List (Σ o, Ans o) → W → ε → Prop} {Q' : List (Σ o, Ans o) → W → α → Prop}
    {p : Prog Op Ans ε α} {h : List (Σ o, Ans o)} {w : W} (relies : p.Relies rely exec ok E Q h w)
    (fails : ∀ h w e, E h w e → E' h w e) (returns : ∀ h w a, Q h w a → Q' h w a) :
    p.Relies rely exec ok E' Q' h w := by
  induction p generalizing h w with
  | ret a => exact returns h w a relies
  | fail e => exact fails h w e relies
  | call o k ih => exact fun w' later x good => ih _ (relies w' later x good)

theorem Relies.extends {p : Prog Op Ans ε α} {h₀ h : List (Σ o, Ans o)} {w : W} (before : h₀ <+: h)
    (relies : p.Relies rely exec ok E Q h w) :
    p.Relies rely exec ok (fun h w e => h₀ <+: h ∧ E h w e) (fun h w a => h₀ <+: h ∧ Q h w a) h w := by
  induction p generalizing h w with
  | ret a => exact ⟨before, relies⟩
  | fail e => exact ⟨before, relies⟩
  | call o k ih =>
    exact fun w' later x good =>
      ih _ (before.trans (List.prefix_append ..)) (relies w' later x good)

end Prog

section

variable {C Op W χ ε α : Type} {Ans : Op → Type} {sys : System C Op Ans W χ ε α}
  {rely : W → W → Prop} {ok : χ → Op → W → Prop} {E : List (Σ o, Ans o) → W → ε → Prop}
  {Q : List (Σ o, Ans o) → W → α → Prop}

/-- In every interleaving in which the other threads change the world as a thread relies on, what is
left of the thread goes on as its program ensures. -/
theorem System.Run.relied {w₀ : W} {es : List (Event C Op Ans W χ)} {p : Pool C Op Ans W ε α}
    (still : ∀ es q, sys.Run (Pool.idle w₀) es q → rely q.world q.world)
    (steps : ∀ es q, sys.Run (Pool.idle w₀) es q → ∀ e ∈ es, rely e.before e.after)
    (trans : ∀ {u v w}, rely u v → rely v w → rely u w) (run : sys.Run (Pool.idle w₀) es p) {i : ℕ}
    {c : C} {k : Prog Op Ans ε α} (thread : p.threads i = some (c, k))
    (own : ∀ e ∈ es, e.tid = i → ok e.choice e.op e.before)
    (start : ∀ w, (sys.body c).Relies rely sys.exec ok E Q [] w) :
    ∃ w, rely w p.world ∧ k.Relies rely sys.exec ok E Q (doneBy es i) w := by
  induction run generalizing k with
  | init => cases thread
  | @start es p j d run free ih =>
    by_cases same : i = j
    · subst same
      cases (Function.update_self ..).symm.trans thread
      have none : doneBy es i = [] := by
        rw [doneBy, List.map_eq_nil_iff, List.filter_eq_nil_iff]
        intro e he own
        obtain ⟨_, started⟩ := run.started e he
        rw [of_decide_eq_true own, free] at started
        cases started
      exact ⟨p.world, still es p run, none ▸ start p.world⟩
    · exact ih ((Function.update_of_ne same ..).symm.trans thread) own
  | @step es p j d o l x run at_call ih =>
    have stepped := run.step x at_call
    have earlier := fun {k} thread => ih (k := k) thread
      fun e he => own e (List.mem_append_left _ he)
    by_cases same : i = j
    · subst same
      cases (Function.update_self ..).symm.trans thread
      obtain ⟨w, later, relies⟩ := earlier at_call
      refine ⟨_, still _ _ stepped, ?_⟩
      rw [doneBy_append, doneBy_own (e := sys.event i c o x p.world) (i := i) rfl]
      exact relies _ later x (own _ (List.mem_append_right _ (.head _)) rfl)
    · obtain ⟨w, later, relies⟩ := earlier ((Function.update_of_ne same ..).symm.trans thread)
      refine ⟨w, trans later (steps _ _ stepped _ (List.mem_append_right _ (.head _))), ?_⟩
      rwa [doneBy_append, doneBy_other (e := sys.event j d o x p.world) (Ne.symm same),
        List.append_nil]

end

end Atomic
