import Estafeta.Lib.Prog

/-!
# Programs run one after the other

`Prog.transcript` is what a program that runs alone performs, and `Prog.shares` says with which choices
each program of a sequence runs: an earlier one has used up as many as it performs operations. Where no
program changes what the others see of the world, each of them runs as if it were alone
(`Prog.run_mapM_attempt`).
-/

namespace Atomic.Prog

variable {Op : Type} {Ans : Op → Type} {ε ε' α β γ σ V W χ : Type}
  {exec : χ → (o : Op) → W → Ans o × W} {x : ℕ → χ} {w w' : W}

/-- The operations that a program performs when it runs alone, with their answers. -/
def transcript (exec : χ → (o : Op) → W → Ans o × W) (x : ℕ → χ) :
    Prog Op Ans ε α → W → List (Σ o, Ans o)
  | .ret _, _ => []
  | .fail _, _ => []
  | .call o k, w =>
    ⟨o, (exec (x 0) o w).1⟩ ::
      (k (exec (x 0) o w).1).transcript exec (fun n => x (n + 1)) (exec (x 0) o w).2

/-- The choices that are left when the program has run. -/
def left (exec : χ → (o : Op) → W → Ans o × W) (p : Prog Op Ans ε α) (x : ℕ → χ) (w : W) : ℕ → χ :=
  fun n => x (n + (p.transcript exec x w).length)

/-- The choices with which each of the programs runs if all of them start from `w`. -/
def shares (exec : χ → (o : Op) → W → Ans o × W) (w : W) (body : γ → Prog Op Ans ε α) :
    List γ → (ℕ → χ) → List (γ × (ℕ → χ))
  | [], _ => []
  | c :: l, x => (c, x) :: shares exec w body l ((body c).left exec x w)

theorem fst_shares (body : γ → Prog Op Ans ε α) (l : List γ) (x : ℕ → χ) :
    (shares exec w body l x).map Prod.fst = l := by
  induction l generalizing x with
  | nil => rfl
  | cons c l ih => exact congrArg (c :: ·) (ih _)

theorem left_call (o : Op) (k : Ans o → Prog Op Ans ε α) (x : ℕ → χ) :
    (Prog.call o k).left exec x w =
      (k (exec (x 0) o w).1).left exec (fun n => x (n + 1)) (exec (x 0) o w).2 := by
  funext n
  exact congrArg x (Nat.add_succ n _)

/-! ## Rules -/

theorem run_bind_of_ok {p : Prog Op Ans ε α} {a : α} (f : α → Prog Op Ans ε β)
    (returns : (p.run exec x w).1 = .ok a) :
    (p >>= f).run exec x w = (f a).run exec (p.left exec x w) (p.run exec x w).2 := by
  induction p generalizing x w with
  | ret a =>
    cases returns
    rfl
  | fail e => cases returns
  | call o k ih =>
    rw [left_call]
    exact ih _ returns

theorem transcript_bind_of_ok {p : Prog Op Ans ε α} {a : α} (f : α → Prog Op Ans ε β)
    (returns : (p.run exec x w).1 = .ok a) :
    (p >>= f).transcript exec x w =
      p.transcript exec x w ++ (f a).transcript exec (p.left exec x w) (p.run exec x w).2 := by
  induction p generalizing x w with
  | ret a =>
    cases returns
    rfl
  | fail e => cases returns
  | call o k ih =>
    rw [left_call]
    exact congrArg (_ :: ·) (ih _ returns)

theorem run_attempt (p : Prog Op Ans ε α) (x : ℕ → χ) (w : W) :
    (p.attempt : Prog Op Ans ε' _).run exec x w = (.ok (p.run exec x w).1, (p.run exec x w).2) := by
  induction p generalizing x w with
  | ret a => rfl
  | fail e => rfl
  | call o k ih => exact ih ..

theorem transcript_attempt (p : Prog Op Ans ε α) (x : ℕ → χ) (w : W) :
    (p.attempt : Prog Op Ans ε' _).transcript exec x w = p.transcript exec x w := by
  induction p generalizing x w with
  | ret a => rfl
  | fail e => rfl
  | call o k ih => exact congrArg (_ :: ·) (ih ..)

/-- A loop that collects what its rounds return is the loop, and then the collecting. -/
theorem foldlM_collect (body : γ → Prog Op Ans ε β) (step : σ → β → σ) (l : List γ) (s : σ) :
    (l.foldlM (fun s c => body c >>= fun r => .ret (step s r)) s : Prog Op Ans ε σ) =
      l.mapM body >>= fun rs => .ret (rs.foldl step s) := by
  induction l generalizing s with
  | nil => rfl
  | cons c l ih =>
    rw [List.foldlM_cons, List.mapM_cons]
    simp only [bind_assoc, pure_eq, ret_bind, ih, List.foldl_cons]

/-! ## Programs that only look -/

/-- The operation answers by what `view` shows of the world, and leaves it as it is. -/
structure Looks (exec : χ → (o : Op) → W → Ans o × W) (view : W → V) (o : Op) : Prop where
  answer : ∀ x w w', view w' = view w → (exec x o w').1 = (exec x o w).1
  kept : ∀ x w, view (exec x o w).2 = view w

variable {view : W → V}

theorem Within.unseen {p : Prog Op Ans ε α} (looks : p.Within (Looks exec view)) (x : ℕ → χ) (w : W) :
    view (p.run exec x w).2 = view w :=
  looks.run (fun w' => view w' = view w) (fun x _ w' only kept => (only.kept x w').trans kept) rfl x

/-- A program that only looks runs alike from all worlds that look alike. -/
theorem Within.same {p : Prog Op Ans ε α} (looks : p.Within (Looks exec view))
    (alike : view w' = view w) (x : ℕ → χ) :
    (p.run exec x w').1 = (p.run exec x w).1 ∧ p.transcript exec x w' = p.transcript exec x w := by
  induction p generalizing w w' x with
  | ret a => exact ⟨rfl, rfl⟩
  | fail e => exact ⟨rfl, rfl⟩
  | call o k ih =>
    have answer := looks.1.answer (x 0) w w' alike
    have next : view (exec (x 0) o w').2 = view (exec (x 0) o w).2 := by
      rw [looks.1.kept, looks.1.kept, alike]
    obtain ⟨run, transcript⟩ := ih _ (looks.2 _) next fun n => x (n + 1)
    unfold Prog.run Prog.transcript
    rw [answer]
    exact ⟨run, congrArg (_ :: ·) transcript⟩

/-- Programs that only look, run one after the other whatever becomes of each, run as if each were
alone. -/
theorem run_mapM_attempt (ε' : Type) {body : γ → Prog Op Ans ε α}
    (looks : ∀ c, (body c).Within (Looks exec view)) (l : List γ) (alike : view w' = view w)
    (x : ℕ → χ) :
    let p : Prog Op Ans ε' (List (Except ε α)) := l.mapM fun c => (body c).attempt
    (p.run exec x w').1 =
        .ok ((shares exec w body l x).map fun s => ((body s.1).run exec s.2 w).1) ∧
      p.transcript exec x w' =
        (shares exec w body l x).flatMap (fun s => (body s.1).transcript exec s.2 w) ∧
      view (p.run exec x w').2 = view w := by
  intro p
  induction l generalizing x w' with
  | nil => exact ⟨rfl, rfl, alike⟩
  | cons c l ih =>
    obtain ⟨outcome, performed⟩ := (looks c).same alike x
    have later : ((body c).attempt : Prog Op Ans ε' _).left exec x w' = (body c).left exec x w := by
      unfold left
      rw [transcript_attempt, performed]
    obtain ⟨outcomes, rest, views⟩ :=
      ih (((looks c).unseen x w').trans alike) ((body c).left exec x w)
    have first : (((body c).attempt : Prog Op Ans ε' _).run exec x w').1 =
        .ok ((body c).run exec x w).1 := by
      rw [run_attempt, outcome]
    have after : (((body c).attempt : Prog Op Ans ε' _).run exec x w').2 =
        ((body c).run exec x w').2 := by
      rw [run_attempt]
    have cons : p = (body c).attempt >>= fun r =>
        (l.mapM fun c => (body c).attempt) >>= fun rs => Prog.ret (r :: rs) := List.mapM_cons
    rw [cons, run_bind_of_ok _ first, transcript_bind_of_ok _ first, transcript_attempt, performed,
      later, after, run_bind_of_ok _ outcomes, transcript_bind_of_ok _ outcomes, rest]
    refine ⟨rfl, ?_, views⟩
    rw [transcript, List.append_nil, shares, List.flatMap_cons]

end Atomic.Prog
