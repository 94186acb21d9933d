import Mathlib.Data.Nat.Notation

/-!
# Programs of atomic operations

`Prog Op Ans ε α` is a program that performs operations `o : Op` one at a time, receives an answer
of type `Ans o` to each, and either returns a value of type `α` or fails with an error of type `ε`.
Nothing is said here about what an operation does; a program is only the tree of its possible
interactions.

A `Monitor` is an automaton that watches the operations of a program and the answers it gets.
`Prog.Obeys` says that on every path of the program, whatever the answers, each operation is one
that the monitor permits in the state it has reached. It is proved compositionally
(`obeys_bind`, `obeys_forM`, `obeys_foldlM`, `obeys_attempt`).
-/

namespace Atomic

/-- A program over the operations `Op`, which are answered by values of type `Ans o`. -/
inductive Prog (Op : Type) (Ans : Op → Type) (ε α : Type) where
  | ret (a : α)
  | fail (e : ε)
  | call (o : Op) (k : Ans o → Prog Op Ans ε α)

namespace Prog

variable {Op : Type} {Ans : Op → Type} {ε ε' α β γ σ : Type}

/-- Continue with `f` when the program returns; a failure ends it. -/
def bind : Prog Op Ans ε α → (α → Prog Op Ans ε β) → Prog Op Ans ε β
  | .ret a, f => f a
  | .fail e, _ => .fail e
  | .call o k, f => .call o fun a => (k a).bind f

instance : Monad (Prog Op Ans ε) where
  pure := .ret
  bind := .bind

@[simp] theorem pure_eq (a : α) : (pure a : Prog Op Ans ε α) = .ret a := rfl

@[simp] theorem ret_bind (a : α) (f : α → Prog Op Ans ε β) : (Prog.ret a >>= f) = f a := rfl

@[simp] theorem fail_bind (e : ε) (f : α → Prog Op Ans ε β) : (Prog.fail e >>= f) = .fail e := rfl

@[simp] theorem call_bind (o : Op) (k : Ans o → Prog Op Ans ε α) (f : α → Prog Op Ans ε β) :
    (Prog.call o k >>= f) = .call o fun a => k a >>= f := rfl

theorem bind_ret (p : Prog Op Ans ε α) : (p >>= fun a => Prog.ret a) = p := by
  induction p with
  | ret a => rfl
  | fail e => rfl
  | call o k ih => simp only [call_bind, ih]

theorem bind_assoc (p : Prog Op Ans ε α) (f : α → Prog Op Ans ε β) (g : β → Prog Op Ans ε γ) :
    (p >>= f >>= g) = p >>= fun a => f a >>= g := by
  induction p with
  | ret a => rfl
  | fail e => rfl
  | call o k ih => simp only [call_bind, ih]

instance : LawfulMonad (Prog Op Ans ε) :=
  LawfulMonad.mk' _ (fun p => bind_ret p) (fun _ _ => rfl) bind_assoc

/-- Translate the error of a failing program. -/
def mapErr (g : ε → ε') : Prog Op Ans ε α → Prog Op Ans ε' α
  | .ret a => .ret a
  | .fail e => .fail (g e)
  | .call o k => .call o fun a => (k a).mapErr g

/-- Run a program and hand over how it ended, so that the caller can go on after a failure. -/
def attempt : Prog Op Ans ε α → Prog Op Ans ε' (Except ε α)
  | .ret a => .ret (.ok a)
  | .fail e => .ret (.error e)
  | .call o k => .call o fun a => (k a).attempt

/-- A program that has ended, with or without an error. -/
def Done : Prog Op Ans ε α → Prop
  | .call _ _ => False
  | _ => True

/-- Turn an optional value into a value or a failure. -/
def okOr (e : ε) : Option α → Prog Op Ans ε α
  | some a => .ret a
  | none => .fail e

/-- Turn a result into a value or a failure. -/
def ofExcept : Except ε α → Prog Op Ans ε α
  | .ok a => .ret a
  | .error e => .fail e

/-- Go on if the condition holds, and fail otherwise. -/
def ensure (c : Bool) (e : ε) : Prog Op Ans ε Unit := if c then .ret () else .fail e

/-! ## Running a program alone -/

/-- Run a program alone, the `n`-th operation being decided by the environment's choice `x n`. -/
def run {W χ : Type} (exec : χ → (o : Op) → W → Ans o × W) (x : ℕ → χ) :
    Prog Op Ans ε α → W → Except ε α × W
  | .ret a, w => (.ok a, w)
  | .fail e, w => (.error e, w)
  | .call o k, w => (k (exec (x 0) o w).1).run exec (fun n => x (n + 1)) (exec (x 0) o w).2

/-! ## Interactions -/

/-- The program performs the operations of `h`, gets the answers of `h`, and goes on as `q`. -/
inductive Trace : Prog Op Ans ε α → List (Σ o, Ans o) → Prog Op Ans ε α → Prop where
  | nil (p) : Trace p [] p
  | cons {o k a h q} : Trace (k a) h q → Trace (.call o k) (⟨o, a⟩ :: h) q

end Prog

/-! ## Monitors -/

/-- An automaton watching the operations of a program: which operations it permits in a state, and
how the answer to one changes its state. -/
structure Monitor (Op : Type) (Ans : Op → Type) (σ : Type) where
  may : σ → Op → Prop
  next : σ → (o : Op) → Ans o → σ

/-- The monitor that records the interactions, and permits an operation where `P` does after them. -/
def Monitor.recording {Op : Type} {Ans : Op → Type} (P : List (Σ o, Ans o) → Op → Prop) :
    Monitor Op Ans (List (Σ o, Ans o)) where
  may := P
  next h o a := h ++ [⟨o, a⟩]

namespace Prog

variable {Op : Type} {Ans : Op → Type} {ε ε' α β γ σ τ : Type}

/-- Every operation of the program, on every path, is permitted by `m`; `E` holds when it fails and
`Q` when it returns, of the state that `m` is then in. -/
def Obeys (m : Monitor Op Ans σ) (E : σ → ε → Prop) (Q : σ → α → Prop) :
    Prog Op Ans ε α → σ → Prop
  | .ret a, s => Q s a
  | .fail e, s => E s e
  | .call o k, s => m.may s o ∧ ∀ a, (k a).Obeys m E Q (m.next s o a)

variable {m : Monitor Op Ans σ} {E : σ → ε → Prop} {Q : σ → α → Prop}

@[simp] theorem obeys_ret (a : α) (s : σ) : (Prog.ret a : Prog Op Ans ε α).Obeys m E Q s ↔ Q s a :=
  Iff.rfl

@[simp] theorem obeys_fail (e : ε) (s : σ) :
    (Prog.fail e : Prog Op Ans ε α).Obeys m E Q s ↔ E s e := Iff.rfl

@[simp] theorem obeys_call (o : Op) (k : Ans o → Prog Op Ans ε α) (s : σ) :
    (Prog.call o k).Obeys m E Q s ↔ m.may s o ∧ ∀ a, (k a).Obeys m E Q (m.next s o a) := Iff.rfl

@[simp] theorem obeys_okOr (e : ε) (o : Option α) (s : σ) :
    (okOr e o : Prog Op Ans ε α).Obeys m E Q s ↔ (o = none → E s e) ∧ ∀ a, o = some a → Q s a := by
  cases o <;> simp [okOr]

@[simp] theorem obeys_ofExcept (r : Except ε α) (s : σ) :
    (ofExcept r : Prog Op Ans ε α).Obeys m E Q s ↔
      (∀ e, r = .error e → E s e) ∧ ∀ a, r = .ok a → Q s a := by
  cases r <;> simp [ofExcept]

@[simp] theorem obeys_ensure {Q : σ → Unit → Prop} (c : Bool) (e : ε) (s : σ) :
    (ensure c e : Prog Op Ans ε Unit).Obeys m E Q s ↔ (c = false → E s e) ∧ (c = true → Q s ()) := by
  cases c <;> simp [ensure]

/-- A program followed by another is checked by running the monitor through the first. -/
theorem obeys_bind {Q : σ → β → Prop} (p : Prog Op Ans ε α) (f : α → Prog Op Ans ε β) (s : σ) :
    (p >>= f).Obeys m E Q s ↔ p.Obeys m E (fun s a => (f a).Obeys m E Q s) s := by
  induction p generalizing s with
  | ret a => rfl
  | fail e => rfl
  | call o k ih => simp only [call_bind, obeys_call, ih]

theorem Obeys.mono {E' : σ → ε → Prop} {Q' : σ → α → Prop} {p : Prog Op Ans ε α} {s : σ}
    (h : p.Obeys m E Q s) (fails : ∀ s e, E s e → E' s e) (returns : ∀ s a, Q s a → Q' s a) :
    p.Obeys m E' Q' s := by
  induction p generalizing s with
  | ret a => exact returns s a h
  | fail e => exact fails s e h
  | call o k ih => exact ⟨h.1, fun a => ih a (h.2 a)⟩

theorem obeys_attempt {E' : σ → ε' → Prop} {Q : σ → Except ε α → Prop} (p : Prog Op Ans ε α)
    (s : σ) : (p.attempt : Prog Op Ans ε' _).Obeys m E' Q s ↔
      p.Obeys m (fun s e => Q s (.error e)) (fun s a => Q s (.ok a)) s := by
  induction p generalizing s with
  | ret a => rfl
  | fail e => rfl
  | call o k ih => simp only [attempt, obeys_call, ih]

theorem obeys_mapErr {E' : σ → ε' → Prop} (g : ε → ε') (p : Prog Op Ans ε α) (s : σ) :
    (p.mapErr g).Obeys m E' Q s ↔ p.Obeys m (fun s e => E' s (g e)) Q s := by
  induction p generalizing s with
  | ret a => rfl
  | fail e => rfl
  | call o k ih => simp only [mapErr, obeys_call, ih]

/-- A loop over a list keeps an invariant of the monitor's state that each round keeps. -/
theorem obeys_forM (I : List γ → σ → Prop) (l : List γ) (body : γ → Prog Op Ans ε PUnit)
    {Q : σ → PUnit → Prop}
    (round : ∀ x l s, I (x :: l) s → (body x).Obeys m E (fun s _ => I l s) s)
    (done : ∀ s, I [] s → Q s ⟨⟩) {s : σ} (start : I l s) : (forM l body).Obeys m E Q s := by
  induction l generalizing s with
  | nil => exact done s start
  | cons x l ih =>
    rw [List.forM_cons, obeys_bind]
    exact (round x l s start).mono (fun _ _ h => h) fun _ _ h => ih h

/-- A loop with an accumulator keeps an invariant that each round keeps. -/
theorem obeys_foldlM (I : List γ → β → σ → Prop) (l : List γ) (body : β → γ → Prog Op Ans ε β)
    {Q : σ → β → Prop}
    (round : ∀ x l b s, I (x :: l) b s → (body b x).Obeys m E (fun s b => I l b s) s)
    (done : ∀ b s, I [] b s → Q s b) {b : β} {s : σ} (start : I l b s) :
    (l.foldlM body b).Obeys m E Q s := by
  induction l generalizing b s with
  | nil => exact done b s start
  | cons x l ih =>
    rw [List.foldlM_cons, obeys_bind]
    exact (round x l b s start).mono (fun _ _ h => h) fun _ _ h => ih h

/-- What is left of an obedient program after some interactions is obedient from the state that
the monitor has then reached. -/
theorem Obeys.trace {p q : Prog Op Ans ε α} {h : List (Σ o, Ans o)} (t : Trace p h q) {s : σ}
    (obeys : p.Obeys m E Q s) : q.Obeys m E Q (h.foldl (fun s x => m.next s x.1 x.2) s) := by
  induction t generalizing s with
  | nil p => exact obeys
  | cons _ ih => exact ih (obeys.2 _)

theorem obeys_of_forall (may : ∀ s o, m.may s o) (p : Prog Op Ans ε α) (s : σ) :
    p.Obeys m (fun _ _ => True) (fun _ _ => True) s := by
  induction p generalizing s with
  | ret a => trivial
  | fail e => trivial
  | call o k ih => exact ⟨may s o, fun a => ih a _⟩

/-- A relation between the monitor and the world that each permitted operation keeps holds at the end
of a run of an obedient program. -/
theorem Obeys.run {W χ : Type} {exec : χ → (o : Op) → W → Ans o × W} (R : σ → W → Prop)
    (kept : ∀ x s w o, R s w → m.may s o → R (m.next s o (exec x o w).1) (exec x o w).2)
    {p : Prog Op Ans ε α} {s : σ} {w : W} (obeys : p.Obeys m E Q s) (start : R s w) (x : ℕ → χ) :
    ∃ s', R s' (p.run exec x w).2 ∧
      match (p.run exec x w).1 with
      | .ok a => Q s' a
      | .error e => E s' e := by
  induction p generalizing s w x with
  | ret a => exact ⟨s, start, obeys⟩
  | fail e => exact ⟨s, start, obeys⟩
  | call o k ih => exact ih _ (obeys.2 _) (kept (x 0) s w o start obeys.1) fun n => x (n + 1)

/-! ### Programs run alone -/

/-- Run alone from `w`, under choices that are all `ok`, the program ends with `Q` if it returns and
with `E` if it fails. -/
def Ensures {W χ : Type} (exec : χ → (o : Op) → W → Ans o × W) (ok : χ → Prop) (E : W → ε → Prop)
    (Q : W → α → Prop) : Prog Op Ans ε α → W → Prop
  | .ret a, w => Q w a
  | .fail e, w => E w e
  | .call o k, w => ∀ x, ok x → (k (exec x o w).1).Ensures exec ok E Q (exec x o w).2

section Ensures

variable {W χ : Type} {exec : χ → (o : Op) → W → Ans o × W} {ok : χ → Prop} {E : W → ε → Prop}
  {Q : W → α → Prop}

theorem ensures_bind {Q : W → β → Prop} (p : Prog Op Ans ε α) (f : α → Prog Op Ans ε β) (w : W) :
    (p >>= f).Ensures exec ok E Q w ↔
      p.Ensures exec ok E (fun w a => (f a).Ensures exec ok E Q w) w := by
  induction p generalizing w with
  | ret a => rfl
  | fail e => rfl
  | call o k ih => simp only [call_bind, Ensures, ih]

theorem ensures_mapErr {E' : W → ε' → Prop} (g : ε → ε') (p : Prog Op Ans ε α) (w : W) :
    (p.mapErr g).Ensures exec ok E' Q w ↔ p.Ensures exec ok (fun w e => E' w (g e)) Q w := by
  induction p generalizing w with
  | ret a => rfl
  | fail e => rfl
  | call o k ih => simp only [mapErr, Ensures, ih]

theorem ensures_okOr (e : ε) (o : Option α) (w : W) :
    (okOr e o : Prog Op Ans ε α).Ensures exec ok E Q w ↔
      (o = none → E w e) ∧ ∀ a, o = some a → Q w a := by
  cases o <;> simp [okOr, Ensures]

theorem ensures_attempt {E' : W → ε' → Prop} {Q : W → Except ε α → Prop} (p : Prog Op Ans ε α)
    (w : W) : (p.attempt : Prog Op Ans ε' _).Ensures exec ok E' Q w ↔
      p.Ensures exec ok (fun w e => Q w (.error e)) (fun w a => Q w (.ok a)) w := by
  induction p generalizing w with
  | ret a => rfl
  | fail e => rfl
  | call o k ih => simp only [attempt, Ensures, ih]

theorem Ensures.mono {E' : W → ε → Prop} {Q' : W → α → Prop} {p : Prog Op Ans ε α} {w : W}
    (h : p.Ensures exec ok E Q w) (fails : ∀ w e, E w e → E' w e)
    (returns : ∀ w a, Q w a → Q' w a) : p.Ensures exec ok E' Q' w := by
  induction p generalizing w with
  | ret a => exact returns w a h
  | fail e => exact fails w e h
  | call o k ih => exact fun x hx => ih _ (h x hx)

/-- What is ensured holds at the end of each run under choices that are all `ok`. -/
theorem Ensures.run {p : Prog Op Ans ε α} {w : W} (h : p.Ensures exec ok E Q w) (x : ℕ → χ)
    (sound : ∀ n, ok (x n)) :
    match (p.run exec x w).1 with
    | .ok a => Q (p.run exec x w).2 a
    | .error e => E (p.run exec x w).2 e := by
  induction p generalizing w x with
  | ret a => exact h
  | fail e => exact h
  | call o k ih => exact ih _ (h (x 0) (sound 0)) (fun n => x (n + 1)) fun n => sound (n + 1)

theorem Ensures.of_ok {p : Prog Op Ans ε α} {w : W} (h : p.Ensures exec ok E Q w) {x : ℕ → χ}
    (sound : ∀ n, ok (x n)) {a : α} (returned : (p.run exec x w).1 = .ok a) :
    Q (p.run exec x w).2 a := by
  have holds := h.run x sound
  rw [returned] at holds
  exact holds

/-- A program that cannot fail returns a value, of which what is ensured holds. -/
theorem Ensures.exists_ok {p : Prog Op Ans ε α} {w : W}
    (h : p.Ensures exec ok (fun _ _ => False) Q w) {x : ℕ → χ} (sound : ∀ n, ok (x n)) :
    ∃ a, (p.run exec x w).1 = .ok a ∧ Q (p.run exec x w).2 a := by
  have holds := h.run x sound
  split at holds
  next a returned => exact ⟨a, returned, holds⟩
  next => exact holds.elim

end Ensures

/-! ### Programs confined to a set of operations -/

/-- Every operation of the program, on every path, satisfies `P`. -/
def Within (P : Op → Prop) : Prog Op Ans ε α → Prop
  | .ret _ => True
  | .fail _ => True
  | .call o k => P o ∧ ∀ a, (k a).Within P

theorem Within.mono {P P' : Op → Prop} (weaker : ∀ o, P o → P' o) {p : Prog Op Ans ε α}
    (h : p.Within P) : p.Within P' := by
  induction p with
  | ret a => trivial
  | fail e => trivial
  | call o k ih => exact ⟨weaker o h.1, fun a => ih a (h.2 a)⟩

/-- A program confined to operations that a monitor always permits obeys the monitor. -/
theorem Within.obeys {P : Op → Prop} (may : ∀ s o, P o → m.may s o) {p : Prog Op Ans ε α} {s : σ}
    (h : p.Within P) : p.Obeys m (fun _ _ => True) (fun _ _ => True) s := by
  induction p generalizing s with
  | ret a => trivial
  | fail e => trivial
  | call o k ih => exact ⟨may s o h.1, fun a => ih a (h.2 a)⟩

theorem Within.bind {P : Op → Prop} {p : Prog Op Ans ε α} {f : α → Prog Op Ans ε β}
    (first : p.Within P) (rest : ∀ a, (f a).Within P) : (p >>= f).Within P := by
  induction p with
  | ret a => exact rest a
  | fail e => trivial
  | call o k ih => exact ⟨first.1, fun a => ih a (first.2 a)⟩

theorem Within.mapErr {P : Op → Prop} {g : ε → ε'} {p : Prog Op Ans ε α} (h : p.Within P) :
    (p.mapErr g).Within P := by
  induction p with
  | ret a => trivial
  | fail e => trivial
  | call o k ih => exact ⟨h.1, fun a => ih a (h.2 a)⟩

theorem Within.attempt {P : Op → Prop} {p : Prog Op Ans ε α} (h : p.Within P) :
    (p.attempt : Prog Op Ans ε' _).Within P := by
  induction p with
  | ret a => trivial
  | fail e => trivial
  | call o k ih => exact ⟨h.1, fun a => ih a (h.2 a)⟩

theorem within_ofExcept {P : Op → Prop} (r : Except ε α) :
    (ofExcept r : Prog Op Ans ε α).Within P := by
  cases r <;> trivial

theorem Within.run {W χ : Type} {exec : χ → (o : Op) → W → Ans o × W} {P : Op → Prop} (K : W → Prop)
    (kept : ∀ x o w, P o → K w → K (exec x o w).2) {p : Prog Op Ans ε α} (within : p.Within P)
    {w : W} (start : K w) (x : ℕ → χ) : K (p.run exec x w).2 := by
  induction p generalizing w x with
  | ret a => exact start
  | fail e => exact start
  | call o k ih => exact ih _ (within.2 _) (kept _ o w within.1 start) _

theorem within_okOr {P : Op → Prop} (e : ε) (o : Option α) :
    (okOr e o : Prog Op Ans ε α).Within P := by
  cases o <;> trivial

theorem within_ensure {P : Op → Prop} (c : Bool) (e : ε) :
    (ensure c e : Prog Op Ans ε Unit).Within P := by
  cases c <;> trivial

theorem within_forM {P : Op → Prop} {l : List γ} {body : γ → Prog Op Ans ε PUnit}
    (round : ∀ x, (body x).Within P) : (forM l body).Within P := by
  induction l with
  | nil => trivial
  | cons x l ih =>
    rw [List.forM_cons]
    exact (round x).bind fun _ => ih

theorem within_foldlM {P : Op → Prop} {l : List γ} {body : β → γ → Prog Op Ans ε β}
    (round : ∀ b x, (body b x).Within P) (b : β) : (l.foldlM body b).Within P := by
  induction l generalizing b with
  | nil => trivial
  | cons x l ih =>
    rw [List.foldlM_cons]
    exact (round b x).bind ih

/-- An obedient program performs only operations that its monitor permits in some state. -/
theorem Obeys.within {P : Op → Prop} (may : ∀ s o, m.may s o → P o) {p : Prog Op Ans ε α} {s : σ}
    (h : p.Obeys m E Q s) : p.Within P := by
  induction p generalizing s with
  | ret a => trivial
  | fail e => trivial
  | call o k ih => exact ⟨may s o h.1, fun a => ih a (h.2 a)⟩

end Prog

end Atomic
