import Estafeta.Statements
import Estafeta.System

/-!
# Requests run alone

What a handler ensures when nothing interleaves with it: rules for its steps, one for each thing a
handler does. `ok` is what is assumed of the surroundings; under `ok := fun _ => True` every
statement, and every call of Keto, may fail.
-/

open Atomic

namespace Estafeta

variable {ext : Ext} {ok : Choice → Prop} {w : World}

/-- Where no statement fails, anything may be said of one that does. -/
theorem of_lost {P : Prop} {x : Choice} (works : x.failure = none)
    (lost : x.failure.isSome = true) : P := by
  rw [works] at lost
  cases lost

theorem ensures_sql {q : Sql} {E : World → DbError → Prop} {Q : World → q.Resp → Prop}
    (lost : ∀ x, ok x → x.failure.isSome = true → ∀ e, E w e)
    (overflows : q.instants.all inTimestamptz = false → E w .datetimeOverflow)
    (rejected : ∀ x e, ok x → q.exec (x.env ext) w.db = .error e → E w e)
    (answered : ∀ x a db, ok x → q.exec (x.env ext) w.db = .ok (a, db) → Q { w with db := db } a) :
    (query q).Ensures (exec ext) ok E Q w := by
  intro x sound
  show (Prog.ofExcept (execSql ext x q w).1).Ensures (exec ext) ok E Q (execSql ext x q w).2
  cases failed : x.failure with
  | some e =>
    rw [execSql_of_failure failed]
    exact lost x sound (failed ▸ rfl) e
  | none =>
    cases bound : q.instants.all inTimestamptz with
    | false =>
      rw [execSql_of_overflow failed bound]
      exact overflows bound
    | true =>
      rcases answer : q.exec (x.env ext) w.db with e | ⟨a, db⟩
      · rw [execSql_of_error failed bound answer]
        exact rejected x e sound answer
      · rw [execSql_of_ok failed bound answer]
        exact answered x a db sound answer

theorem ensures_query {q : Sql} {E : World → Status → Prop} {Q : World → q.Resp → Prop}
    (bound : q.instants.all inTimestamptz = true)
    (lost : ∀ x, ok x → x.failure.isSome = true → ∀ s, E w s)
    (rejected : ∀ x e, ok x → q.exec (x.env ext) w.db = .error e → ∀ s, E w s)
    (answered : ∀ x a db, ok x → q.exec (x.env ext) w.db = .ok (a, db) → Q { w with db := db } a) :
    (ext.query q).Ensures (exec ext) ok E Q w :=
  (Prog.ensures_mapErr _ _ _).2 <| ensures_sql (fun x sound failed _ => lost x sound failed _)
    (fun overflow => absurd bound (Bool.eq_false_iff.1 overflow))
    (fun x e sound error => rejected x e sound error _) answered

theorem ensures_statement {q : Sql} {E : World → String → Prop} {Q : World → q.Resp → Prop}
    (bound : q.instants.all inTimestamptz = true)
    (lost : ∀ x, ok x → x.failure.isSome = true → ∀ s, E w s)
    (rejected : ∀ x e, ok x → q.exec (x.env ext) w.db = .error e → ∀ s, E w s)
    (answered : ∀ x a db, ok x → q.exec (x.env ext) w.db = .ok (a, db) → Q { w with db := db } a) :
    (ext.run q).Ensures (exec ext) ok E Q w :=
  (Prog.ensures_mapErr _ _ _).2 <| ensures_sql (fun x sound failed _ => lost x sound failed _)
    (fun overflow => absurd bound (Bool.eq_false_iff.1 overflow))
    (fun x e sound error => rejected x e sound error _) answered

theorem ensures_read {q : Sql} {E : World → Status → Prop} {Q : World → q.Resp → Prop}
    (bound : q.instants.all inTimestamptz = true)
    (lost : ∀ x, ok x → x.failure.isSome = true → ∀ s, E w s)
    (answer : Choice → q.Resp) (reads : ∀ x, q.exec (x.env ext) w.db = .ok (answer x, w.db))
    (answered : ∀ x, ok x → Q w (answer x)) :
    (ext.query q).Ensures (exec ext) ok E Q w := by
  refine ensures_query bound lost (fun x e sound h => ?_) fun x a db sound h => ?_
  · rw [reads] at h
    cases h
  · rw [reads] at h
    cases h
    exact answered x sound

/-- A statement that answers with a page of a listing, and is rejected where LIMIT or OFFSET is
negative. -/
theorem ensures_page {ρ : Type} {q : Sql} {limit offset : Int64} {E : World → Status → Prop}
    {Q : World → q.Resp → Prop} (bound : q.instants.all inTimestamptz = true)
    (listing : Choice → List ρ) (answer : List ρ → q.Resp)
    (reads : ∀ x, q.exec (x.env ext) w.db =
      (page limit offset (listing x)).map fun rows => (answer rows, w.db))
    (lost : ∀ x, ok x → x.failure.isSome = true → ∀ s, E w s)
    (rejected : limit < 0 ∨ offset < 0 → ∀ s, E w s)
    (answered : ∀ x, ok x → 0 ≤ limit → 0 ≤ offset →
      Q w (answer (((listing x).drop offset.toNatClampNeg).take limit.toNatClampNeg))) :
    (ext.query q).Ensures (exec ext) ok E Q w := by
  by_cases negative : limit < 0 ∨ offset < 0
  · refine ensures_query bound lost (fun _ _ _ _ => rejected negative) fun x a db _ h => ?_
    rw [reads, page, if_pos negative] at h
    cases h
  · refine ensures_read bound lost _ (fun x => ?_) fun x sound => answered x sound ?_ ?_
    · rw [reads, page, if_neg negative]
      rfl
    · exact Int64.not_lt.1 fun h => negative (.inl h)
    · exact Int64.not_lt.1 fun h => negative (.inr h)

/-- A statement of a handler is answered, or fails with an internal error. -/
theorem ensures_internal {q : Sql} {E : World → Status → Prop} {Q : World → q.Resp → Prop}
    (fails : ∀ t, E w (.internal t))
    (answered : ∀ (x : Choice) a db, q.exec (x.env ext) w.db = .ok (a, db) → Q { w with db := db } a) :
    (ext.query q).Ensures (exec ext) ok E Q w :=
  (Prog.ensures_mapErr _ _ _).2 <| ensures_sql (fun _ _ _ _ => fails _) (fun _ => fails _)
    (fun _ _ _ _ => fails _) fun x a db _ => answered x a db

theorem ensures_caller {c : AuthClaims} {E : World → Status → Prop} {Q : World → AuthClaims → Prop}
    (rest : Q w c) : (AuthClaims.fromExtensions (some c)).Ensures (exec ext) ok E Q w :=
  rest

theorem ensures_ensure {E : World → Status → Prop} {Q : World → Unit → Prop} {c : Bool}
    {e : Status} (fails : c = false → E w e) (holds : c = true → Q w ()) :
    (Prog.ensure c e : Program Status Unit).Ensures (exec ext) ok E Q w := by
  unfold Prog.ensure
  cases c with
  | false => exact fails rfl
  | true => exact holds rfl

theorem ensures_fromExtensions {E : World → Status → Prop} {Q : World → AuthClaims → Prop}
    (extensions : Option AuthClaims) (fails : extensions = none → ∀ s, E w s)
    (claims : ∀ c, extensions = some c → Q w c) :
    (AuthClaims.fromExtensions extensions).Ensures (exec ext) ok E Q w :=
  (Prog.ensures_okOr _ _ _).2 ⟨fun h => fails h _, claims⟩

theorem ensures_requireAdmin {E : World → Status → Prop} {Q : World → Unit → Prop}
    (subject : String) (refused : ∀ s, E w s) (granted : Q w ()) :
    (Keto.requireAdmin subject).Ensures (exec ext) ok E Q w := by
  unfold Keto.requireAdmin Keto.checkAdmin Keto.check
  rw [Prog.ensures_bind]
  intro x _
  simp only [exec]
  cases Keto.allowed x.keto with
  | error e => exact refused e
  | ok c => exact ensures_ensure (fun _ => refused _) fun _ => granted

theorem ensures_getServiceBySlug {E : World → Status → Prop} {Q : World → Option ServiceRow → Prop}
    (slug : String) (lost : ∀ x, ok x → x.failure.isSome = true → ∀ s, E w s)
    (answered : Q w (w.db.services.lookup (.slug slug))) :
    (ext.query (.services (.getServiceBySlug slug))).Ensures (exec ext) ok E Q w :=
  ensures_read (q := .services (.getServiceBySlug slug)) rfl lost
    (fun _ => w.db.services.lookup (.slug slug))
    (fun _ => rfl) fun _ _ => answered

/-! ## One step at a time -/

section

variable {α : Type}

theorem run_check (object relation subject : String) (f : Bool → Program Status α) (x : ℕ → Choice) :
    (Keto.check object relation subject >>= f).run (exec ext) x w =
      match Keto.allowed (x 0).keto with
      | .ok c => (f c).run (exec ext) (fun n => x (n + 1)) w
      | .error e => (.error e, w) := by
  unfold Keto.check
  simp only [Prog.call_bind, Prog.run, exec]
  cases Keto.allowed (x 0).keto <;> rfl

theorem run_requireAdmin (subject : String) (f : Unit → Program Status α) (x : ℕ → Choice) :
    (Keto.requireAdmin subject >>= f).run (exec ext) x w =
      match Keto.allowed (x 0).keto with
      | .ok true => (f ()).run (exec ext) (fun n => x (n + 1)) w
      | .ok false => (.error (.permissionDenied "admin access required"), w)
      | .error e => (.error e, w) := by
  unfold Keto.requireAdmin Keto.checkAdmin
  rw [Prog.bind_assoc, run_check]
  rcases Keto.allowed (x 0).keto with e | _ | _ <;> rfl

theorem run_requireServiceSend (slug subject : String) (f : Unit → Program Status α)
    (x : ℕ → Choice) : (Keto.requireServiceSend slug subject >>= f).run (exec ext) x w =
      match Keto.allowed (x 0).keto with
      | .ok true => (f ()).run (exec ext) (fun n => x (n + 1)) w
      | .ok false =>
        (.error (.permissionDenied s!"no send permission for service '{slug}'"), w)
      | .error e => (.error e, w) := by
  unfold Keto.requireServiceSend Keto.checkServiceSend
  rw [Prog.bind_assoc, run_check]
  rcases Keto.allowed (x 0).keto with e | _ | _ <;> rfl

theorem run_query (q : Sql) (f : q.Resp → Program Status α) (x : ℕ → Choice) :
    (ext.query q >>= f).run (exec ext) x w =
      match (execSql ext (x 0) q w).1 with
      | .ok a => (f a).run (exec ext) (fun n => x (n + 1)) (execSql ext (x 0) q w).2
      | .error e =>
        (.error (.internal s!"db error: {ext.showDbError e}"), (execSql ext (x 0) q w).2) := by
  unfold Ext.query Estafeta.query
  simp only [Prog.mapErr, Prog.call_bind, Prog.run, exec]
  cases (execSql ext (x 0) q w).1 <;> rfl

end

end Estafeta
