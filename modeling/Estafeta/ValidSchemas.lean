import Estafeta.TypeRegistry

/-!
# Schemas that are schemas

`registerType` refuses a schema that `validator_for` rejects, `updateType` stores it. The registry
holds only schemas that are accepted just as long as no update that is let through brings another
one; from such an update on, every payload of the type fails.
-/

open Relational Atomic

namespace Estafeta

/-- `validatePayload` fails because of the schema. -/
def FailsBySchema (ext : Ext) (schema payload : Json) : Prop :=
  ∃ e, ext.validatorFor schema = .error e ∧
    validatePayload ext schema payload = .error [s!"invalid schema: {e}"]

/-- In the registry that requests have led to, every schema is accepted, no payload fails because of
the schema of a registered type, and a request that fails leaves the schemas as they are. -/
structure SchemasHold (ext : Ext) (w : World) : Prop where
  accepted : ∀ r ∈ w.db.notificationTypes.rows, isValidSchema ext r.jsonSchema = true
  validates : ∀ r ∈ w.db.notificationTypes.rows, ∀ payload,
    ¬ FailsBySchema ext r.jsonSchema payload
  kept : ∀ (q : TypeRequest) (s : Status), (q.serve ext w).1 = .error s →
    (q.serve ext w).2.db.notificationTypes = w.db.notificationTypes

/-- An update is let through: its caller is an admin, no statement fails, and the type is
registered. -/
def LetThrough (q : TypeRequest) (req : UpdateTypeRequest) (w : World) : Prop :=
  (∃ c, q.extensions = some c) ∧ Keto.allowed (q.choices 0).keto = .ok true ∧
    (q.choices 1).failure = none ∧ (q.choices 2).failure = none ∧
    ∃ service row, w.db.services.lookup (.slug req.serviceSlug) = some service ∧
      w.db.notificationTypes.lookup (.typeKey service.id req.typeKey) = some row

/-- A request is an update that is let through with a schema that is not accepted. -/
def BringsRejected (ext : Ext) (q : TypeRequest) (w : World) : Prop :=
  ∃ req, q.write = .update req ∧ LetThrough q req w ∧
    isValidSchema ext (SchemaRegistryService.schemaValue req.jsonSchema) = false

section

variable {ext : Ext} {w : World}

theorem not_failsBySchema {schema payload : Json} (accepted : isValidSchema ext schema = true) :
    ¬ FailsBySchema ext schema payload := by
  rintro ⟨e, rejected, _⟩
  unfold isValidSchema at accepted
  rw [rejected] at accepted
  cases accepted

theorem update_ok_iff {q : TypeRequest} {req : UpdateTypeRequest} (write : q.write = .update req) :
    (∃ n, (q.serve ext w).1 = .ok n) ↔ LetThrough q req w := by
  unfold TypeRequest.serve LetThrough
  rw [write]
  show (∃ n, ((SchemaRegistryService.updateType ext q.inst q.extensions req).run (exec ext)
    q.choices w).1 = .ok n) ↔ _
  unfold SchemaRegistryService.updateType SchemaRegistryService.serviceBySlug
  cases q.extensions with
  | none =>
    constructor
    · rintro ⟨n, h⟩
      cases h
    · rintro ⟨⟨c, h⟩, _⟩
      cases h
  | some c =>
    have claims : AuthClaims.fromExtensions (some c) = Prog.ret c := rfl
    rw [claims, Prog.ret_bind, run_requireAdmin, Prog.bind_assoc, run_query]
    cases Keto.allowed (q.choices 0).keto with
    | error e => simp
    | ok admin =>
      cases admin with
      | false => simp
      | true =>
        simp only [Nat.zero_add, execSql, Sql.instants, List.all_nil, if_true]
        cases (q.choices 1).failure with
        | some e => simp
        | none =>
          simp only [Sql.exec, Db.Services.Query.exec, Db.Services.getServiceBySlug]
          cases w.db.services.lookup (.slug req.serviceSlug) with
          | none => simp [Prog.okOr, Prog.run]
          | some service =>
            simp only [Prog.okOr, Prog.ret_bind]
            rw [run_query]
            simp only [Nat.zero_add, execSql, Sql.instants, List.all_nil, if_true]
            cases (q.choices 2).failure with
            | some e => simp
            | none =>
              simp only [Sql.exec, Db.Schemas.Query.exec, Db.Schemas.updateNotificationType,
                updateRow]
              cases there : w.db.notificationTypes.lookup (.typeKey service.id req.typeKey) with
              | none => simp [Except.map, there]
              | some row =>
                refine ⟨fun _ => ⟨⟨c, rfl⟩, trivial, trivial, trivial, service, row, rfl, there⟩,
                  fun _ => ?_⟩
                exact ⟨_, rfl⟩

/-- Served in a registry with accepted schemas only, a request leaves one, unless it is an update
that brings a rejected schema. -/
theorem accepted_serve {q : TypeRequest}
    (accepted : ∀ r ∈ w.db.notificationTypes.rows, isValidSchema ext r.jsonSchema = true)
    (sound : ¬ BringsRejected ext q w) :
    ∀ r ∈ (q.serve ext w).2.db.notificationTypes.rows, isValidSchema ext r.jsonSchema = true := by
  intro r hr
  rcases serve_cases ext q w with ⟨e, _, same⟩ | ⟨n, served, done⟩
  · exact accepted r (same ▸ hr)
  · cases write : q.write with
    | register req =>
      rw [write] at done
      obtain ⟨service, id, now, _, valid, _, stores, _⟩ := done
      rcases stores.rows r hr with rfl | hr
      · exact valid
      · exact accepted r hr
    | update req =>
      rw [write] at done
      obtain ⟨service, old, now, _, _, stores, _⟩ := done
      rcases stores.rows r hr with rfl | hr
      · have through := (update_ok_iff write).1 ⟨n, served⟩
        exact Bool.eq_true_of_not_eq_false fun rejected => sound ⟨req, write, through, rejected⟩
      · exact accepted r hr

/-- After an update that brings a rejected schema, the registry holds it. -/
theorem rejected_serve {q : TypeRequest} (brings : BringsRejected ext q w) :
    ∃ r ∈ (q.serve ext w).2.db.notificationTypes.rows, isValidSchema ext r.jsonSchema = false := by
  obtain ⟨req, write, through, rejected⟩ := brings
  obtain ⟨n, served⟩ := (update_ok_iff write).2 through
  rcases serve_cases ext q w with ⟨e, failed, _⟩ | ⟨_, _, done⟩
  · cases served.symm.trans failed
  · rw [write] at done
    obtain ⟨service, old, now, _, _, stores, _⟩ := done
    exact ⟨_, Table.mem_of_lookup stores.stored, rejected⟩

theorem schemasHold_iff : SchemasHold ext w ↔
    ∀ r ∈ w.db.notificationTypes.rows, isValidSchema ext r.jsonSchema = true := by
  constructor
  · exact SchemasHold.accepted
  · intro accepted
    refine ⟨accepted, fun r hr _ => not_failsBySchema (accepted r hr), fun q s failed => ?_⟩
    rcases serve_cases ext q w with ⟨_, _, same⟩ | ⟨n, served, _⟩
    · rw [same]
    · cases served.symm.trans failed

end

theorem typesServed_snoc (ext : Ext) (w₀ : World) (qs : List TypeRequest) (q : TypeRequest) :
    (typesServed ext w₀ (qs ++ [q])).1 = (q.serve ext (typesServed ext w₀ qs).1).2 := by
  unfold typesServed
  rw [List.foldl_append]
  rfl

/-- Beginning with no types, the registry holds accepted schemas in every state that requests lead
to just if no update that is let through brings a schema that is rejected. -/
theorem schemasHold_iff_sound (ext : Ext) (w₀ : World) (fresh : w₀.db.notificationTypes = .empty)
    (qs : List TypeRequest) :
    (∀ pre, pre <+: qs → SchemasHold ext (typesServed ext w₀ pre).1) ↔
      ∀ pre q, pre ++ [q] <+: qs → ¬ BringsRejected ext q (typesServed ext w₀ pre).1 := by
  constructor
  · intro holds pre q within brings
    obtain ⟨r, hr, rejected⟩ := rejected_serve brings
    rw [← typesServed_snoc] at hr
    have accepted := (holds _ within).accepted r hr
    exact absurd (accepted.symm.trans rejected) (by decide)
  · intro sound pre within
    rw [schemasHold_iff]
    induction pre using List.reverseRecOn with
    | nil =>
      intro r hr
      rw [show (typesServed ext w₀ []).1 = w₀ from rfl, fresh] at hr
      cases hr
    | append_singleton pre q ih =>
      rw [typesServed_snoc]
      exact accepted_serve (ih ((List.prefix_append _ _).trans within)) (sound pre q within)

namespace Sample

/-- A schema whose type is a number is not accepted. -/
def strict : Ext :=
  { ext with
    validatorFor
      | .object [("type", .number _)] => .error "5 is not valid under any of the given schemas"
      | _ => .ok fun _ => [] }

/-- The type is registered, and updated with a schema. -/
def restated (schema : Struct) : List TypeRequest :=
  [.register registration, .update { revision with jsonSchema := some schema }].map fun write =>
    ⟨0, some ann, write, fun _ => choice⟩

theorem schemasHold_iff_sound_titled :
    SchemasHold strict (typesServed strict untyped (restated ⟨[("title", .unset)]⟩)).1 := by
  refine (schemasHold_iff_sound strict untyped rfl (restated ⟨[("title", .unset)]⟩)).2 ?_ _
    (List.prefix_refl _)
  rintro pre q within ⟨req, write, _, rejected⟩
  have mem : q ∈ restated ⟨[("title", .unset)]⟩ :=
    within.subset (List.mem_append_right _ List.mem_cons_self)
  rcases List.mem_cons.1 mem with rfl | mem
  · cases write
  · rcases List.mem_singleton.1 mem with rfl
    cases write
    exact absurd rejected (by decide)

end Sample

/-- The update with the schema `{"type": 5}` is let through. -/
theorem not_schemasHold : ¬ ∀ (ext : Ext) (w₀ : World) (qs : List TypeRequest),
    w₀.db.notificationTypes = .empty → SchemasHold ext (typesServed ext w₀ qs).1 := by
  intro holds
  have accepted := (holds Sample.strict Sample.untyped
    (Sample.restated ⟨[("type", .numberValue (.ofNat 5))]⟩) rfl).accepted _ List.mem_cons_self
  exact absurd accepted (by decide)

end Estafeta
