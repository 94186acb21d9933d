import Estafeta.World

/-!
# Payload validation

JSON Schema validation of payloads, as in `processing/schema_validator.rs`.
-/

namespace Estafeta

/-- Validate a JSON payload against a JSON Schema. -/
def validatePayload (ext : Ext) (schema payload : Json) : Except (List String) Unit :=
  match ext.validatorFor schema with
  | .error e => .error [s!"invalid schema: {e}"]
  | .ok iterErrors =>
    if (iterErrors payload).isEmpty then .ok () else .error (iterErrors payload)

/-- Check if a schema is itself a valid JSON Schema. -/
def isValidSchema (ext : Ext) (schema : Json) : Bool :=
  match ext.validatorFor schema with
  | .ok _ => true
  | .error _ => false

end Estafeta
