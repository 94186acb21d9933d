import Estafeta.World

/-!
# Authorization

The claims of a request, from `auth/claims.rs`, and the Keto client of `auth/keto.rs`. All
permission checks operate in the `estafeta` namespace.
-/

open Atomic

namespace Estafeta

/-- Retrieve the claims previously inserted into the request extensions. -/
def AuthClaims.fromExtensions (extensions : Option AuthClaims) : Program Status AuthClaims :=
  .okOr (.unauthenticated "missing auth claims") extensions

/-- `StatusCode::is_success`. -/
def isSuccess (status : ℕ) : Bool := 200 ≤ status && status < 300

namespace Keto

/-- What the client makes of Keto's reply. -/
def allowed : KetoReply → Except Status Bool
  | .unreachable => .error (.internal "authorization service unavailable")
  | .reply status body =>
    if isSuccess status then
      match body with
      | none => .error (.internal "authorization service error")
      | some body => .ok (((body.get? "allowed").bind Json.asBool?).getD false)
    else if status = 403 then .ok false
    else .error (.internal "authorization service error")

/-- Check if a subject has a relation on an object in the estafeta namespace. -/
def check (object relation subjectId : String) : Program Status Bool :=
  .call (.keto ⟨"estafeta", object, relation, subjectId⟩) fun reply => .ofExcept (allowed reply)

/-- Check if subject is an admin. -/
def checkAdmin (subjectId : String) : Program Status Bool := check "admin" "access" subjectId

/-- Check if subject can send notifications for a service. -/
def checkServiceSend (serviceSlug subjectId : String) : Program Status Bool :=
  check s!"services/{serviceSlug}" "send" subjectId

/-- Require admin, returning a gRPC PermissionDenied if not. -/
def requireAdmin (subjectId : String) : Program Status Unit := do
  Prog.ensure (← checkAdmin subjectId) (.permissionDenied "admin access required")

/-- Require service send permission. -/
def requireServiceSend (serviceSlug subjectId : String) : Program Status Unit := do
  Prog.ensure (← checkServiceSend serviceSlug subjectId)
    (.permissionDenied s!"no send permission for service '{serviceSlug}'")

end Keto

end Estafeta
