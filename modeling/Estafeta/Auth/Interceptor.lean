import Estafeta.Auth.Jwks
import Estafeta.Lib.Gate
import Estafeta.System

/-!
# The server

What `main.rs` starts on an instance: the gRPC services behind the interceptor of
`auth/interceptor.rs`, which validates the bearer token of every request, the processor, the loops of
the scheduler, and the refreshes of the cached keys. `server` is the interleaving of any number of
them on any instances, while the JWKS endpoint goes through the versions of its key set.
-/

open Atomic

namespace Estafeta

/-- The metadata of a request: the values of its headers, in order. -/
abbrev MetadataMap := List (String × List UInt8)

/-- `str::strip_prefix`. -/
def stripPrefix (start s : String) : Option String :=
  if start.toList <+: s.toList then some (String.ofList (s.toList.drop start.length)) else none

section

variable {Key : Type} (jwt : Jwt Key) (toStr : List UInt8 → Option String) (issuer : Option String)

namespace AuthInterceptor

/-- The token of the `authorization` header. -/
def bearerToken (metadata : MetadataMap) : Option String :=
  ((metadata.lookup "authorization").bind toStr).bind (stripPrefix "Bearer ")

/-- Validate the token of a request; the claims go into its extensions. -/
def call (metadata : MetadataMap) : JwksProgram Key Status AuthClaims := do
  let token ← .okOr (.unauthenticated "missing authorization header") (bearerToken toStr metadata)
  JwksClient.validateToken jwt issuer token

end AuthInterceptor

/-- What comes to the server, or starts on it: a request on an instance, a message or a pass, or a
refresh of the keys that an instance caches; and the endpoint's key set changes. -/
inductive Arrival where
  | request (inst : ℕ) (metadata : MetadataMap) (r : Rpc)
  | processor (inst seq : ℕ)
  | snoozeWake
  | ttlExpiry
  | escalation
  | startup (inst : ℕ)
  | periodic (inst : ℕ)
  | rotate

/-- The version of the key set that the endpoint serves, and the keys that each instance caches. -/
structure KeysWorld (Key : Type) where
  version : ℕ
  keys : ℕ → Keys Key

/-- An operation of the client of an instance. -/
abbrev InstanceOp (Key : Type) := ℕ × JwksOp Key

/-- What the operation answers. -/
abbrev InstanceOp.Ans {Key : Type} (o : InstanceOp Key) : Type := o.2.Ans

/-- What is done before a call is served. -/
abbrev Entry (Key ε α : Type) := Prog (InstanceOp Key) InstanceOp.Ans ε α

/-- A program of the client, on an instance. -/
def JwksClient.on {ε α : Type} (inst : ℕ) (p : JwksProgram Key ε α) : Entry Key ε α :=
  p.relabel fun o => (inst, o)

/-- A request goes on with the claims of its token, and refreshes only run here. -/
def Arrival.enter : Arrival → Entry Key Failure (Outcome ⊕ Call)
  | .request inst metadata r =>
    (JwksClient.on inst ((AuthInterceptor.call jwt toStr issuer metadata).mapErr .status)) >>=
      fun claims => .ret (.inr (.rpc inst (some claims) r))
  | .processor inst seq => .ret (.inr (.processor inst seq))
  | .snoozeWake => .ret (.inr .snoozeWake)
  | .ttlExpiry => .ret (.inr .ttlExpiry)
  | .escalation => .ret (.inr .escalation)
  | .startup inst =>
    (JwksClient.on inst ((JwksClient.refresh jwt).mapErr .error)) >>= fun _ => .ret (.inl none)
  | .periodic inst =>
    (JwksClient.on inst (JwksClient.refresh jwt).attempt) >>= fun _ => .ret (.inl none)
  -- the key set is the same for all instances
  | .rotate => .call (0, .rotate) fun _ => .ret (.inl none)

variable (versions : ℕ → JwksResponse)

/-- The effect of an operation on an instance. -/
def InstanceOp.exec (refused : Option String) (o : InstanceOp Key) (w : KeysWorld Key) :
    o.Ans × KeysWorld Key :=
  let (a, w') := JwksOp.exec versions refused o.2 ⟨w.version, w.keys o.1⟩
  (a, ⟨w'.version, Function.update w.keys o.1 w'.keys⟩)

/-- What is done before calls are served, on any instance. -/
def entrance : System Arrival (InstanceOp Key) InstanceOp.Ans (KeysWorld Key) (Option String)
    Failure (Outcome ⊕ Call) where
  body := Arrival.enter jwt toStr issuer
  exec := InstanceOp.exec versions

/-- The server: all calls behind the interceptor. -/
def server (ext : Ext) :=
  (entrance jwt toStr issuer versions).behind (system ext)

end

end Estafeta
