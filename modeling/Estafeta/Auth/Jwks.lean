import Estafeta.Lib.Pool
import Estafeta.Messages

/-!
# JSON Web Key Sets

The client of `auth/jwks.rs`, which caches the keys of the JWKS endpoint and validates tokens with
them. What the libraries do is a parameter (`Jwt`): decoding tokens and making keys of their
components. A key set is fetched in one operation and installed in another, behind a lock.
-/

open Atomic

namespace Estafeta

structure JwkKey where
  kid : String
  kty : String
  alg : Option String
  n : Option String
  e : Option String

structure JwksResponse where
  keys : List JwkKey

/-! ## Tokens -/

inductive Algorithm where
  | rs256

/-- What a token is validated against. -/
structure Validation where
  algorithms : List Algorithm
  iss : Option (List String)
  validateAud : Bool

/-- `Validation::new`. -/
def Validation.new (algorithm : Algorithm) : Validation := ⟨[algorithm], none, true⟩

/-- `Validation::set_issuer`. -/
def Validation.setIssuer (v : Validation) (items : List String) : Validation :=
  { v with iss := some items }

/-- What the JWT library does: the `kid` of a token's header, a key of its components, and the
claims of a token that a key verifies. -/
structure Jwt (Key : Type) where
  decodeHeader : String → Except String (Option String)
  fromRsaComponents : String → String → Except String Key
  decode : String → Key → Validation → Except String Json

/-- The characters with the Unicode property `White_Space`. -/
def isWhiteSpace (c : Char) : Bool :=
  (9 ≤ c.toNat && c.toNat ≤ 13) || (0x2000 ≤ c.toNat && c.toNat ≤ 0x200A) ||
    c.toNat ∈ [0x20, 0x85, 0xA0, 0x1680, 0x2028, 0x2029, 0x202F, 0x205F, 0x3000]

/-- `str::split_whitespace`. -/
def splitWhitespace (s : String) : List String :=
  ((s.toList.splitOnP isWhiteSpace).filter fun word => !word.isEmpty).map String.ofList

/-- The claims that the server uses of a token's. -/
def AuthClaims.ofJson (claims : Json) : AuthClaims where
  subject := ((claims.get? "sub").bind Json.asStr?).getD ""
  scopes := match (claims.get? "scp").or (claims.get? "scope") with
    | some (.array values) => values.filterMap Json.asStr?
    | some (.string s) => splitWhitespace s
    | _ => []

/-! ## The client -/

/-- The keys of a key set by their `kid`. -/
abbrev Keys (Key : Type) := String → Option Key

inductive JwksOp (Key : Type) where
  | get
  | readKeys
  | writeKeys (keys : Keys Key)
  | rotate

/-- What an operation answers: the endpoint's key set or why it could not be fetched, or the cached
keys. -/
@[reducible] def JwksOp.Ans {Key : Type} : JwksOp Key → Type
  | .get => Except String JwksResponse
  | .readKeys => Keys Key
  | .writeKeys _ => Unit
  | .rotate => Unit

/-- Programs of the client. -/
abbrev JwksProgram (Key ε α : Type) := Prog (JwksOp Key) JwksOp.Ans ε α

namespace JwksClient

variable {Key : Type} (jwt : Jwt Key)

/-- Put an RSA key into a key set, unless its components are missing or not accepted. -/
def insertKey (keys : Keys Key) (jwk : JwkKey) : Keys Key :=
  if jwk.kty = "RSA" then
    match jwk.n, jwk.e with
    | some n, some e =>
      match jwt.fromRsaComponents n e with
      | .ok key => Function.update keys jwk.kid (some key)
      | .error _ => keys
    | _, _ => keys
  else keys

/-- The keys that are made of a response. -/
def keysOf (resp : JwksResponse) : Keys Key := resp.keys.foldl (insertKey jwt) fun _ => none

/-- Fetch the latest key set from the JWKS endpoint and replace the local cache. -/
def refresh : JwksProgram Key String Unit := do
  let resp ← (.call .get .ofExcept : JwksProgram Key String JwksResponse)
  .call (.writeKeys (keysOf jwt resp)) .ret

/-- What the tokens of an issuer are validated against. -/
def validation (issuer : Option String) : Validation :=
  let v := Validation.new .rs256
  let v := match issuer with
    | some issuer => v.setIssuer [issuer]
    | none => { v with validateAud := false }
  { v with validateAud := false }

/-- Decode and validate a Bearer JWT. A `kid` that is not in the local cache forces a refresh. -/
def validateToken (issuer : Option String) (token : String) :
    JwksProgram Key Status AuthClaims := do
  let header ← .ofExcept <| (jwt.decodeHeader token).mapError fun e =>
    Status.unauthenticated s!"invalid token header: {e}"
  let kid ← .okOr (.unauthenticated "token missing kid") header
  let cached : Keys Key ← .call .readKeys .ret
  let key ← match cached kid with
    | some k => pure k
    | none => do
      (refresh jwt).mapErr fun e => Status.internal s!"failed to refresh JWKS: {e}"
      let keys : Keys Key ← .call .readKeys .ret
      .okOr (.unauthenticated "unknown signing key") (keys kid)
  let claims ← .ofExcept <| (jwt.decode token key (validation issuer)).mapError fun e =>
    Status.unauthenticated s!"token validation failed: {e}"
  return AuthClaims.ofJson claims

end JwksClient

/-! ## The client and the endpoint -/

/-- The version of the key set that the endpoint serves, and the cached keys. -/
structure JwksWorld (Key : Type) where
  version : ℕ
  keys : Keys Key

/-- What runs: a refresh at startup or of the periodic task, the validation of a token, and a change
of the endpoint's key set. -/
inductive JwksCall where
  | startup
  | periodic
  | validateToken (token : String)
  | rotate

/-- Why a thread failed: the status a token is refused with, or the error a refresh ends with. -/
inductive JwksFailure where
  | status (s : Status)
  | error (e : String)

section

variable {Key : Type} (jwt : Jwt Key) (issuer : Option String) (versions : ℕ → JwksResponse)

/-- The program of a call; the periodic task only logs an error. -/
def JwksCall.body : JwksCall → JwksProgram Key JwksFailure (Option AuthClaims)
  | .startup => ((JwksClient.refresh jwt).mapErr .error) >>= fun _ => .ret none
  | .periodic => (JwksClient.refresh jwt).attempt >>= fun _ => .ret none
  | .validateToken token =>
    ((JwksClient.validateToken jwt issuer token).mapErr .status) >>= fun claims =>
      .ret (some claims)
  | .rotate => .call .rotate fun _ => .ret none

/-- The effect of an operation; a fetch may fail. -/
def JwksOp.exec (refused : Option String) : (o : JwksOp Key) → JwksWorld Key → o.Ans × JwksWorld Key
  | .get, w =>
    (match refused with
      | some e => .error e
      | none => .ok (versions w.version), w)
  | .readKeys, w => (w.keys, w)
  | .writeKeys keys, w => ((), { w with keys := keys })
  | .rotate, w => ((), { w with version := w.version + 1 })

/-- The interleaving of all calls, while the endpoint goes through the versions of its key set. -/
def jwksSystem : System JwksCall (JwksOp Key) JwksOp.Ans (JwksWorld Key) (Option String)
    JwksFailure (Option AuthClaims) where
  body := JwksCall.body jwt issuer
  exec := JwksOp.exec versions

end

end Estafeta
