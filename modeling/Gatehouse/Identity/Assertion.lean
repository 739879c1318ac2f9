import Gatehouse.Http.Header
import Gatehouse.Identity.Resolver
import Gatehouse.Identity.Token

/-!
# The assertion of identity

A request of a signed-in user gets a header with a token for the user's account. A request without
claims stays as it is, and so do the headers when anything fails.
-/

namespace Gatehouse.Assertion

variable {σ : Type} (dir : Directory σ) (minter : TokenMinter)

/-- The token for an account with the roles it has now. -/
def token (account : Account) : Run σ (Except IdentityError String) := do
  match ← Run.call dir (.roles account.id) (dir.roles account.id) with
  | .error e => return .error (.roleLookupFailed account.id e.message)
  | .ok granted =>
    let now := (← get).seconds
    return .ok (minter.mint account account.unixGroups (granted.map RoleAssignment.role) now)

def tokenFor (claims : Claims) : Run σ (Except IdentityError String) := do
  match ← Resolver.resolve dir claims with
  | .error e => return .error e
  | .ok account => token dir minter account

/-- The value of a header with a token: plain text, or there is none. -/
def headerValue (token : String) : Except IdentityError Bytes :=
  if HeaderValue.isPlain (Utf8.encode token) then .ok (Utf8.encode token)
  else .error (.mintFailed Headers.Fault.badValue.message)

/-- Puts the token of the user into the headers, if there are claims. -/
def apply (claims : Option Claims) : StateT Headers (Run σ) (Except IdentityError Unit) := do
  match claims with
  | none => return .ok ()
  | some claims =>
    match ← tokenFor dir minter claims with
    | .error e => return .error e
    | .ok t =>
      match headerValue t with
      | .error e => return .error e
      | .ok value =>
        modify fun headers => headers.set .accessToken value
        return .ok ()

/-- The headers with the token of the user, if there are claims. -/
def attach (claims : Option Claims) (headers : Headers) : Run σ (Except IdentityError Headers) := do
  let (result, asserted) ← apply dir minter claims headers
  return result.map fun _ => asserted

end Gatehouse.Assertion
