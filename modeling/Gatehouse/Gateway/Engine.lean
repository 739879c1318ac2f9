import Gatehouse.Gateway.Error
import Gatehouse.Identity.Assertion
import Gatehouse.Routing.Table
import Gatehouse.Selection.Strategy

/-!
# The engine

What becomes of a request: a token that the client brought along is taken off, the identity of the
user is asserted, the policy and the route are chosen, and the request is pointed at the backend and
sent on. The first failure ends it.
-/

namespace Gatehouse

/-- What answers the requests that are sent on. -/
abbrev Backends (σ : Type) := Request → StateM σ (Except GatewayError Response)

/-- Which policy and which director serve a request. -/
structure Router where
  table : RouteTable
  strategy : Strategy

namespace Router

variable {σ : Type} (dir : Directory σ)

/-- The policy of a user, and the director for a target under it. -/
def select (r : Router) (claims : Option Claims) (uri : Uri) :
    Run σ (String × Option Director) := do
  let policy ← r.strategy.policy dir (claims.map Claims.preferredUsername)
  return (policy, r.table.select policy uri.path (uri.query.getD ""))

end Router

structure Engine where
  router : Router
  /-- None if identities are not asserted. -/
  minter : Option TokenMinter := none

namespace Engine

variable {σ : Type} (dir : Directory σ)

/-- The headers of a request with the identity of its user and no other. -/
def assertIdentity (e : Engine) (claims : Option Claims) (headers : Headers) :
    Run σ (Except GatewayError Headers) := do
  let clean := headers.remove .accessToken
  match e.minter with
  | none => return .ok clean
  | some m => return (← Assertion.attach dir m claims clean).mapError IdentityError.toGateway

def direct (e : Engine) (claims : Option Claims) (r : Request) :
    Run σ (Except GatewayError Request) := do
  match ← e.router.select dir claims r.uri with
  | (policy, none) =>
    return .error ⟨.noRoute, "no director for " ++ r.uri.path ++ " in policy " ++ policy⟩
  | (_, some d) => return (d.apply r).mapError RoutingError.toGateway

/-- The request that is sent to the backend. -/
def prepare (e : Engine) (claims : Option Claims) (r : Request) :
    Run σ (Except GatewayError Request) := do
  match ← e.assertIdentity dir claims r.headers with
  | .error fault => return .error fault
  | .ok headers => e.direct dir claims { r with headers }

def handle (backends : Backends σ) (e : Engine) (claims : Option Claims) (r : Request) :
    Run σ (Except GatewayError Response) := do
  match ← e.prepare dir claims r with
  | .error fault => return .error fault
  | .ok r => Run.exchange (backends r)

end Engine

end Gatehouse
