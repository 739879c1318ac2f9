import Gatehouse.Pattern.Match
import Gatehouse.Routing.Director
import Gatehouse.Routing.Route
import Gatehouse.Text.Form

/-!
# The table of routes

The routes of each policy are sorted once, at startup. A request is compared with the routes by
query first, the longest endpoint in front; then with the patterns, in the order of the
configuration; then with the paths, the longest in front; and what is left goes to the root.
-/

namespace Gatehouse

structure QueryRoute where
  endpoint : String
  path : String
  parameters : List (String × String)
  director : Director

namespace QueryRoute

/-- The route of an endpoint; it must ask for parameters. -/
def ofEndpoint (endpoint : String) (director : Director) : Except RoutingError QueryRoute :=
  let cs := endpoint.toList
  let parameters := Form.parameters (String.ofList ((cs.dropWhile (· ≠ '?')).drop 1))
  if parameters = [] then .error (.noParameters endpoint)
  else .ok { endpoint, path := String.ofList (cs.takeWhile (· ≠ '?')), parameters, director }

/-- Whether the path begins as asked and the query has all parameters asked for. -/
def accepts (r : QueryRoute) (path : String) (query : List (String × String)) : Bool :=
  r.path.toList.isPrefixOf path.toList && r.parameters.all query.contains

end QueryRoute

structure PolicyRoutes where
  byQuery : List QueryRoute := []
  byPattern : List (Pattern × Director) := []
  byPath : List (String × Director) := []
  root : Option Director := none

namespace PolicyRoutes

def add (rs : PolicyRoutes) (r : Route) : Except RoutingError PolicyRoutes := do
  let director ← Director.new r.backend r.virtualHost
  match r.kind with
  | .byPath =>
    if r.endpoint = Route.rootEndpoint then return { rs with root := some director }
    else return { rs with byPath := rs.byPath ++ [(r.endpoint, director)] }
  | .byQuery => return { rs with byQuery := rs.byQuery ++ [← QueryRoute.ofEndpoint r.endpoint director] }
  | .byPattern =>
    match Pattern.compile r.endpoint with
    | .ok p => return { rs with byPattern := rs.byPattern ++ [(p, director)] }
    | .error e => throw (.malformedPattern r.endpoint e.message)

/-- Adds routes in order; no endpoint may occur twice. -/
def addAll (policy : String) : (seen : List String) → PolicyRoutes → List Route →
    Except RoutingError PolicyRoutes
  | _, rs, [] => .ok rs
  | seen, rs, r :: rest =>
    if r.endpoint ∈ seen then .error (.duplicateEndpoint policy r.endpoint)
    else do addAll policy (r.endpoint :: seen) (← rs.add r) rest

/-- Puts the longest endpoints in front; those of equal length keep their order. -/
def sort (rs : PolicyRoutes) : PolicyRoutes :=
  { rs with
    byQuery := rs.byQuery.mergeSort fun a b => a.endpoint.utf8ByteSize ≥ b.endpoint.utf8ByteSize
    byPath := rs.byPath.mergeSort fun a b => a.1.utf8ByteSize ≥ b.1.utf8ByteSize }

def ofPolicy (p : Policy) : Except RoutingError PolicyRoutes :=
  (addAll p.name [] {} p.routes).map sort

/-- The director for a path and a query, if there is one. -/
def select (rs : PolicyRoutes) (path query : String) : Option Director :=
  let parameters := Form.parameters query
  ((rs.byQuery.find? fun r => r.accepts path parameters).map QueryRoute.director).or <|
    ((rs.byPattern.find? fun r => r.1.isMatch path).map Prod.snd).or <|
      ((rs.byPath.find? fun r => r.1.toList.isPrefixOf path.toList).map Prod.snd).or rs.root

end PolicyRoutes

structure RouteTable where
  policies : List (String × PolicyRoutes) := []

namespace RouteTable

/-- The table with the routes of one more policy, in the place of any of its name. -/
def insert (t : RouteTable) (name : String) (rs : PolicyRoutes) : RouteTable :=
  ⟨(name, rs) :: t.policies.filter (·.1 != name)⟩

/-- The table of some policies, or the first fault in their order. -/
def build (policies : List Policy) : Except RoutingError RouteTable :=
  policies.foldlM (fun t p => do return t.insert p.name (← PolicyRoutes.ofPolicy p)) {}

def contains (t : RouteTable) (policy : String) : Bool := (t.policies.lookup policy).isSome

/-- The director for a request under a policy; none if the policy is not configured. -/
def select (t : RouteTable) (policy path query : String) : Option Director :=
  (t.policies.lookup policy).bind fun rs => rs.select path query

end RouteTable

end Gatehouse
