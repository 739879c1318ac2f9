/-!
# Failures of routing

Faults of the routes that are found at startup, and targets that cannot be addressed.
-/

namespace Gatehouse

/-- Why routes cannot be used or a request cannot be sent on. -/
inductive RoutingError
  | malformedBackend (url reason : String)
  | malformedPattern (endpoint reason : String)
  /-- An endpoint by query that asks for no parameter. -/
  | noParameters (endpoint : String)
  | duplicateEndpoint (policy endpoint : String)
  | invalidTarget (target reason : String)
  deriving DecidableEq, Repr

def RoutingError.message : RoutingError → String
  | malformedBackend url reason => "malformed backend URL " ++ url ++ ": " ++ reason
  | malformedPattern endpoint reason => "invalid endpoint " ++ endpoint ++ ": " ++ reason
  | noParameters endpoint =>
    "invalid endpoint " ++ endpoint ++ ": query route without query parameters"
  | duplicateEndpoint policy endpoint =>
    "policy " ++ policy ++ " has more than one route for endpoint " ++ endpoint
  | invalidTarget target reason => "invalid rewrite target " ++ target ++ ": " ++ reason

end Gatehouse
