import Gatehouse.Config.Basic

/-!
# Sound configurations

Names of policies and endpoints within a policy tell them apart, files of certificate and key come
in pairs, and nothing that the gateway cannot do without is empty. `Config.fault?` names the first
thing that is wrong: policies and routes in order, then the rest.
-/

namespace Gatehouse

inductive ConfigFault
  | emptyPolicyName
  | duplicatePolicy (name : String)
  | emptyEndpoint (policy : String)
  | duplicateEndpoint (policy endpoint : String)
  | halfTls
  | emptySelectorKind
  | missingSecret
  | emptyCache
  deriving DecidableEq, Repr

def ConfigFault.message : ConfigFault → String
  | emptyPolicyName => "policy name must not be empty"
  | duplicatePolicy name => "duplicate policy: " ++ name
  | emptyEndpoint policy => "policy " ++ policy ++ " has a route with an empty endpoint"
  | duplicateEndpoint policy endpoint =>
    "policy " ++ policy ++ " has more than one route for endpoint " ++ endpoint
  | halfTls => "http.tls_cert and http.tls_key must be set together"
  | emptySelectorKind => "policy_selector.kind must not be empty"
  | missingSecret => "token_manager.jwt_secret is required when account_uuid is enabled"
  | emptyCache => "account_cache.size must be greater than zero"

/-- The first faulty route of a policy, given the endpoints of the routes before. -/
def Policy.routeFault? (policy : String) : (seen : List String) → List Route → Option ConfigFault
  | _, [] => none
  | seen, r :: rest =>
    if r.endpoint = "" then some (.emptyEndpoint policy)
    else if r.endpoint ∈ seen then some (.duplicateEndpoint policy r.endpoint)
    else routeFault? policy (r.endpoint :: seen) rest

/-- The first fault among policies, given the names of the policies before. -/
def Policy.fault? : (seen : List String) → List Policy → Option ConfigFault
  | _, [] => none
  | seen, p :: rest =>
    if p.name = "" then some .emptyPolicyName
    else if p.name ∈ seen then some (.duplicatePolicy p.name)
    else (routeFault? p.name [] p.routes).or (fault? (p.name :: seen) rest)

namespace Config

/-- The first fault of the settings, policies apart. -/
def settingFault? (c : Config) : Option ConfigFault :=
  if c.http.certificate.isSome ≠ c.http.key.isSome then some .halfTls
  else if c.selector.kind = "" then some .emptySelectorKind
  else if c.identity.enabled ∧ c.token.secret = "" then some .missingSecret
  else if c.cache.size = 0 then some .emptyCache
  else none

def fault? (c : Config) : Option ConfigFault :=
  (Policy.fault? [] c.policies).or c.settingFault?

end Config

end Gatehouse
