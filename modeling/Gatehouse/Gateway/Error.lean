import Gatehouse.Identity.Error
import Gatehouse.Routing.Error
import Gatehouse.Selection.Error

/-!
# Failures of the gateway

Whatever goes wrong inside ends as one of seven failures. The caller sees no more than a status.
-/

namespace Gatehouse

inductive Failure
  | unauthorized | forbidden | notFound | noRoute | backend | config | internal
  deriving DecidableEq, Repr

/-- A failure with its details, which are for the log. -/
structure GatewayError where
  kind : Failure
  detail : String
  deriving DecidableEq, Repr

namespace Failure

/-- The status that the caller sees. -/
def status : Failure → Nat
  | unauthorized => 401
  | forbidden => 403
  | notFound => 404
  | noRoute | backend => 502
  | config | internal => 500

def label : Failure → String
  | unauthorized => "unauthorized"
  | forbidden => "forbidden"
  | notFound => "not found"
  | noRoute => "no route"
  | backend => "upstream error"
  | config => "configuration error"
  | internal => "internal error"

end Failure

namespace GatewayError

def status (e : GatewayError) : Nat := e.kind.status

def message (e : GatewayError) : String := e.kind.label ++ ": " ++ e.detail

end GatewayError

/-- What a failure of sign-in means for the caller. -/
def IdentityError.failure : IdentityError → Failure
  | missingEmail _ | accountDisabled _ | roleLookupFailed .. | mintFailed _ => .unauthorized
  | ambiguousAccount _ => .forbidden
  | accountNotFound _ => .notFound
  | directoryUnavailable .. | provisioningFailed .. | noSecret => .internal

def IdentityError.toGateway (e : IdentityError) : GatewayError := ⟨e.failure, e.message⟩

def RoutingError.toGateway (e : RoutingError) : GatewayError := ⟨.config, e.message⟩

def SelectorError.toGateway (e : SelectorError) : GatewayError := ⟨.config, e.message⟩

end Gatehouse
