/-!
# Failures of policy selection

Faults of the configured strategy, found at startup.
-/

namespace Gatehouse

inductive SelectorError
  | unknownStrategy (kind : String)
  | invalidParams (kind reason : String)
  deriving DecidableEq, Repr

def SelectorError.message : SelectorError → String
  | unknownStrategy kind => "unknown policy strategy: " ++ kind
  | invalidParams kind reason =>
    "invalid parameters for policy strategy " ++ kind ++ ": " ++ reason

end Gatehouse
