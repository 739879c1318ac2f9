import Gatehouse.Command.Arguments
import Gatehouse.Gateway.Server
import Gatehouse.Http.Status

/-!
# Probing

A running gateway is asked for its health. The unspecified address, which one can only listen on, is
probed as the address of this host.
-/

namespace Gatehouse

inductive ProbeFault
  | noAnswer (url : String) (fault : Client.Fault)
  | unwell (url : String) (status : Nat)
  deriving DecidableEq, Repr

def ProbeFault.message : ProbeFault → String
  | noAnswer url fault => "Health check against " ++ url ++ " failed: " ++ fault.message
  | unwell url status => "Health check against " ++ url ++ " returned " ++ Status.describe status

namespace Probe

def unspecified : List Char := "0.0.0.0".toList

/-- A text with this host in the first place that the unspecified address stands at. -/
def toThisHost : List Char → List Char
  | [] => []
  | c :: cs =>
    if unspecified.isPrefixOf (c :: cs) then "127.0.0.1".toList ++ cs.drop (unspecified.length - 1)
    else c :: toThisHost cs

def url (o : HealthOptions) : String :=
  (if o.encrypted then "https://" else "http://") ++ String.ofList (toThisHost o.address.toList) ++
    Server.healthPath

variable {σ : Type} (net : Network σ)

def run (o : HealthOptions) : StateM σ (Except ProbeFault Unit) := do
  let url := url o
  match ← Client.send net .get url [(⟨"accept"⟩, Utf8.encode "*/*")] [] true with
  | .error fault => return .error (.noAnswer url fault)
  | .ok r => return if Status.isSuccess r.status then .ok () else .error (.unwell url r.status)

end Probe

end Gatehouse
