import Gatehouse.Http.Header
import Gatehouse.Http.Uri

/-!
# Requests and responses
-/

namespace Gatehouse

/-- The name of a method: a token. -/
structure Method where
  text : String
  deriving DecidableEq, Repr

namespace Method

def get : Method := ⟨"GET"⟩
def head : Method := ⟨"HEAD"⟩
def post : Method := ⟨"POST"⟩

def ofText? (s : String) : Option Method :=
  if s ≠ "" ∧ s.toList.all isTokenChar then some ⟨s⟩ else none

def badMessage : String := "invalid HTTP method"

end Method

structure Request where
  method : Method
  uri : Uri
  headers : Headers := []
  body : Bytes := []
  deriving DecidableEq, Repr

structure Response where
  status : Nat
  headers : Headers := []
  body : Bytes := []
  /-- Whether the body came to its end. -/
  complete : Bool := true
  deriving DecidableEq, Repr

end Gatehouse
