/-!
# Failures of the directory

A call to the directory or to the role service fails on the way, with a status other than success,
or with an answer that does not have the form it should have.
-/

namespace Gatehouse

inductive DirectoryError
  | transport (reason : String)
  | status (code : Nat) (body : String)
  | undecodable (reason : String)
  deriving DecidableEq, Repr

def DirectoryError.message : DirectoryError → String
  | transport reason => "transport error: " ++ reason
  | status code body => "service returned " ++ toString code ++ ": " ++ body
  | undecodable reason => "invalid response: " ++ reason

end Gatehouse
