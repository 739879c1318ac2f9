import Gatehouse.Text.Quoted

/-!
# Failures of sign-in

Why a user could not be turned into an account with a token.
-/

namespace Gatehouse

/-- Why a request cannot be signed with the identity of its user. -/
inductive IdentityError
  | directoryUnavailable (email reason : String)
  | missingEmail (username : String)
  | accountNotFound (email : String)
  | provisioningFailed (email reason : String)
  | ambiguousAccount (email : String)
  | accountDisabled (account : String)
  | roleLookupFailed (account reason : String)
  | noSecret
  | mintFailed (reason : String)
  deriving DecidableEq, Repr

def IdentityError.message : IdentityError → String
  | directoryUnavailable email reason =>
    "directory unavailable while looking up " ++ email ++ ": " ++ reason
  | missingEmail username => "claims for " ++ Quoted.text username ++ " carry no email"
  | accountNotFound email => "no account for " ++ email
  | provisioningFailed email reason =>
    "failed to provision account for " ++ email ++ ": " ++ reason
  | ambiguousAccount email => "more than one account for " ++ email
  | accountDisabled account => "account " ++ account ++ " is disabled"
  | roleLookupFailed account reason => "role lookup failed for " ++ account ++ ": " ++ reason
  | noSecret => "token manager could not be initialized"
  | mintFailed reason => "failed to mint token: " ++ reason

end Gatehouse
