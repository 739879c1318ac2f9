import Gatehouse.Directory.MailFilter
import Gatehouse.Identity.Claims
import Gatehouse.Identity.Error
import Gatehouse.Run
import Gatehouse.Unicode.Category

/-!
# From claims to accounts

The account of a user is the one that has the mail address of the claims. If the directory has none,
one is created; it is asked a second time just before that, since another request may have been
faster. Two accounts with one address are never told apart, and a disabled account is of no use.
-/

namespace Gatehouse

namespace Resolver

/-- How many accounts are asked for: enough to see that there is more than one. -/
def pageSize : Nat := 2

def isBlank (s : String) : Bool := s.toList.all Unicode.isBlank

/-- What the accounts that have an address mean. -/
def judge (email : String) : Reply (List Account) → Except IdentityError Account
  | .error e => .error (.directoryUnavailable email e.message)
  | .ok [] => .error (.accountNotFound email)
  | .ok [account] => .ok account
  | .ok _ => .error (.ambiguousAccount email)

def judgeCreated (email : String) (reply : Reply Account) : Except IdentityError Account :=
  reply.mapError fun e => .provisioningFailed email e.message

/-- The account that is created for a user. -/
def newAccount (c : Claims) : Account where
  displayName := c.name
  preferredName := c.preferredUsername
  unixName := c.preferredUsername
  mail := c.email
  enabled := true
  creationType := Account.localAccount

/-- An account, unless it is disabled. -/
def ifEnabled (a : Account) : Except IdentityError Account :=
  if a.enabled then .ok a else .error (.accountDisabled a.id)

variable {σ : Type} (dir : Directory σ)

/-- The account with an address, remembered or in the directory. -/
def lookup (email : String) : Run σ (Except IdentityError Account) := do
  match ← Run.remembered email with
  | some account => return .ok account
  | none =>
    let query := MailFilter.filter email
    let found := judge email (← Run.call dir (.list query pageSize) (dir.list query pageSize))
    Run.keep email found
    return found

def create (claims : Claims) : Run σ (Except IdentityError Account) := do
  let account := newAccount claims
  let created := judgeCreated claims.email (← Run.call dir (.create account) (dir.create account))
  Run.keep claims.email created
  return created

/-- Creates the account of a user, unless there is one by now. -/
def provision (claims : Claims) : Run σ (Except IdentityError Account) := do
  match ← lookup dir claims.email with
  | .error (.accountNotFound _) => create dir claims
  | found => return found

/-- The enabled account of a user. Claims without an address are turned down at once. -/
def resolve (claims : Claims) : Run σ (Except IdentityError Account) := do
  if isBlank claims.email then
    return .error (.missingEmail claims.preferredUsername)
  else
    match ← lookup dir claims.email with
    | .error (.accountNotFound _) => return (← provision dir claims).bind ifEnabled
    | found => return found.bind ifEnabled

end Resolver

end Gatehouse
