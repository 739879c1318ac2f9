import Gatehouse.Directory.MailFilter
import Gatehouse.Directory.Service

/-!
# A directory in memory

Accounts and roles are held in lists. An account that is created gets a new id and is stored. Each
kind of call can be made to fail, and the answer to a listing can be fixed.
-/

namespace Gatehouse

/-- The failures that calls are answered with, by their kind. -/
structure DirectoryFaults where
  list : Option DirectoryError := none
  create : Option DirectoryError := none
  get : Option DirectoryError := none
  roles : Option DirectoryError := none
  deriving DecidableEq, Repr

structure MemoryDirectory where
  accounts : List Account := []
  /-- The answer to every listing, if it is fixed. -/
  fixedListing : Option (List Account) := none
  /-- The ids of the roles of an account. -/
  roles : List (String × List String) := []
  /-- Members written over each new account. -/
  overlay : List (String × Json) := []
  faults : DirectoryFaults := {}
  /-- How many accounts were created. -/
  created : Nat := 0

namespace MemoryDirectory

def matching (d : MemoryDirectory) (query : String) : List Account :=
  d.accounts.filter fun a => MailFilter.filter a.mail == query

def stored (d : MemoryDirectory) (request : Account) : Account :=
  let account := { request with id := "new-" ++ toString (d.created + 1) }
  match Wire.ofJson ((Wire.encode account).withMembers d.overlay) with
  | .ok a => a
  | .error _ => account

/-- An answer, unless the call is to fail. -/
def answer {α : Type} (fault : Option DirectoryError) (a : α) : Reply α :=
  match fault with
  | some e => .error e
  | none => .ok a

def service : Directory MemoryDirectory where
  list query pageSize := do
    let d ← get
    return answer d.faults.list (d.fixedListing.getD ((d.matching query).take pageSize))
  create request := do
    let d ← get
    match d.faults.create with
    | some e => return .error e
    | none =>
      let account := d.stored request
      set { d with accounts := d.accounts ++ [account], created := d.created + 1 }
      return .ok account
  get id := do
    let d ← get
    return answer d.faults.get (d.accounts.find? (·.id == id))
  roles account := do
    let d ← get
    return answer d.faults.roles (((d.roles.lookup account).getD []).map (⟨account, ·⟩))

end MemoryDirectory

end Gatehouse
