/-!
# Locks for creating accounts

Requests that want to create an account for one address queue at a lock that is made for the first
of them and kept for the others to find. The one in front has the lock. A lock that nobody queues at
any more is not kept, so that there are no more locks than addresses for which accounts are being
created.
-/

namespace Gatehouse

/-- The locks that were made, by their numbers, and those that are kept. -/
structure Locks where
  /-- The lock at which newcomers for an address queue. -/
  kept : List (String × Nat) := []
  /-- The requests at each lock, by their numbers and in the order they came. -/
  queues : List (List Nat) := []
  deriving DecidableEq, Repr

namespace Locks

def queue (ls : Locks) (lock : Nat) : List Nat := (ls.queues[lock]?).getD []

/-- A request queues at the lock that is kept for an address, or at a new one. -/
def acquire (ls : Locks) (email : String) (i : Nat) : Nat × Locks :=
  match ls.kept.lookup email with
  | some lock => (lock, { ls with queues := ls.queues.modify lock (· ++ [i]) })
  | none =>
    let lock := ls.queues.length
    (lock, { kept := (email, lock) :: ls.kept, queues := ls.queues ++ [[i]] })

def has (ls : Locks) (lock i : Nat) : Bool := (ls.queue lock).head? == some i

/-- A request leaves its lock. If no other one is there the lock is not kept any longer. -/
def release (ls : Locks) (email : String) (lock i : Nat) : Locks :=
  let others := (ls.queue lock).filter (· != i)
  let isLast := others = [] ∧ ls.kept.lookup email = some lock
  { kept := if isLast then ls.kept.filter (·.1 != email) else ls.kept
    queues := ls.queues.set lock others }

end Locks

end Gatehouse
