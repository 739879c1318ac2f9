import Gatehouse.Directory.Account
import Gatehouse.Directory.Error

/-!
# The directory as a service

The gateway knows the directory and the role service only by four calls. Whatever answers them may
have a state of its own, which a call may change, and may take its time.
-/

namespace Gatehouse

/-- A call to the directory or to the role service. -/
inductive DirectoryCall
  | list (query : String) (pageSize : Nat)
  | create (account : Account)
  | get (id : String)
  | roles (account : String)
  deriving DecidableEq, Repr

abbrev Reply (α : Type) := Except DirectoryError α

/-- What answers the calls. -/
structure Directory (σ : Type) where
  /-- The accounts that a filter lets through, at most as many as asked for. -/
  list : String → Nat → StateM σ (Reply (List Account))
  /-- Creates an account; the answer has an id. -/
  create : Account → StateM σ (Reply Account)
  /-- The account with an id, if there is one. -/
  get : String → StateM σ (Reply (Option Account))
  /-- The roles granted to an account. -/
  roles : String → StateM σ (Reply (List RoleAssignment))
  /-- How many milliseconds the call took that was answered last. -/
  elapsed : σ → Nat := fun _ => 0
  /-- The time of day after that call, by the time of day before it. -/
  timeOfDay : σ → Int64 → Int64 := fun _ seconds => seconds

/-- An action on a part of a state. -/
def onPart {σ τ α : Type} (part : τ → σ) (put : σ → τ → τ) (act : StateM σ α) :
    StateM τ α := fun t =>
  let (a, s) := act (part t)
  (a, put s t)

/-- A directory whose state is a part of a larger one. -/
def Directory.within {σ τ : Type} (part : τ → σ) (put : σ → τ → τ) (d : Directory σ) :
    Directory τ where
  list query pageSize := onPart part put (d.list query pageSize)
  create account := onPart part put (d.create account)
  get id := onPart part put (d.get id)
  roles account := onPart part put (d.roles account)
  elapsed := d.elapsed ∘ part
  timeOfDay := d.timeOfDay ∘ part

end Gatehouse
