import Gatehouse.Directory.Service
import Gatehouse.Identity.Cache

/-!
# Runs

While the gateway runs, accounts are remembered, clocks go on and calls are made. All that goes on
outside of the gateway is a state of its own, which only the calls can see and change.
-/

namespace Gatehouse

/-- What changes during a run. -/
structure RunState (σ : Type) where
  cache : AccountCache
  /-- The time since some start, in milliseconds. -/
  clock : Nat := 0
  /-- The time of day, in seconds since 1970. -/
  seconds : Int64 := 0
  /-- The calls made so far. -/
  calls : List DirectoryCall := []
  outside : σ

/-- An action of the gateway. -/
abbrev Run (σ α : Type) := StateM (RunState σ) α

namespace RunState

variable {σ : Type}

def note (s : RunState σ) (call : DirectoryCall) : RunState σ :=
  { s with calls := s.calls ++ [call] }

def remember (s : RunState σ) (email : String) (account : Account) : RunState σ :=
  { s with cache := s.cache.insert s.clock email account }

/-- Remembers the account that was found, if there is one. -/
def keep {ε : Type} (s : RunState σ) (email : String) : Except ε Account → RunState σ
  | .ok account => s.remember email account
  | .error _ => s

def remembered (s : RunState σ) (email : String) : Option Account × RunState σ :=
  let (account, cache) := s.cache.get s.clock email
  (account, { s with cache })

/-- Lets something outside happen. -/
def exchange {α : Type} (s : RunState σ) (act : StateM σ α) : α × RunState σ :=
  let (answer, outside) := act s.outside
  (answer, { s with outside })

/-- Lets the time go by that the last call took. -/
def await (s : RunState σ) (dir : Directory σ) : RunState σ :=
  { s with
    clock := s.clock + dir.elapsed s.outside
    seconds := dir.timeOfDay s.outside s.seconds }

def answer {α : Type} (s : RunState σ) (dir : Directory σ) (act : StateM σ α) : α × RunState σ :=
  let (reply, s) := s.exchange act
  (reply, s.await dir)

end RunState

namespace Run

variable {σ α : Type}

def exchange (act : StateM σ α) : Run σ α := fun s => s.exchange act

/-- Makes a call: it is noted and then answered. -/
def call (dir : Directory σ) (c : DirectoryCall) (act : StateM σ α) : Run σ α := fun s =>
  (s.note c).answer dir act

def remembered (email : String) : Run σ (Option Account) := fun s => s.remembered email

/-- Remembers the account that was found, if there is one. -/
def keep {ε : Type} (email : String) (found : Except ε Account) : Run σ Unit :=
  modify fun s => s.keep email found

end Run

end Gatehouse
