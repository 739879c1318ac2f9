import Gatehouse.Identity.Pool
import Mathlib.Tactic

/-!
# What may happen to requests under way

Users come at any time, to be resolved or to have an account created straight away; requests go on in
any order, each time with a directory that may have changed or that fails, and some are dropped before
they are finished. Beside them addresses are looked up, the cache is told to forget, and time goes by.
-/

namespace Gatehouse

variable {σ : Type}

/-- The lock at which a request has a place, if at one. -/
def Stage.lock? : Stage → Option Nat
  | .waiting lock | .rechecking lock | .creating lock => some lock
  | .started | .searching | .finished _ => none

inductive PoolMove (σ : Type)
  /-- A user comes to be resolved. -/
  | resolve (claims : Claims)
  /-- A user comes to have an account created unless there is one. -/
  | provision (claims : Claims)
  /-- A request goes on to its next pause. -/
  | goOn (dir : Directory σ) (i : Nat)
  /-- A request is dropped, wherever it pauses. -/
  | drop (i : Nat)
  /-- Somebody looks for the account with an address. -/
  | look (email : String)
  /-- The directory answers somebody who looks for the account with an address. -/
  | hear (dir : Directory σ) (email : String)
  /-- The account with an address is forgotten. -/
  | invalidate (email : String)
  /-- Milliseconds go by. -/
  | advance (elapsed : Nat)

namespace Pool

def join (p : Pool σ) (claims : Claims) : Pool σ := { p with tasks := p.tasks ++ [{ claims }] }

/-- A request queues at the lock for its address, and goes on if it has it. -/
def queueUp (p : Pool σ) (i : Nat) (email : String) : Pool σ :=
  { p with locks := (p.locks.acquire email i).2 }.takeTurn i email (p.locks.acquire email i).1

def leave (p : Pool σ) (i : Nat) (t : ResolveTask) : Pool σ :=
  match t.stage.lock? with
  | none => p
  | some lock => { p with locks := p.locks.release t.claims.email lock i }

/-- A request is dropped. Its user may ask again. -/
def drop (p : Pool σ) (i : Nat) : Pool σ :=
  match p.tasks[i]? with
  | none => p
  | some t => (p.leave i t).enter i .started

/-- The directory is asked for the accounts with an address, unless one is remembered. -/
def look (p : Pool σ) (email : String) : Pool σ :=
  match p.run.remembered email with
  | (some _, run) => { p with run }
  | (none, run) =>
    { p with run := run.note (.list (MailFilter.filter email) Resolver.pageSize) }

def move (p : Pool σ) : PoolMove σ → Pool σ
  | .resolve claims => p.join claims
  | .provision claims => (p.join claims).queueUp p.tasks.length claims.email
  | .goOn dir i => p.poll dir i
  | .drop i => p.drop i
  | .look email => p.look email
  | .hear dir email => (p.answered dir email).2
  | .invalidate email =>
    { p with run := { p.run with cache := p.run.cache.invalidate email } }
  | .advance elapsed => { p with run := { p.run with clock := p.run.clock + elapsed } }

def moves (p : Pool σ) (ms : List (PoolMove σ)) : Pool σ := ms.foldl move p

theorem moves_cons (p : Pool σ) (m : PoolMove σ) (after : List (PoolMove σ)) :
    p.moves (m :: after) = (p.move m).moves after := rfl

end Pool

end Gatehouse
