import Gatehouse.Identity.Locks
import Gatehouse.Identity.Resolver

/-!
# Resolving for many users at once

Several requests may be under way, each of which pauses where it waits for the directory. Those that
want to create an account for one address queue at a lock; the one that has it looks once more and
creates, the others wait. So no two of them create an account for one address.

A request is taken up again and again until it is finished. Each time it goes on to the next pause.
-/

namespace Gatehouse

/-- Where a request pauses, and at which lock it has a place. -/
inductive Stage
  | started
  /-- The directory was asked for the accounts with the address. -/
  | searching
  /-- Others are in front. -/
  | waiting (lock : Nat)
  /-- With the lock; the directory was asked once more. -/
  | rechecking (lock : Nat)
  /-- With the lock; an account is being created. -/
  | creating (lock : Nat)
  | finished (result : Except IdentityError Account)

structure ResolveTask where
  claims : Claims
  stage : Stage := .started

/-- All requests under way, with what they share. -/
structure Pool (σ : Type) where
  run : RunState σ
  tasks : List ResolveTask
  locks : Locks := {}

namespace Pool

variable {σ : Type}

def start (run : RunState σ) (users : List Claims) : Pool σ :=
  { run, tasks := users.map fun claims => { claims } }

def enter (p : Pool σ) (i : Nat) (stage : Stage) : Pool σ :=
  { p with tasks := p.tasks.modify i fun t => { t with stage } }

def finish (p : Pool σ) (i : Nat) (found : Except IdentityError Account) : Pool σ :=
  p.enter i (.finished (found.bind Resolver.ifEnabled))

def finishFirst (p : Pool σ) (i : Nat) (email : String) (lock : Nat)
    (found : Except IdentityError Account) : Pool σ :=
  { p with locks := p.locks.release email lock i }.finish i found

/-- Asks the directory for the accounts with an address. The answer comes later. -/
def ask (p : Pool σ) (i : Nat) (email : String) (stage : Stage) : Pool σ :=
  { p with run := p.run.note (.list (MailFilter.filter email) Resolver.pageSize) }.enter i stage

/-- The answer of the directory to the question for the accounts with an address. -/
def answered (dir : Directory σ) (p : Pool σ) (email : String) :
    Except IdentityError Account × Pool σ :=
  let (reply, run) := p.run.answer dir (dir.list (MailFilter.filter email) Resolver.pageSize)
  let found := Resolver.judge email reply
  (found, { p with run := run.keep email found })

/-- A request at a lock goes on if it has it. -/
def takeTurn (p : Pool σ) (i : Nat) (email : String) (lock : Nat) : Pool σ :=
  if p.locks.has lock i then
    let (remembered, run) := p.run.remembered email
    let p := { p with run }
    match remembered with
    | some account => p.finishFirst i email lock (.ok account)
    | none => p.ask i email (.rechecking lock)
  else p.enter i (.waiting lock)

/-- Takes up a request, from the stage where it paused. -/
def resume (dir : Directory σ) (p : Pool σ) (i : Nat) (claims : Claims) : Stage → Pool σ
  | .started =>
    if Resolver.isBlank claims.email then
      p.enter i (.finished (.error (.missingEmail claims.preferredUsername)))
    else
      let (remembered, run) := p.run.remembered claims.email
      let p := { p with run }
      match remembered with
      | some account => p.finish i (.ok account)
      | none => p.ask i claims.email .searching
  | .searching =>
    match p.answered dir claims.email with
    | (.error (.accountNotFound _), p) =>
      let (lock, locks) := p.locks.acquire claims.email i
      { p with locks }.takeTurn i claims.email lock
    | (found, p) => p.finish i found
  | .waiting lock => p.takeTurn i claims.email lock
  | .rechecking lock =>
    match p.answered dir claims.email with
    | (.error (.accountNotFound _), p) =>
      { p with run := p.run.note (.create (Resolver.newAccount claims)) }.enter i (.creating lock)
    | (found, p) => p.finishFirst i claims.email lock found
  | .creating lock =>
    let (reply, run) := p.run.answer dir (dir.create (Resolver.newAccount claims))
    let created := Resolver.judgeCreated claims.email reply
    { p with run := run.keep claims.email created }.finishFirst i claims.email lock created
  | .finished _ => p

def poll (dir : Directory σ) (p : Pool σ) (i : Nat) : Pool σ :=
  match p.tasks[i]? with
  | none => p
  | some t => p.resume dir i t.claims t.stage

def pass (dir : Directory σ) (p : Pool σ) : Pool σ := (List.range p.tasks.length).foldl (poll dir) p

/-- The greatest number of times that a request goes on. -/
def maxStages : Nat := 6

/-- Takes up all requests in turn until all are finished: in each pass one of them goes on. -/
def finishAll (dir : Directory σ) (p : Pool σ) : Pool σ :=
  (List.range (maxStages * p.tasks.length)).foldl (fun p _ => p.pass dir) p

def results (p : Pool σ) : List (Option (Except IdentityError Account)) :=
  p.tasks.map fun t => match t.stage with
    | .finished r => some r
    | _ => none

end Pool

end Gatehouse
