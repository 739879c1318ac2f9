import Gatehouse.Identity.Pool
import Gatehouse.Proofs.Identity.Resolver

/-!
# A request alone

A request that nobody else gets in the way of comes to the same, stage by stage, as when it is
resolved at one go. It finds no lock, makes one, has it at once, and leaves none behind.
-/

namespace Gatehouse.Pool

variable {σ : Type} (dir : Directory σ) (claims : Claims)

def alone (run : RunState σ) (stage : Stage) (locks : Locks) : Pool σ :=
  { run, tasks := [{ claims, stage }], locks }

/-- After some passes a request has come to what was found, and the run to a state. -/
def EndsIn (n : Nat) (p : Pool σ) (found : Except IdentityError Account × RunState σ) : Prop :=
  ∃ locks, (pass dir)^[n] p =
    alone claims found.2 (.finished (found.1.bind Resolver.ifEnabled)) locks

theorem endsIn_succ {n : Nat} {run : RunState σ} {stage : Stage} {locks : Locks}
    {found : Except IdentityError Account × RunState σ}
    (h : EndsIn dir claims n ((alone claims run stage locks).resume dir 0 claims stage) found) :
    EndsIn dir claims (n + 1) (alone claims run stage locks) found := h

theorem endsIn_finished (n : Nat) (run : RunState σ) (found : Except IdentityError Account)
    (locks : Locks) :
    EndsIn dir claims n (alone claims run (.finished (found.bind Resolver.ifEnabled)) locks)
      (found, run) :=
  ⟨locks, Function.iterate_fixed rfl n⟩

/-- The lock that a request makes when there is none. -/
def ownLock (claims : Claims) : Locks := { kept := [(claims.email, 0)], queues := [[0]] }

theorem endsIn_creating (n : Nat) (run : RunState σ) (locks : Locks) :
    EndsIn dir claims (n + 1)
      (alone claims (run.note (.create (Resolver.newAccount claims))) (.creating 0) locks)
      (Resolver.create dir claims run) := by
  rw [Resolver.create_eq]
  exact endsIn_finished dir claims n _ _ _

theorem answered_note (run : RunState σ) (stage : Stage) (locks : Locks) (email : String) :
    (alone claims (run.note (.list (MailFilter.filter email) Resolver.pageSize)) stage
        locks).answered dir email =
      ((Resolver.ask dir email run).1, alone claims (Resolver.ask dir email run).2 stage locks) := rfl

theorem endsIn_rechecking (n : Nat) (run : RunState σ) (locks : Locks) :
    EndsIn dir claims (n + 2)
      (alone claims (run.note (.list (MailFilter.filter claims.email) Resolver.pageSize))
        (.rechecking 0) locks)
      (match Resolver.ask dir claims.email run with
        | (.error (.accountNotFound _), t) => Resolver.create dir claims t
        | (found, t) => (found, t)) := by
  refine endsIn_succ dir claims ?_
  unfold resume
  rw [answered_note]
  rcases Resolver.ask dir claims.email run with ⟨e | account, t⟩
  · cases e
    case accountNotFound email => exact endsIn_creating dir claims n t locks
    all_goals exact endsIn_finished dir claims (n + 1) t (.error _) _
  · exact endsIn_finished dir claims (n + 1) t (.ok account) _

theorem endsIn_takeTurn (n : Nat) (run : RunState σ) (stage : Stage) :
    EndsIn dir claims (n + 2)
      ((alone claims run stage (ownLock claims)).takeTurn 0 claims.email 0)
      (Resolver.provision dir claims run) := by
  have hhas : (alone claims run stage (ownLock claims)).locks.has 0 0 = true := rfl
  rw [Resolver.provision_eq, Resolver.lookup_eq]
  unfold takeTurn
  rw [if_pos hhas]
  rcases hr : run.remembered claims.email with ⟨_ | account, t⟩
  · have hr : (alone claims run stage (ownLock claims)).run.remembered claims.email = (none, t) := hr
    simp only [hr]
    exact endsIn_rechecking dir claims n t _
  · have hr : (alone claims run stage (ownLock claims)).run.remembered claims.email =
        (some account, t) := hr
    simp only [hr]
    exact endsIn_finished dir claims (n + 2) t (.ok account) _

theorem endsIn_searching (n : Nat) (run : RunState σ) :
    EndsIn dir claims (n + 3)
      (alone claims (run.note (.list (MailFilter.filter claims.email) Resolver.pageSize))
        .searching {})
      (match Resolver.ask dir claims.email run with
        | (.error (.accountNotFound _), t) => Resolver.provision dir claims t
        | (found, t) => (found, t)) := by
  refine endsIn_succ dir claims ?_
  unfold resume
  rw [answered_note]
  rcases Resolver.ask dir claims.email run with ⟨e | account, t⟩
  · cases e
    case accountNotFound email => exact endsIn_takeTurn dir claims n t .searching
    all_goals exact endsIn_finished dir claims (n + 2) t (.error _) _
  · exact endsIn_finished dir claims (n + 2) t (.ok account) _

theorem endsIn_started (n : Nat) (run : RunState σ) :
    ∃ locks, (pass dir)^[n + 4] (alone claims run .started {}) =
      alone claims (Resolver.resolve dir claims run).2
        (.finished (Resolver.resolve dir claims run).1) locks := by
  change ∃ locks, (pass dir)^[n + 3] (resume dir _ 0 claims .started) = _
  rw [Resolver.resolve_eq]
  unfold resume
  split_ifs with hblank
  · exact ⟨{}, Function.iterate_fixed rfl (n + 3)⟩
  · rw [Resolver.lookup_eq]
    rcases hr : run.remembered claims.email with ⟨_ | account, t⟩
    · have hr : (alone claims run .started {}).run.remembered claims.email = (none, t) := hr
      simp only [hr]
      have hends := endsIn_searching dir claims n t
      rcases ha : Resolver.ask dir claims.email t with ⟨e | account, u⟩ <;> rw [ha] at hends
      · cases e <;> exact hends
      · exact hends
    · have hr : (alone claims run .started {}).run.remembered claims.email = (some account, t) := hr
      simp only [hr]
      exact endsIn_finished dir claims (n + 3) t (.ok account) _

/-- A request alone in the pool is resolved as it is on its own. -/
theorem finishAll_alone (run : RunState σ) :
    ((start run [claims]).finishAll dir).results = [some (Resolver.resolve dir claims run).1] ∧
      ((start run [claims]).finishAll dir).run = (Resolver.resolve dir claims run).2 := by
  have hpasses : (start run [claims]).finishAll dir = (pass dir)^[6] (alone claims run .started {}) :=
    List.foldl_const (pass dir) _ _
  obtain ⟨locks, hends⟩ := endsIn_started dir claims 2 run
  rw [hpasses, hends]
  exact ⟨rfl, rfl⟩

end Gatehouse.Pool
