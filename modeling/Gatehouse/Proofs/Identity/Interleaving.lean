import Gatehouse.Identity.Pool
import Gatehouse.Proofs.Directory.Registry
import Mathlib.Logic.Relation

/-!
# Requests that run side by side

Between the moment at which a request asks the directory and the moment at which it hears the answer
there is one at which the directory does what it was asked to, or fails to. All these moments, of
all requests, follow each other in any order. In between time goes by and the cache forgets.
-/

namespace Gatehouse

/-- What the directory did about a call. -/
inductive Answer
  | listed (accounts : List Account)
  | created (account : Account)
  | failed (e : DirectoryError)

namespace Answer

/-- An answer of another kind than the one expected cannot be read. -/
def unreadable {α : Type} : Reply α := .error (.undecodable "")

def listing : Answer → Reply (List Account)
  | listed accounts => .ok accounts
  | failed e => .error e
  | created _ => unreadable

def creation : Answer → Reply Account
  | created account => .ok account
  | failed e => .error e
  | listed _ => unreadable

/-- Hands over an answer that is there already. -/
def desk (answer : Answer) : Directory Unit where
  list _ _ := pure answer.listing
  create _ := pure answer.creation
  get _ := pure unreadable
  roles _ := pure unreadable

end Answer

namespace Stage

/-- Whether a request waits for a listing. -/
def Lists : Stage → Prop
  | .searching | .rechecking _ => True
  | _ => False

def Creates : Stage → Prop
  | .creating _ => True
  | _ => False

end Stage

/-- The requests under way, the registry, and the answers that have not been heard yet. -/
structure Scene where
  registry : Registry
  pool : Pool Unit
  /-- The answer for each request, by its number. -/
  answers : Nat → Option Answer := fun _ => none

namespace Scene

def begin (size ttl : Nat) (initial : List Account) (users : List Claims) : Scene where
  registry := { initial }
  pool := .start { cache := .empty size ttl, outside := () } users

def reply (s : Scene) (i : Nat) (answer : Answer) : Scene :=
  { s with answers := Function.update s.answers i (some answer) }

/-- One thing that happens. -/
inductive Step (s : Scene) : Scene → Prop
  /-- The directory lists accounts for a request that asked for them. -/
  | list {i : Nat} {t : ResolveTask} {page : List Account} :
      s.pool.tasks[i]? = some t → t.stage.Lists → s.answers i = none →
      s.registry.Lists (MailFilter.filter t.claims.email) Resolver.pageSize page →
      Step s (s.reply i (.listed page))
  /-- The directory creates an account with the address asked for and a new id. -/
  | create {i : Nat} {t : ResolveTask} {a : Account} :
      s.pool.tasks[i]? = some t → t.stage.Creates → s.answers i = none →
      a.mail = (Resolver.newAccount t.claims).mail → (∀ b ∈ s.registry.accounts, b.id ≠ a.id) →
      Step s ({ s with registry := s.registry.store a }.reply i (.created a))
  /-- A call fails. It has changed nothing. -/
  | fail {i : Nat} {t : ResolveTask} (e : DirectoryError) :
      s.pool.tasks[i]? = some t → t.stage.Lists ∨ t.stage.Creates → s.answers i = none →
      Step s (s.reply i (.failed e))
  /-- A request hears the answer and goes on. -/
  | hear {i : Nat} {answer : Answer} : s.answers i = some answer →
      Step s { s with
        pool := s.pool.poll answer.desk i
        answers := Function.update s.answers i none }
  /-- A request that waits for no answer goes on. -/
  | goOn {i : Nat} {t : ResolveTask} (dir : Directory Unit) : s.pool.tasks[i]? = some t →
      ¬ t.stage.Lists → ¬ t.stage.Creates → Step s { s with pool := s.pool.poll dir i }
  /-- Milliseconds go by. -/
  | advance (elapsed : Nat) :
      Step s { s with pool := { s.pool with
        run := { s.pool.run with clock := s.pool.run.clock + elapsed } } }
  /-- The cache forgets accounts, for whatever reason. -/
  | forget {entries : List CacheEntry} : entries.Sublist s.pool.run.cache.entries →
      Step s { s with pool := { s.pool with
        run := { s.pool.run with cache := { s.pool.run.cache with entries } } } }

def Leads : Scene → Scene → Prop := Relation.ReflTransGen Step

end Scene

end Gatehouse
