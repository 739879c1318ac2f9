import Gatehouse.Gateway.Server
import Mathlib.Tactic

/-!
# The health check and everything else

One path belongs to the gateway itself, whatever the method. A request for any other path is served
by the engine, once, and answered with what comes of that; a request for this path never gets to the
engine. So a method that the health check does not know is refused, and not sent on.
-/

namespace Gatehouse.Server

section

variable {m : Type → Type} [Monad m]

/-- An action that counts how often it is run. -/
def counted {α : Type} (act : m α) : StateT Nat m α := do
  modify (· + 1)
  act

variable (serve : m (Except GatewayError Response)) {r : Request}

theorem route_of_eq (h : r.uri.path = healthPath) : route serve r = pure (health r.method) := by
  rw [route, if_pos h]

theorem route_of_ne [LawfulMonad m] (h : r.uri.path ≠ healthPath) :
    route serve r = render <$> serve := by
  rw [route, if_neg h, map_eq_pure_bind]

end

theorem status_health (method : Method) :
    (health method).status = if method = .get ∨ method = .head then 200 else 405 := by
  unfold health
  by_cases hget : method = .get
  · simp only [hget, ↓reduceIte, true_or]
  · by_cases hhead : method = .head
    · subst hhead
      rfl
    · simp only [hget, hhead, ↓reduceIte, or_self]
      rfl

variable {σ : Type}

/-- How often a request is served before it is answered. -/
def timesServed (serve : Run σ (Except GatewayError Response)) (r : Request) (s : RunState σ) :
    Nat :=
  (route (counted serve) r 0 s).1.2

/-- A request for another path than that of the health check is served once, and the answer and the
state behind it are those of serving it. A request for that path is not served at all: nothing
changes, and the answer is the gateway's own, a refusal of all methods but two. -/
theorem served_or_own (dir : Directory σ) (backends : Backends σ) (e : Engine)
    (claims : Option Claims) (r : Request) (s : RunState σ) :
    let serve := e.handle dir backends claims r
    (r.uri.path ≠ healthPath ∧ timesServed serve r s = 1 ∧
      route serve r s = (render (serve s).1, (serve s).2)) ∨
    (r.uri.path = healthPath ∧ timesServed serve r s = 0 ∧ route serve r s = (health r.method, s) ∧
      (health r.method).status = if r.method = .get ∨ r.method = .head then 200 else 405) := by
  intro serve
  by_cases hpath : r.uri.path = healthPath
  · refine Or.inr ⟨hpath, ?_, ?_, status_health r.method⟩
    · rw [timesServed, route_of_eq (counted serve) hpath]
      rfl
    · rw [route_of_eq serve hpath]
      rfl
  · refine Or.inl ⟨hpath, ?_, ?_⟩
    · rw [timesServed, route_of_ne (counted serve) hpath]
      rfl
    · rw [route_of_ne serve hpath]
      rfl

def noUsers : Directory Unit where
  list _ _ := pure (.ok [])
  create _ := pure (.error (.undecodable ""))
  get _ := pure (.ok none)
  roles _ := pure (.ok [])

/-- An engine without routes, which asserts no identities. -/
def routelessEngine : Engine := { router := ⟨⟨[]⟩, .fixed "default"⟩ }

def postedHealth : Request := { method := .post, uri := { path := healthPath } }

/-- To a method that the health check does not know the gateway answers by itself, where the engine
would have answered that there is no route. -/
theorem posted_health_not_served :
    let s : RunState Unit := { cache := .empty 1024 300000, outside := () }
    let serve := routelessEngine.handle noUsers (forward .unreachable) none postedHealth
    timesServed serve postedHealth s = 0 ∧ (route serve postedHealth s).1.status = 405 ∧
      (render (serve s).1).status = 502 := by
  intro s serve
  rcases served_or_own noUsers (forward .unreachable) routelessEngine none postedHealth s with
    ⟨hpath, -⟩ | ⟨-, htimes, hroute, hstatus⟩
  · exact absurd rfl hpath
  · rw [if_neg (by decide)] at hstatus
    refine ⟨htimes, ?_, rfl⟩
    rw [hroute]
    exact hstatus

end Gatehouse.Server
