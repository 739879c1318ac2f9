import Gatehouse.Gateway.Server
import Gatehouse.Proofs.Gateway.Destination
import Gatehouse.Proofs.Identity.Course
import Gatehouse.Proofs.Identity.Token

/-!
# Failing closed

The course of a request: identity, policy, target and backend, in this order. What fails is the last
thing that happens, and the caller is answered with a status. A request is sent on once at most, and
only behind a course on which nothing has failed.
-/

namespace Gatehouse

variable {σ : Type}

/-- How the policy of a user is chosen. The directory is asked only while users move. -/
inductive Strategy.Asks (user : Option String) : Strategy → List Event → String → Prop
  | fixed (policy : String) : Asks user (.fixed policy) [] policy
  | nobody (h : user = none ∨ user = some "") (params : MigrationParams) :
      Asks user (.migration params) [] params.unauthenticated
  | account {id : String} (h : user = some id) (hid : id ≠ "") {params : MigrationParams}
      {reply : Reply (Option Account)} {policy : String}
      (hpolicy : Chooses (fun _ => reply) user (.migration params) policy) :
      Asks user (.migration params) [.found id reply] policy

namespace Engine

/-- How the headers get their assertion, or are left without one. What is known are the accounts
that are remembered under an address. -/
inductive Asserts (e : Engine) (known : String → Option Account) (claims : Option Claims)
    (headers : Headers) : List Event → Headers → Prop
  | unasserted (hm : e.minter = none) :
      Asserts e known claims headers [] (headers.remove .accessToken)
  | anonymous (hc : claims = none) : Asserts e known claims headers [] (headers.remove .accessToken)
  | signed {m : TokenMinter} {c : Claims} {log : List Event} {token : String}
      (hm : e.minter = some m) (hc : claims = some c) (h : Minted m c (known c.email) log token) :
      Asserts e known claims headers log
        ((headers.remove .accessToken).set .accessToken (Utf8.encode token))

/-- How a request is pointed at the backend of its user's policy, or fails to be. -/
inductive Directs (e : Engine) (claims : Option Claims) (r : Request) :
    List Event → Except GatewayError Request → Prop
  | unrouted {log : List Event} {policy : String} {fault : GatewayError}
      (hasks : e.router.strategy.Asks (claims.map Claims.preferredUsername) log policy)
      (hnone : e.router.table.select policy r.uri.path (r.uri.query.getD "") = none)
      (hstatus : fault.status = 502) : Directs e claims r log (.error fault)
  | unaddressed {log : List Event} {policy : String} {d : Director} {cause : RoutingError}
      {fault : GatewayError}
      (hasks : e.router.strategy.Asks (claims.map Claims.preferredUsername) log policy)
      (hsome : e.router.table.select policy r.uri.path (r.uri.query.getD "") = some d)
      (happly : d.apply r = .error cause) (hstatus : fault.status = 500) :
      Directs e claims r log (.error fault)
  | directed {log : List Event} {policy : String} {d : Director} {q : Request}
      (hasks : e.router.strategy.Asks (claims.map Claims.preferredUsername) log policy)
      (hsome : e.router.table.select policy r.uri.path (r.uri.query.getD "") = some d)
      (happly : d.apply r = .ok q) : Directs e claims r log (.ok q)

/-- The course of a request, and the answer that it ends with. -/
inductive Course (e : Engine) (backends : Backends σ) (known : String → Option Account)
    (claims : Option Claims) (r : Request) : List Event → Response → Prop
  | denied {m : TokenMinter} {c : Claims} {log : List Event} {status : Nat}
      (hm : e.minter = some m) (hc : claims = some c) (h : Denied c (known c.email) log status) :
      Course e backends known claims r log (Server.bare status)
  | undirected {log more : List Event} {headers : Headers} {fault : GatewayError}
      (hasserts : e.Asserts known claims r.headers log headers)
      (hdirects : e.Directs claims { r with headers } more (.error fault)) :
      Course e backends known claims r (log ++ more) (Server.bare fault.status)
  | forwarded {log more : List Event} {headers : Headers} {q : Request}
      (hasserts : e.Asserts known claims r.headers log headers)
      (hdirects : e.Directs claims { r with headers } more (.ok q)) (services : σ) :
      Course e backends known claims r (log ++ more ++ [.forwarded q])
        (Server.render (backends q services).1)

end Engine

/-! ## The stages -/

namespace Assertion

variable (dir : Directory σ) (minter : TokenMinter)

end Assertion

namespace Engine

variable (dir : Directory σ) (backends : Backends σ) (e : Engine) (claims : Option Claims)
  {s : RunState (Journal σ)}

variable {backends e claims} {known : String → Option Account} {log : List Event}

theorem Asserts.silent {headers hs : Headers} (h : e.Asserts known claims headers log hs) :
    Silent log := by
  cases h with
  | unasserted => exact silent_nil
  | anonymous => exact silent_nil
  | signed _ _ h => exact h.silent

theorem Directs.silent {r : Request} {out : Except GatewayError Request}
    (h : e.Directs claims r log out) : Silent log := by
  have hasks : ∀ {user strategy policy}, Strategy.Asks user strategy log policy → Silent log := by
    rintro user strategy policy (_ | _ | _)
    · exact silent_nil
    · exact silent_nil
    · exact List.forall_mem_singleton.mpr rfl
  cases h with
  | unrouted h => exact hasks h
  | unaddressed h => exact hasks h
  | directed h => exact hasks h

/-- What the gateway answers by itself. Not found is not among it. -/
def ownStatuses : List Nat := [401, 403, 500, 502]

/-- Either nothing is sent on, and the answer is a status, or one request is, and its backend has
the say. -/
theorem Course.answer {r : Request} {answer : Response}
    (h : e.Course backends known claims r log answer) :
    (Silent log ∧ ∃ status ∈ ownStatuses, answer = Server.bare status) ∨
      ∃ q services, log.filterMap Event.forwarded? = [q] ∧
        answer = Server.render (backends q services).1 := by
  cases h with
  | denied hm hc h =>
    refine Or.inl ⟨h.silent, _, ?_, rfl⟩
    rcases h.status with hstatus | hstatus | hstatus <;> rw [hstatus] <;> decide
  | undirected hasserts hdirects =>
    refine Or.inl ⟨silent_append.mpr ⟨hasserts.silent, hdirects.silent⟩, _, ?_, rfl⟩
    cases hdirects with
    | unrouted _ _ hstatus => rw [hstatus]; decide
    | unaddressed _ _ _ hstatus => rw [hstatus]; decide
  | forwarded hasserts hdirects services =>
    refine Or.inr ⟨_, services, ?_, rfl⟩
    rw [List.filterMap_append, List.filterMap_eq_nil_iff.mpr
      (silent_append.mpr ⟨hasserts.silent, hdirects.silent⟩)]
    rfl

end Engine

end Gatehouse
