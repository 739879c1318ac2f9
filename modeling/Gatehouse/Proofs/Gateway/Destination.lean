import Gatehouse.Proofs.Gateway.Engine
import Gatehouse.Proofs.Routing.Director
import Gatehouse.Proofs.Routing.Selection
import Gatehouse.Proofs.Routing.Target

/-!
# Where requests go

A request goes to the backend of a route of the policy that its user has. What the client writes in
the target of its request, be it an authority of its own, chooses among these routes and no more.
-/

namespace Gatehouse

variable {σ : Type}

namespace Strategy

/-- The policy of a user, by what the directory answers when it is asked for the user's account. -/
inductive Chooses (known : String → Reply (Option Account)) :
    Option String → Strategy → String → Prop
  | fixed {user : Option String} {policy : String} : Chooses known user (.fixed policy) policy
  | nobody {user : Option String} {params : MigrationParams} (h : user = none ∨ user = some "") :
      Chooses known user (.migration params) params.unauthenticated
  | found {id : String} {params : MigrationParams} {account : Account} (hid : id ≠ "")
      (h : known id = .ok (some account)) : Chooses known (some id) (.migration params) params.found
  | unknown {id : String} {params : MigrationParams} (hid : id ≠ "")
      (h : known id = .ok none ∨ ∃ e, known id = .error e) :
      Chooses known (some id) (.migration params) params.notFound

theorem policy_of_name (dir : Directory σ) (params : MigrationParams) {id : String} (hid : id ≠ "")
    (s : RunState σ) :
    ((migration params).policy dir (some id) s).1 =
      match (dir.get id s.outside).1 with
      | .ok (some _) => params.found
      | _ => params.notFound := by
  have hname : (some id).filter (· ≠ "") = some id := by simp [hid]
  have hreply : (Run.call dir (.get id) (dir.get id) s).1 = (dir.get id s.outside).1 := rfl
  unfold policy
  simp only [hname, bind, StateT.bind]
  rw [← hreply]
  rcases Run.call dir (.get id) (dir.get id) s with ⟨e | _ | account, t⟩
  · rfl
  · rfl
  · rfl

theorem chooses_policy (dir : Directory σ) (strategy : Strategy) (user : Option String)
    (s : RunState σ) :
    strategy.Chooses (fun id => (dir.get id s.outside).1) user (strategy.policy dir user s).1 := by
  cases strategy with
  | fixed policy => exact .fixed
  | migration params =>
    cases user with
    | none => exact .nobody (Or.inl rfl)
    | some id =>
      by_cases hid : id = ""
      · subst hid
        exact .nobody (Or.inr rfl)
      · rw [policy_of_name dir params hid]
        cases hreply : (dir.get id s.outside).1 with
        | error e => exact .unknown hid (Or.inr ⟨e, hreply⟩)
        | ok known =>
          cases known with
          | none => exact .unknown hid (Or.inl hreply)
          | some account => exact .found hid hreply

end Strategy

theorem Route.Chosen.mem {routes : List Route} {path query : String} {r : Route}
    (h : Chosen routes path query r) : r ∈ routes := by
  cases h with
  | byQuery h => exact h.mem
  | byPattern _ h => exact (FirstGreatest.const_iff (n := 0).mpr h).mem
  | byPath _ _ h => exact h.mem
  | root _ _ _ h => exact h

/-- What the table selects under a name is the director of a route of a policy of that name. -/
theorem RouteTable.exists_route {policies : List Policy} {t : RouteTable}
    (h : build policies = .ok t) {name path query : String} {d : Director}
    (hselect : t.select name path query = some d) :
    ∃ p ∈ policies, p.name = name ∧
      ∃ r ∈ p.routes, Director.new r.backend r.virtualHost = .ok d := by
  rw [select] at hselect
  rcases build_eq_ok h name with ⟨p, hp, hname, unsorted, hholds, hlookup⟩ | ⟨-, hlookup⟩
  · rw [hlookup, Option.bind_some, hholds.select_eq_some path query d] at hselect
    obtain ⟨r, hchosen, hd⟩ := hselect
    exact ⟨p, hp, hname, r, hchosen.mem, hd⟩
  · rw [hlookup] at hselect
    cases hselect

/-- The scheme and the authority of a target are those of the backend of a route. -/
def Route.Targets (r : Route) (uri : Uri) : Prop :=
  ∃ url authority, Url.parse r.backend = .ok url ∧ url.hostAndPort = some authority ∧
    uri.scheme = some url.scheme ∧ uri.authority = some authority

namespace Engine

variable (dir : Directory σ) {e : Engine} {policies : List Policy}

theorem prepare_targets (hbuild : RouteTable.build policies = .ok e.router.table)
    {claims : Option Claims} {r q : Request} {s : RunState σ}
    (h : (e.prepare dir claims r s).1 = .ok q) :
    let t := (e.assertIdentity dir claims r.headers s).2
    ∃ policy, e.router.strategy.Chooses (fun id => (dir.get id t.outside).1)
        (claims.map Claims.preferredUsername) policy ∧
      ∃ p ∈ policies, p.name = policy ∧ ∃ route ∈ p.routes, route.Targets q.uri := by
  intro t
  obtain ⟨headers, policy, d, -, hselect, happly⟩ := prepare_eq_ok dir e claims h
  rw [Router.select_eq] at hselect
  obtain ⟨hpolicy, hd⟩ := Prod.mk.inj hselect
  obtain ⟨uri, ks, htarget, -, rfl⟩ := Director.apply_eq happly
  rw [hpolicy] at hd
  refine ⟨policy, hpolicy ▸ Strategy.chooses_policy dir _ _ t, ?_⟩
  obtain ⟨p, hp, hname, route, hroute, hnew⟩ := RouteTable.exists_route hbuild hd
  obtain ⟨url, hurl, hscheme, hauthority, -⟩ := Director.new_eq_ok hnew
  obtain ⟨hs, ha, -, -⟩ := Director.target_eq_ok (Director.wellFormed_new hnew) htarget
  refine ⟨p, hp, hname, route, hroute, url, d.authority, hurl, hauthority, ?_, ha⟩
  rw [hscheme]
  exact hs

/-- Whatever a client writes in its request, the request goes nowhere or to the backend of a route
of the policy that its user has; and a director points nowhere but at its backend. -/
theorem destination_configured (hbuild : RouteTable.build policies = .ok e.router.table)
    (claims : Option Claims) (r : Request) (s : RunState σ) :
    let t := (e.assertIdentity dir claims r.headers s).2
    ((∃ fault u, ∀ backends, e.handle dir backends claims r s = (.error fault, u)) ∨
      ∃ (q : Request) (u : RunState σ),
        (∀ backends, e.handle dir backends claims r s = u.exchange (backends q)) ∧
        ∃ policy, e.router.strategy.Chooses (fun id => (dir.get id t.outside).1)
            (claims.map Claims.preferredUsername) policy ∧
          ∃ p ∈ policies, p.name = policy ∧ ∃ route ∈ p.routes, route.Targets q.uri) ∧
    ∀ backend virtualHost d, Director.new backend virtualHost = .ok d →
      ∀ path query uri, d.target path query = .ok uri →
        uri.scheme = some d.scheme ∧ uri.authority = some d.authority := by
  intro t
  constructor
  · rcases hprepare : e.prepare dir claims r s with ⟨fault | q, u⟩
    · refine Or.inl ⟨fault, u, fun backends => ?_⟩
      rw [handle_eq, hprepare]
    · have hq : (e.prepare dir claims r s).1 = .ok q := congrArg Prod.fst hprepare
      refine Or.inr ⟨q, u, fun backends => ?_, prepare_targets dir hbuild hq⟩
      rw [handle_eq, hprepare]
  · intro backend virtualHost d hnew path query uri htarget
    obtain ⟨hscheme, hauthority, -, -⟩ :=
      Director.target_eq_ok (Director.wellFormed_new hnew) htarget
    exact ⟨hscheme, hauthority⟩

def knowsNobody : Directory Unit where
  list _ _ := pure (.ok [])
  create _ := pure (.error (.undecodable ""))
  get _ := pure (.ok none)
  roles _ := pure (.ok [])

/-- The backend that users have before they move. Its path is empty. -/
def oldHouse : Director where
  backend := "foo://old"
  scheme := "foo"
  authority := "old"
  basePath := ""
  baseQuery := ""
  virtualHost := false

def newHouse : Director where
  backend := "foo://new:8/base"
  scheme := "foo"
  authority := "new:8"
  basePath := "/base"
  baseQuery := ""
  virtualHost := false

def policyTo (name : String) (d : Director) : Policy where
  name
  routes := [{ endpoint := Route.rootEndpoint, backend := d.backend, virtualHost := d.virtualHost }]

theorem ofPolicy_policyTo (name : String) {d : Director}
    (h : Director.new d.backend d.virtualHost = .ok d) :
    PolicyRoutes.ofPolicy (policyTo name d) = .ok { root := some d } := by
  simp [PolicyRoutes.ofPolicy, policyTo, PolicyRoutes.addAll, PolicyRoutes.add, h,
    PolicyRoutes.sort, Except.map, bind, Except.bind, pure, Except.pure]

/-- An engine that tells users who have moved from those who have not. -/
def movingEngine : Engine where
  router :=
    { table := ⟨[("legacy", { root := some oldHouse }), ("modern", { root := some newHouse })]⟩
      strategy := .migration {} }

/-- A request that names another host, both as its authority and at the front of its path. -/
def foreignRequest : Request where
  method := .get
  uri := { scheme := some "http", authority := some "x", path := "//x/" }

/-- A user whom the directory does not know is served by the older backend, whatever host the
request names. -/
theorem destination_configured_of_foreign :
    ∃ (q : Request) (u : RunState Unit),
      (∀ backends, movingEngine.handle knowsNobody backends (some { preferredUsername := "a" })
          foreignRequest { cache := .empty 1 1, outside := () } = u.exchange (backends q)) ∧
        q.uri.scheme = some "foo" ∧ q.uri.authority = some "old" := by
  have hnew : Director.new newHouse.backend newHouse.virtualHost = .ok newHouse := rfl
  have hold : Director.new oldHouse.backend oldHouse.virtualHost = .ok oldHouse := rfl
  have hbuild : RouteTable.build [policyTo "modern" newHouse, policyTo "legacy" oldHouse] =
      .ok movingEngine.router.table := by
    simp only [RouteTable.build, List.foldlM_cons, List.foldlM_nil, ofPolicy_policyTo _ hnew,
      ofPolicy_policyTo _ hold]
    rfl
  obtain ⟨⟨fault, u, hfault⟩ |
      ⟨q, u, hsent, policy, hchooses, p, hp, hname, route, hroute, hq⟩, -⟩ :=
    destination_configured knowsNobody hbuild (some { preferredUsername := "a" }) foreignRequest
      { cache := .empty 1 1, outside := () }
  · -- a backend that always answers is heard
    have hheard : ∃ a, (movingEngine.handle knowsNobody
        (fun _ => pure (.ok { status := 200, headers := [] })) (some { preferredUsername := "a" })
        foreignRequest { cache := .empty 1 1, outside := () }).1 = .ok a := ⟨_, rfl⟩
    obtain ⟨a, ha⟩ := hheard
    rw [hfault] at ha
    cases ha
  · refine ⟨q, u, hsent, ?_⟩
    have hpolicy : policy = "legacy" := by
      cases hchooses with
      | nobody h => simp at h
      | found hid h => cases h
      | unknown hid h => rfl
    subst hpolicy
    have hlegacy : p = policyTo "legacy" oldHouse := by
      rcases List.mem_cons.mp hp with rfl | hp
      · exact absurd hname (by decide)
      · exact List.mem_singleton.mp hp
    subst hlegacy
    obtain rfl := List.mem_singleton.mp hroute
    obtain ⟨url, authority, hurl, hauthority, hs, ha⟩ := hq
    have hread : Url.parse "foo://old" =
        .ok { scheme := "foo", slashes := true, host := some (.name "old") } := rfl
    obtain rfl := Except.ok.inj (hread.symm.trans hurl)
    obtain rfl := Option.some.inj hauthority
    exact ⟨hs, ha⟩

end Engine

end Gatehouse
