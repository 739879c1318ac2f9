import Gatehouse.Gateway.Server
import Gatehouse.Proofs.Routing.Selection

/-!
# What a configuration must be to start with

An engine is made of a configuration by one check after the other: the routes of each policy, the
strategy, the key. It is made exactly if all of them pass, and otherwise the first that fails has the
say. Each check is stated by itself, without the engine. What passes the check of a configuration
that is loaded can neither have two routes for one endpoint nor lack its key.
-/

namespace Gatehouse

namespace Route

def Addressed (r : Route) : Prop := ∃ url host, Url.parse r.backend = .ok url ∧ url.host = some host

/-- The endpoint is one that requests can be compared with. -/
structure Comparable (r : Route) : Prop where
  byQuery : r.kind = .byQuery → r.asked ≠ []
  byPattern : r.kind = .byPattern → ∃ p, Pattern.compile r.endpoint = .ok p

theorem Comparable.of_byPath {r : Route} (h : r.kind = .byPath) : r.Comparable where
  byQuery h' := by
    rw [h] at h'
    cases h'
  byPattern h' := by
    rw [h] at h'
    cases h'

end Route

namespace SelectorConfig

/-- The parameters of a strategy. None at all are as good as none in particular. -/
def given (c : SelectorConfig) : Json := if c.params.isNull then .object [] else c.params

/-- The strategy is known, and its parameters are those of one of its kind. -/
def Decodes (c : SelectorConfig) : Prop :=
  (c.kind = "static_policy" ∧ ∃ p : StaticParams, Wire.ofJson c.given = .ok p) ∨
  (c.kind = "migration" ∧ ∃ p : MigrationParams, Wire.ofJson c.given = .ok p)

end SelectorConfig

namespace Config

/-- What a configuration must be for an engine to be made of it. -/
structure Startable (c : Config) : Prop where
  endpoints : ∀ p ∈ c.policies, (p.routes.map Route.endpoint).Nodup
  backends : ∀ p ∈ c.policies, ∀ r ∈ p.routes, r.Addressed
  comparable : ∀ p ∈ c.policies, ∀ r ∈ p.routes, r.Comparable
  selector : c.selector.Decodes
  secret : c.identity.enabled = true → c.token.secret ≠ ""

end Config

/-! ## Checks and their order -/

/-- One thing that is looked at before an engine is made. -/
inductive Check
  /-- No route before has the endpoint. -/
  | endpoint (policy : String) (before : List String) (r : Route)
  | backend (r : Route)
  | pattern (r : Route)
  | selector (c : SelectorConfig)
  | secret (identity : IdentityConfig) (token : TokenConfig)

namespace Check

def Passes : Check → Prop
  | endpoint _ before r => r.endpoint ∉ before
  | backend r => r.Addressed
  | pattern r => r.Comparable
  | selector c => c.Decodes
  | secret identity token => identity.enabled = true → token.secret ≠ ""

/-- What can be wrong, and what the fault is called. -/
inductive Fails : Check → GatewayError → Prop
  | duplicate {policy : String} {before : List String} {r : Route} (h : r.endpoint ∈ before) :
      Fails (endpoint policy before r) (RoutingError.duplicateEndpoint policy r.endpoint).toGateway
  | noAddress {r : Route} {e : Url.ParseError} (h : Url.parse r.backend = .error e) :
      Fails (backend r) (RoutingError.malformedBackend r.backend e.message).toGateway
  | noHost {r : Route} {url : Url} (h : Url.parse r.backend = .ok url) (hhost : url.host = none) :
      Fails (backend r) (RoutingError.malformedBackend r.backend "missing host").toGateway
  | noParameters {r : Route} (hkind : r.kind = .byQuery) (h : r.asked = []) :
      Fails (pattern r) (RoutingError.noParameters r.endpoint).toGateway
  | noPattern {r : Route} {e : Pattern.PatternError} (hkind : r.kind = .byPattern)
      (h : Pattern.compile r.endpoint = .error e) :
      Fails (pattern r) (RoutingError.malformedPattern r.endpoint e.message).toGateway
  | unknown {c : SelectorConfig} (hfixed : c.kind ≠ "static_policy") (h : c.kind ≠ "migration") :
      Fails (selector c) (SelectorError.unknownStrategy c.kind).toGateway
  | fixed {c : SelectorConfig} {e : DecodeError} (hkind : c.kind = "static_policy")
      (h : Wire.ofJson (α := StaticParams) c.given = .error e) :
      Fails (selector c) (SelectorError.invalidParams c.kind e.message).toGateway
  | migration {c : SelectorConfig} {e : DecodeError} (hkind : c.kind = "migration")
      (h : Wire.ofJson (α := MigrationParams) c.given = .error e) :
      Fails (selector c) (SelectorError.invalidParams c.kind e.message).toGateway
  | noSecret {identity : IdentityConfig} {token : TokenConfig} (henabled : identity.enabled = true)
      (h : token.secret = "") : Fails (secret identity token) IdentityError.noSecret.toGateway

end Check

/-- The first check that fails has the say. -/
inductive FirstFault : List Check → GatewayError → Prop
  | here {k : Check} {fault : GatewayError} (h : k.Fails fault) (rest : List Check) :
      FirstFault (k :: rest) fault
  | later {k : Check} {rest : List Check} {fault : GatewayError} (h : k.Passes)
      (hrest : FirstFault rest fault) : FirstFault (k :: rest) fault

/-- The checks of some routes, behind others with these endpoints. -/
def Policy.checksOf (policy : String) : (before : List String) → List Route → List Check
  | _, [] => []
  | before, r :: rest =>
    .endpoint policy before r :: .backend r :: .pattern r ::
      checksOf policy (r.endpoint :: before) rest

/-- All checks in their order: the routes of each policy, the strategy, the key. -/
def Config.checks (c : Config) : List Check :=
  c.policies.flatMap (fun p => Policy.checksOf p.name [] p.routes) ++
    [.selector c.selector, .secret c.identity c.token]

namespace Check

variable {k : Check} {fault other : GatewayError}

theorem Fails.not_passes (h : k.Fails fault) : ¬ k.Passes := by
  cases h with
  | duplicate h => exact fun hpass => hpass h
  | noAddress h =>
    rintro ⟨url, host, hurl, -⟩
    rw [h] at hurl
    cases hurl
  | noHost h hhost =>
    rintro ⟨url, host, hurl, hsome⟩
    rw [h] at hurl
    obtain rfl := Except.ok.inj hurl
    rw [hhost] at hsome
    cases hsome
  | noParameters hkind h => exact fun hpass => hpass.byQuery hkind h
  | noPattern hkind h =>
    intro hpass
    obtain ⟨p, hp⟩ := hpass.byPattern hkind
    rw [h] at hp
    cases hp
  | unknown hfixed h =>
    rintro (⟨hkind, -⟩ | ⟨hkind, -⟩)
    · exact hfixed hkind
    · exact h hkind
  | fixed hkind h =>
    rintro (⟨-, p, hp⟩ | ⟨hother, -⟩)
    · rw [h] at hp
      cases hp
    · rw [hkind] at hother
      exact absurd hother (by decide)
  | migration hkind h =>
    rintro (⟨hother, -⟩ | ⟨-, p, hp⟩)
    · rw [hkind] at hother
      exact absurd hother (by decide)
    · rw [h] at hp
      cases hp
  | noSecret henabled h => exact fun hpass => hpass henabled h

theorem Fails.unique (h : k.Fails fault) (h' : k.Fails other) : fault = other := by
  cases h with
  | duplicate h => cases h' with
    | duplicate => rfl
  | noAddress h => cases h' with
    | noAddress h' =>
      rw [h] at h'
      rw [Except.error.inj h']
    | noHost h' =>
      rw [h] at h'
      cases h'
  | noHost h hhost => cases h' with
    | noAddress h' =>
      rw [h] at h'
      cases h'
    | noHost => rfl
  | noParameters hkind h => cases h' with
    | noParameters => rfl
    | noPattern hkind' =>
      rw [hkind] at hkind'
      cases hkind'
  | noPattern hkind h => cases h' with
    | noParameters hkind' =>
      rw [hkind] at hkind'
      cases hkind'
    | noPattern _ h' =>
      rw [h] at h'
      rw [Except.error.inj h']
  | unknown hfixed h => cases h' with
    | unknown => rfl
    | fixed hkind => exact absurd hkind hfixed
    | migration hkind => exact absurd hkind h
  | fixed hkind h => cases h' with
    | unknown hfixed => exact absurd hkind hfixed
    | fixed _ h' =>
      rw [h] at h'
      rw [Except.error.inj h']
    | migration hkind' =>
      rw [hkind] at hkind'
      exact absurd hkind' (by decide)
  | migration hkind h => cases h' with
    | unknown _ hmigration => exact absurd hkind hmigration
    | fixed hkind' =>
      rw [hkind] at hkind'
      exact absurd hkind' (by decide)
    | migration _ h' =>
      rw [h] at h'
      rw [Except.error.inj h']
  | noSecret => cases h' with
    | noSecret => rfl

end Check

namespace FirstFault

variable {checks more : List Check} {fault other : GatewayError}

theorem append (h : FirstFault checks fault) (more : List Check) :
    FirstFault (checks ++ more) fault := by
  induction h with
  | here h rest => exact .here h _
  | later h _ ih => exact .later h ih

theorem behind (hall : ∀ k ∈ checks, k.Passes) (h : FirstFault more fault) :
    FirstFault (checks ++ more) fault := by
  induction checks with
  | nil => exact h
  | cons k rest ih =>
    obtain ⟨hk, hrest⟩ := List.forall_mem_cons.mp hall
    exact .later hk (ih hrest)

theorem exists_fails (h : FirstFault checks fault) : ∃ k ∈ checks, k.Fails fault := by
  induction h with
  | here h rest => exact ⟨_, List.mem_cons_self, h⟩
  | later _ _ ih =>
    obtain ⟨k, hmem, hk⟩ := ih
    exact ⟨k, List.mem_cons_of_mem _ hmem, hk⟩

theorem unique (h : FirstFault checks fault) (h' : FirstFault checks other) : fault = other := by
  induction h with
  | here h rest => cases h' with
    | here h' => exact h.unique h'
    | later hpass => exact absurd hpass h.not_passes
  | later hpass _ ih => cases h' with
    | here h' => exact absurd hpass h'.not_passes
    | later _ h' => exact ih h'

end FirstFault

/-! ## What settles a check -/

section

variable {ε α β : Type} {toGateway : ε → GatewayError}

/-- An attempt goes well exactly as some checks do, and otherwise fails as the first of them that
fails. -/
inductive Settles (toGateway : ε → GatewayError) : Except ε α → List Check → Prop
  | passes (a : α) {checks : List Check} (h : ∀ k ∈ checks, k.Passes) :
      Settles toGateway (.ok a) checks
  | fails {e : ε} {checks : List Check} (h : FirstFault checks (toGateway e)) :
      Settles toGateway (.error e) checks

namespace Settles

theorem ok (a : α) : Settles toGateway (.ok a) [] := .passes a nofun

theorem passed (k : Check) (h : k.Passes) (a : α) : Settles toGateway (.ok a) [k] :=
  .passes a (List.forall_mem_singleton.mpr h)

theorem failed {k : Check} {e : ε} (h : k.Fails (toGateway e)) :
    Settles toGateway (.error e : Except ε α) [k] := .fails (.here h [])

theorem bind {x : Except ε α} {next : α → Except ε β} {checks more : List Check}
    (h : Settles toGateway x checks)
    (hnext : ∀ a, x = .ok a → Settles toGateway (next a) more) :
    Settles toGateway (x >>= next) (checks ++ more) := by
  cases h with
  | fails h => exact .fails (h.append more)
  | passes a h =>
    have hmore := hnext a rfl
    change Settles toGateway (next a) (checks ++ more)
    cases hx : next a with
    | error e =>
      rw [hx] at hmore
      cases hmore with
      | fails hmore => exact .fails (.behind h hmore)
    | ok b =>
      rw [hx] at hmore
      cases hmore with
      | passes _ hmore => exact .passes b (List.forall_mem_append.mpr ⟨h, hmore⟩)

theorem map {x : Except ε α} {checks : List Check} (h : Settles toGateway x checks) (f : α → β) :
    Settles toGateway (x.map f) checks := by
  cases h with
  | fails h => exact .fails h
  | passes a h => exact .passes (f a) h

theorem mapError {x : Except ε α} {checks : List Check} (h : Settles toGateway x checks) :
    Settles id (x.mapError toGateway) checks := by
  cases h with
  | fails h => exact .fails h
  | passes a h => exact .passes a h

end Settles

end

theorem Url.hostAndPort_eq_none {url : Url} : url.hostAndPort = none ↔ url.host = none := by
  rw [hostAndPort, Option.map_eq_none_iff]

theorem Director.settles_new (r : Route) :
    Settles RoutingError.toGateway (new r.backend r.virtualHost) [.backend r] := by
  unfold new
  cases hurl : Url.parse r.backend with
  | error e => exact .failed (.noAddress hurl)
  | ok url =>
    simp only
    cases hhost : url.host with
    | none =>
      rw [Url.hostAndPort_eq_none.mpr hhost]
      exact .failed (.noHost hurl hhost)
    | some host =>
      obtain ⟨authority, hauthority⟩ : ∃ authority, url.hostAndPort = some authority :=
        Option.ne_none_iff_exists'.mp fun hnone => by
          rw [Url.hostAndPort_eq_none, hhost] at hnone
          cases hnone
      rw [hauthority]
      exact .passed (.backend r) ⟨url, host, hurl, hhost⟩ _

namespace PolicyRoutes

theorem settles_add (rs : PolicyRoutes) (r : Route) :
    Settles RoutingError.toGateway (rs.add r) [.backend r, .pattern r] := by
  unfold add
  refine .bind (Director.settles_new r) fun d _ => ?_
  cases hkind : r.kind with
  | byPath =>
    have hpass : r.Comparable := .of_byPath hkind
    by_cases hroot : r.endpoint = Route.rootEndpoint
    · simp only [hroot, ↓reduceIte]
      exact .passed (.pattern r) hpass _
    · simp only [hroot, ↓reduceIte]
      exact .passed (.pattern r) hpass _
  | byQuery =>
    simp only [Route.ofEndpoint_eq]
    obtain hasked | hasked := eq_or_ne r.asked []
    · rw [if_pos hasked]
      exact .failed (.noParameters hkind hasked)
    · rw [if_neg hasked]
      exact .passed (.pattern r) ⟨fun _ => hasked, by rw [hkind]; nofun⟩ _
  | byPattern =>
    simp only
    cases hpattern : Pattern.compile r.endpoint with
    | error e => exact .failed (.noPattern hkind hpattern)
    | ok p => exact .passed (.pattern r) ⟨by rw [hkind]; nofun, fun _ => ⟨p, hpattern⟩⟩ _

theorem settles_addAll (policy : String) (before : List String) (rs : PolicyRoutes)
    (routes : List Route) :
    Settles RoutingError.toGateway (addAll policy before rs routes)
      (Policy.checksOf policy before routes) := by
  induction routes generalizing before rs with
  | nil => exact .ok rs
  | cons r rest ih =>
    unfold addAll
    by_cases hseen : r.endpoint ∈ before
    · rw [if_pos hseen]
      exact .fails (.here (.duplicate hseen) _)
    · rw [if_neg hseen]
      have hadd := (settles_add rs r).bind fun rs' _ => ih (r.endpoint :: before) rs'
      exact (Settles.passed (.endpoint policy before r) hseen rs).bind fun _ _ => hadd

theorem settles_ofPolicy (p : Policy) :
    Settles RoutingError.toGateway (ofPolicy p) (Policy.checksOf p.name [] p.routes) :=
  (settles_addAll p.name [] {} p.routes).map sort

end PolicyRoutes

theorem RouteTable.settles_build (policies : List Policy) :
    Settles RoutingError.toGateway (build policies)
      (policies.flatMap fun p => Policy.checksOf p.name [] p.routes) := by
  unfold build
  generalize ({} : RouteTable) = t
  induction policies generalizing t with
  | nil => exact .ok t
  | cons p rest ih =>
    rw [List.foldlM_cons, List.flatMap_cons]
    have hone : Settles RoutingError.toGateway
        (do return t.insert p.name (← PolicyRoutes.ofPolicy p))
        (Policy.checksOf p.name [] p.routes) := by
      have hbind := (PolicyRoutes.settles_ofPolicy p).bind fun rs _ => .ok (t.insert p.name rs)
      rw [List.append_nil] at hbind
      exact hbind
    exact hone.bind fun t' _ => ih t'

namespace Strategy

theorem params_eq (α : Type) [Wire α] (c : SelectorConfig) :
    params α c = (Wire.ofJson c.given).mapError fun e => .invalidParams c.kind e.message := rfl

theorem settles_ofConfig (c : SelectorConfig) :
    Settles SelectorError.toGateway (ofConfig c) [.selector c] := by
  unfold ofConfig
  by_cases hfixed : c.kind = "static_policy"
  · rw [if_pos hfixed, params_eq]
    cases hparams : Wire.ofJson (α := StaticParams) c.given with
    | error e => exact .failed (.fixed hfixed hparams)
    | ok p => exact .passed (.selector c) (Or.inl ⟨hfixed, p, hparams⟩) _
  · rw [if_neg hfixed]
    by_cases hmigration : c.kind = "migration"
    · rw [if_pos hmigration, params_eq]
      cases hparams : Wire.ofJson (α := MigrationParams) c.given with
      | error e => exact .failed (.migration hmigration hparams)
      | ok p => exact .passed (.selector c) (Or.inr ⟨hmigration, p, hparams⟩) _
    · rw [if_neg hmigration]
      exact .failed (.unknown hfixed hmigration)

end Strategy

theorem Engine.settles_ofConfig (c : Config) : Settles id (ofConfig c) c.checks := by
  unfold ofConfig
  have htable := (RouteTable.settles_build c.policies).mapError
  have hstrategy := (Strategy.settles_ofConfig c.selector).mapError
  refine htable.bind fun table _ => hstrategy.bind fun strategy _ => ?_
  cases henabled : c.identity.enabled with
  | false =>
    exact .passed (.secret c.identity c.token) (fun h => absurd (henabled.symm.trans h) nofun) _
  | true =>
    simp only [↓reduceIte, TokenMinter.new?]
    by_cases hsecret : c.token.secret = ""
    · rw [dif_pos hsecret]
      exact .failed (.noSecret henabled hsecret)
    · rw [dif_neg hsecret]
      exact .passed (.secret c.identity c.token) (fun _ => hsecret) _

/-! ## When all checks pass -/

theorem Policy.checksOf_pass {policy : String} {before : List String} {routes : List Route} :
    (∀ k ∈ checksOf policy before routes, k.Passes) ↔
      ((routes.map Route.endpoint).Nodup ∧ ∀ r ∈ routes, r.endpoint ∉ before) ∧
        (∀ r ∈ routes, r.Addressed) ∧ ∀ r ∈ routes, r.Comparable := by
  induction routes generalizing before with
  | nil => simp [checksOf]
  | cons r rest ih =>
    -- That the endpoints behind differ from this one is what their checks say, which have it before.
    have hapart : (∀ q ∈ rest, q.endpoint ∉ r.endpoint :: before) ↔
        r.endpoint ∉ rest.map Route.endpoint ∧ ∀ q ∈ rest, q.endpoint ∉ before := by
      simp only [List.mem_cons, not_or, List.mem_map, not_exists, not_and]
      exact ⟨fun h => ⟨fun q hq => (h q hq).1, fun q hq => (h q hq).2⟩,
        fun ⟨hne, hbefore⟩ q hq => ⟨hne q hq, hbefore q hq⟩⟩
    simp only [checksOf, List.forall_mem_cons, ih, hapart, List.map_cons, List.nodup_cons]
    simp only [Check.Passes]
    tauto

theorem Config.checks_pass (c : Config) : (∀ k ∈ c.checks, k.Passes) ↔ c.Startable := by
  simp only [checks, List.forall_mem_append, List.forall_mem_flatMap, Policy.checksOf_pass,
    List.forall_mem_cons]
  constructor
  · rintro ⟨hpolicies, hselector, hsecret, -⟩
    exact ⟨fun p hp => (hpolicies p hp).1.1, fun p hp => (hpolicies p hp).2.1,
      fun p hp => (hpolicies p hp).2.2, hselector, hsecret⟩
  · intro h
    exact ⟨fun p hp => ⟨⟨h.endpoints p hp, nofun⟩, h.backends p hp, h.comparable p hp⟩, h.selector,
      h.secret, nofun⟩

/-! ## What a sound configuration can fail for -/

theorem Policy.endpoint_passes {policy name : String} {before seen : List String}
    {routes : List Route} {r : Route} (h : routeFault? policy before routes = none)
    (hmem : .endpoint name seen r ∈ checksOf policy before routes) : r.endpoint ∉ seen := by
  induction routes generalizing before with
  | nil => cases hmem
  | cons q rest ih =>
    rw [routeFault?] at h
    split_ifs at h with _ hseen
    simp only [checksOf, List.mem_cons, Check.endpoint.injEq, reduceCtorEq, false_or] at hmem
    rcases hmem with ⟨-, rfl, rfl⟩ | hmem
    · exact hseen
    · exact ih h hmem

theorem Policy.routeFault?_eq_none {seen : List String} {policies : List Policy} {p : Policy}
    (h : fault? seen policies = none) (hp : p ∈ policies) :
    routeFault? p.name [] p.routes = none := by
  induction policies generalizing seen with
  | nil => cases hp
  | cons q rest ih =>
    rw [fault?] at h
    split_ifs at h
    obtain ⟨hq, hrest⟩ := Option.or_eq_none_iff.mp h
    rcases List.mem_cons.mp hp with rfl | hp
    · exact hq
    · exact ih hrest hp

theorem Policy.about_route {policy : String} {before : List String} {routes : List Route}
    {k : Check} (h : k ∈ checksOf policy before routes) :
    ∃ r ∈ routes, (∃ seen, k = .endpoint policy seen r) ∨ k = .backend r ∨ k = .pattern r := by
  induction routes generalizing before with
  | nil => cases h
  | cons q rest ih =>
    simp only [checksOf, List.mem_cons] at h
    rcases h with rfl | rfl | rfl | h
    · exact ⟨q, List.mem_cons_self, .inl ⟨before, rfl⟩⟩
    · exact ⟨q, List.mem_cons_self, .inr (.inl rfl)⟩
    · exact ⟨q, List.mem_cons_self, .inr (.inr rfl)⟩
    · obtain ⟨r, hr, hk⟩ := ih h
      exact ⟨r, List.mem_cons_of_mem q hr, hk⟩

/-- Of a sound configuration all endpoints and the key pass their checks. -/
theorem Config.fails_of_sound {c : Config} (h : c.fault? = none) {k : Check} {fault : GatewayError}
    (hmem : k ∈ c.checks) (hfails : k.Fails fault) :
    (∃ r, k = .backend r) ∨ (∃ r, k = .pattern r) ∨ k = .selector c.selector := by
  obtain ⟨hpolicies, hrest⟩ := Option.or_eq_none_iff.mp h
  unfold settingFault? at hrest
  split_ifs at hrest with _ _ hsecret
  simp only [checks, List.mem_append, List.mem_flatMap, List.mem_cons, List.not_mem_nil,
    or_false] at hmem
  rcases hmem with ⟨p, hp, hmem⟩ | rfl | rfl
  · obtain ⟨r, -, ⟨seen, rfl⟩ | rfl | rfl⟩ := Policy.about_route hmem
    · have hsound := Policy.routeFault?_eq_none hpolicies hp
      exact absurd (Policy.endpoint_passes hsound hmem) hfails.not_passes
    · exact .inl ⟨r, rfl⟩
    · exact .inr (.inl ⟨r, rfl⟩)
  · exact .inr (.inr rfl)
  · exact absurd (fun henabled hempty => hsecret ⟨henabled, hempty⟩) hfails.not_passes

/-! ## Which fault it is -/

theorem head?_toList_append {s t : String} {c : Char} (h : s.toList.head? = some c) :
    (s ++ t).toList.head? = some c := by
  rw [String.toList_append, List.head?_append, h, Option.some_or]

/-- What the wording of a fault begins with. -/
def RoutingError.initial : RoutingError → Char
  | malformedBackend .. => 'm'
  | malformedPattern .. | noParameters .. | invalidTarget .. => 'i'
  | duplicateEndpoint .. => 'p'

theorem RoutingError.head?_message (e : RoutingError) :
    e.message.toList.head? = some e.initial := by
  cases e with
  | noParameters => exact head?_toList_append (head?_toList_append rfl)
  | malformedBackend | malformedPattern | duplicateEndpoint | invalidTarget =>
    exact head?_toList_append (head?_toList_append (head?_toList_append rfl))

def SelectorError.initial : SelectorError → Char
  | unknownStrategy _ => 'u'
  | invalidParams .. => 'i'

theorem SelectorError.head?_message (e : SelectorError) :
    e.message.toList.head? = some e.initial := by
  cases e with
  | unknownStrategy => exact head?_toList_append rfl
  | invalidParams => exact head?_toList_append (head?_toList_append (head?_toList_append rfl))

/-- The faults that are left are not those of endpoints and keys: either the kind tells them apart
or the first letter of the wording. -/
theorem Check.Fails.config_of_sound {c : Config} (h : c.fault? = none) {k : Check}
    {fault : GatewayError} (hmem : k ∈ c.checks) (hfails : k.Fails fault) :
    fault.kind = .config ∧ fault.detail.toList.head? ≠ some 'p' := by
  rcases Config.fails_of_sound h hmem hfails with ⟨r, rfl⟩ | ⟨r, rfl⟩ | rfl
  · cases hfails with
    | noAddress | noHost =>
      rw [RoutingError.toGateway, RoutingError.head?_message, RoutingError.initial]
      exact ⟨rfl, by decide⟩
  · cases hfails with
    | noParameters | noPattern =>
      rw [RoutingError.toGateway, RoutingError.head?_message, RoutingError.initial]
      exact ⟨rfl, by decide⟩
  · cases hfails with
    | unknown | fixed | migration =>
      rw [SelectorError.toGateway, SelectorError.head?_message, SelectorError.initial]
      exact ⟨rfl, by decide⟩

/-- An engine is made of a configuration exactly if that is one to start with, and otherwise the first
check that fails has the say. Of a sound configuration it is neither an endpoint that comes twice nor
the key. -/
theorem Engine.starts_or_first_fault (c : Config) :
    ((∃ e, ofConfig c = .ok e) ↔ c.Startable) ∧
    (∀ fault, ofConfig c = .error fault ↔ FirstFault c.checks fault) ∧
    (c.fault? = none → ∀ fault, ofConfig c = .error fault →
      (∀ policy endpoint, fault ≠ (RoutingError.duplicateEndpoint policy endpoint).toGateway) ∧
        fault ≠ IdentityError.noSecret.toGateway) := by
  have hsettled := settles_ofConfig c
  rw [← c.checks_pass]
  cases hstart : ofConfig c with
  | ok e =>
    rw [hstart] at hsettled
    cases hsettled with
    | passes _ hpass =>
      refine ⟨⟨fun _ => hpass, fun _ => ⟨e, rfl⟩⟩, fun fault => ⟨nofun, fun hfirst => ?_⟩,
        fun _ => nofun⟩
      obtain ⟨k, hk, hfails⟩ := hfirst.exists_fails
      exact absurd (hpass k hk) hfails.not_passes
  | error first =>
    rw [hstart] at hsettled
    cases hsettled with
    | fails hfirst =>
      obtain ⟨k, hk, hfails⟩ := hfirst.exists_fails
      refine ⟨⟨nofun, fun hpass => absurd (hpass k hk) hfails.not_passes⟩, fun fault => ⟨?_, ?_⟩, ?_⟩
      · rintro ⟨⟩
        exact hfirst
      · exact fun hother => congrArg Except.error (hfirst.unique hother)
      · rintro hsound _ ⟨⟩
        obtain ⟨hkind, hinitial⟩ := hfails.config_of_sound hsound hk
        refine ⟨?_, ?_⟩
        · rintro policy endpoint rfl
          exact hinitial (RoutingError.head?_message _)
        · rintro rfl
          cases hkind

/-- A sound configuration in which a backend of the second policy is no address. Nor is the strategy
known, but that is looked at later. -/
def strayBackend : Config where
  policies := [⟨"old", [{ endpoint := "/", backend := "http://[::1]:8080" }]⟩,
    ⟨"new", [{ endpoint := "/", backend := "http://[::1]:8081" },
      { endpoint := "/api", backend := "backend" }]⟩]
  selector := { kind := "weighted" }
  identity := ⟨false⟩

/-- Being sound is not enough to start with. -/
theorem Engine.stray_backend_refused :
    let fault := (RoutingError.malformedBackend "backend" "relative URL without a base").toGateway
    strayBackend.fault? = none ∧ ofConfig strayBackend = .error fault ∧ ¬ strayBackend.Startable ∧
      (∀ policy endpoint, fault ≠ (RoutingError.duplicateEndpoint policy endpoint).toGateway) ∧
        fault ≠ IdentityError.noSecret.toGateway := by
  intro fault
  have hparse : Url.parse "backend" = .error .noScheme := rfl
  have hfails := Check.Fails.noAddress (r := { endpoint := "/api", backend := "backend" }) hparse
  have hfirst : FirstFault strayBackend.checks fault := by
    refine .later ?_ (.later ?_ (.later ?_ (.later ?_ (.later ?_ (.later ?_ (.later ?_
      (.here hfails _)))))))
    · exact List.not_mem_nil
    · exact ⟨_, _, rfl, rfl⟩
    · exact .of_byPath rfl
    · exact List.not_mem_nil
    · exact ⟨_, _, rfl, rfl⟩
    · exact .of_byPath rfl
    · change "/api" ∉ ["/"]
      decide
  obtain ⟨hstarts, hfaults, hsound⟩ := starts_or_first_fault strayBackend
  have hrefused : ofConfig strayBackend = .error fault := (hfaults fault).mpr hfirst
  refine ⟨by decide, hrefused, fun hstartable => ?_, hsound (by decide) fault hrefused⟩
  obtain ⟨e, he⟩ := hstarts.mpr hstartable
  rw [hrefused] at he
  cases he

end Gatehouse
