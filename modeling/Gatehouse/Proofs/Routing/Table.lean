import Gatehouse.Proofs.Lists
import Gatehouse.Routing.Table

/-!
# What the table holds

The routes of a policy are kept in the order of the configuration, each kind by itself, and none is
lost or comes twice. Of all that is looked for in the table no more is needed.
-/

namespace Gatehouse

namespace Route

def asQuery? (r : Route) : Option QueryRoute :=
  if r.kind = .byQuery then
    (Director.new r.backend r.virtualHost).toOption.bind fun d =>
      (QueryRoute.ofEndpoint r.endpoint d).toOption
  else none

def asPattern? (r : Route) : Option (Pattern × Director) :=
  if r.kind = .byPattern then
    (Director.new r.backend r.virtualHost).toOption.bind fun d =>
      (Pattern.compile r.endpoint).toOption.map (·, d)
  else none

/-- A route as one by path, if it is one other than to the root. -/
def asPath? (r : Route) : Option (String × Director) :=
  if r.kind = .byPath ∧ r.endpoint ≠ rootEndpoint then
    (Director.new r.backend r.virtualHost).toOption.map (r.endpoint, ·)
  else none

def IsRoot (r : Route) : Prop := r.kind = .byPath ∧ r.endpoint = rootEndpoint

/-- What is asked of a route at startup. -/
structure Usable (r : Route) : Prop where
  directed : ∃ d, Director.new r.backend r.virtualHost = .ok d
  asks : r.kind = .byQuery → ∃ d q, Director.new r.backend r.virtualHost = .ok d ∧
    QueryRoute.ofEndpoint r.endpoint d = .ok q

end Route

/-- What the unsorted routes of a policy are, by the routes of the configuration. -/
structure PolicyRoutes.Holds (rs : PolicyRoutes) (routes : List Route) : Prop where
  byQuery : rs.byQuery = routes.filterMap Route.asQuery?
  byPattern : rs.byPattern = routes.filterMap Route.asPattern?
  byPath : rs.byPath = routes.filterMap Route.asPath?
  root : ∀ d, rs.root = some d ↔
    ∃ r ∈ routes, r.IsRoot ∧ Director.new r.backend r.virtualHost = .ok d
  usable : ∀ r ∈ routes, r.Usable
  distinct : (routes.map Route.endpoint).Nodup

namespace PolicyRoutes

variable {rs rs' : PolicyRoutes} {r : Route} {routes : List Route}

theorem holds_nil : Holds {} [] where
  byQuery := rfl
  byPattern := rfl
  byPath := rfl
  root d := by simp
  usable := nofun
  distinct := .nil

theorem add_eq_ok (h : rs.add r = .ok rs') :
    r.Usable ∧ rs'.byQuery = rs.byQuery ++ r.asQuery?.toList ∧
      rs'.byPattern = rs.byPattern ++ r.asPattern?.toList ∧
      rs'.byPath = rs.byPath ++ r.asPath?.toList ∧
      ∀ d, rs'.root = some d ↔
        (r.IsRoot ∧ Director.new r.backend r.virtualHost = .ok d) ∨ (¬ r.IsRoot ∧ rs.root = some d) := by
  unfold add at h
  obtain ⟨kind, endpoint, backend, virtualHost⟩ := r
  cases hd : Director.new backend virtualHost with
  | error e =>
    simp only [hd] at h
    cases h
  | ok d =>
    simp only [hd, bind, Except.bind] at h
    have hdirected : ∃ d, Director.new backend virtualHost = .ok d := ⟨d, hd⟩
    cases kind with
    | byPath =>
      by_cases hroot : endpoint = Route.rootEndpoint
      · simp only [hroot, ↓reduceIte] at h
        obtain rfl := Except.ok.inj h
        refine ⟨⟨hdirected, nofun⟩, ?_, ?_, ?_, ?_⟩ <;>
          simp [Route.asQuery?, Route.asPattern?, Route.asPath?, Route.IsRoot, hroot]
      · simp only [hroot, ↓reduceIte] at h
        obtain rfl := Except.ok.inj h
        refine ⟨⟨hdirected, nofun⟩, ?_, ?_, ?_, ?_⟩ <;>
          simp [Route.asQuery?, Route.asPattern?, Route.asPath?, Route.IsRoot, hroot, hd,
            Except.toOption]
    | byQuery =>
      cases hq : QueryRoute.ofEndpoint endpoint d with
      | error e =>
        simp only [hq] at h
        cases h
      | ok q =>
        simp only [hq] at h
        obtain rfl := Except.ok.inj h
        refine ⟨⟨hdirected, fun _ => ⟨d, q, hd, hq⟩⟩, ?_, ?_, ?_, ?_⟩ <;>
          simp [Route.asQuery?, Route.asPattern?, Route.asPath?, Route.IsRoot, hq, hd,
            Except.toOption]
    | byPattern =>
      cases hp : Pattern.compile endpoint with
      | error e =>
        simp only [hp] at h
        cases h
      | ok pattern =>
        simp only [hp] at h
        obtain rfl := Except.ok.inj h
        refine ⟨⟨hdirected, nofun⟩, ?_, ?_, ?_, ?_⟩ <;>
          simp [Route.asQuery?, Route.asPattern?, Route.asPath?, Route.IsRoot, hp, hd,
            Except.toOption]

theorem Holds.add (h : rs.Holds routes) (hnew : r.endpoint ∉ routes.map Route.endpoint)
    (hadd : rs.add r = .ok rs') : rs'.Holds (routes ++ [r]) := by
  obtain ⟨husable, hquery, hpattern, hpath, hroot⟩ := add_eq_ok hadd
  have hsingle : ∀ {β : Type} (f : Route → Option β),
      (routes ++ [r]).filterMap f = routes.filterMap f ++ (f r).toList := by
    intro β f
    cases hf : f r <;> simp [List.filterMap_append, hf]
  constructor
  · rw [hquery, h.byQuery, hsingle]
  · rw [hpattern, h.byPattern, hsingle]
  · rw [hpath, h.byPath, hsingle]
  · intro d
    rw [hroot, h.root]
    constructor
    · rintro (⟨hr, hd⟩ | ⟨-, r', hmem, hr, hd⟩)
      · exact ⟨r, by simp, hr, hd⟩
      · exact ⟨r', by simp [hmem], hr, hd⟩
    · rintro ⟨r', hmem, hr, hd⟩
      rcases List.mem_append.mp hmem with hmem | hmem
      · refine Or.inr ⟨fun hroot => hnew ?_, r', hmem, hr, hd⟩
        rw [hroot.2, ← hr.2]
        exact List.mem_map_of_mem hmem
      · obtain rfl := List.mem_singleton.mp hmem
        exact Or.inl ⟨hr, hd⟩
  · intro r' hmem
    rcases List.mem_append.mp hmem with hmem | hmem
    · exact h.usable r' hmem
    · rwa [List.mem_singleton.mp hmem]
  · rw [List.map_append, List.nodup_append]
    refine ⟨h.distinct, List.nodup_singleton _, fun e he e' he' => ?_⟩
    rw [List.mem_singleton.mp he']
    rintro rfl
    exact hnew he

theorem Holds.addAll {policy : String} {seen : List String} {more : List Route}
    (h : rs.Holds routes) (hseen : ∀ e, e ∈ seen ↔ e ∈ routes.map Route.endpoint)
    (hadd : addAll policy seen rs more = .ok rs') : rs'.Holds (routes ++ more) := by
  induction more generalizing seen rs routes with
  | nil =>
    obtain rfl := Except.ok.inj hadd
    rwa [List.append_nil]
  | cons r rest ih =>
    unfold PolicyRoutes.addAll at hadd
    split_ifs at hadd with hmem
    cases hone : rs.add r with
    | error e =>
      rw [hone] at hadd
      cases hadd
    | ok next =>
      rw [hone] at hadd
      have hnext := h.add (fun hold => hmem ((hseen _).mpr hold)) hone
      have hseen' : ∀ e, e ∈ r.endpoint :: seen ↔ e ∈ (routes ++ [r]).map Route.endpoint := by
        intro e
        rw [List.mem_cons, hseen, List.map_append, List.mem_append, or_comm]
        simp
      rw [← List.singleton_append, ← List.append_assoc]
      exact ih hnext hseen' hadd

theorem ofPolicy_eq_ok {p : Policy} (h : ofPolicy p = .ok rs) :
    ∃ unsorted : PolicyRoutes, unsorted.Holds p.routes ∧ rs = unsorted.sort := by
  unfold ofPolicy at h
  cases hall : PolicyRoutes.addAll p.name [] {} p.routes with
  | error e =>
    rw [hall] at h
    cases h
  | ok unsorted =>
    rw [hall] at h
    refine ⟨unsorted, ?_, (Except.ok.inj h).symm⟩
    exact holds_nil.addAll (fun e => by simp) hall

end PolicyRoutes

namespace RouteTable

theorem lookup_insert (t : RouteTable) (name other : String) (rs : PolicyRoutes) :
    (t.insert name rs).policies.lookup other =
      if other = name then some rs else t.policies.lookup other := by
  rw [insert, List.lookup_cons, lookup_filter_ne]
  by_cases h : other = name
  · simp [h]
  · simp [h, beq_eq_false_iff_ne.mpr h]

/-- The table has the routes of the last policy of each name, and under other names what it had
before. -/
theorem lookup_foldlM {policies : List Policy} {t t' : RouteTable}
    (h : policies.foldlM (fun t p => do return t.insert p.name (← PolicyRoutes.ofPolicy p)) t =
      .ok t') (name : String) :
    (∃ p ∈ policies, p.name = name ∧ ∃ rs, PolicyRoutes.ofPolicy p = .ok rs ∧
      t'.policies.lookup name = some rs) ∨
    ((∀ p ∈ policies, p.name ≠ name) ∧ t'.policies.lookup name = t.policies.lookup name) := by
  induction policies generalizing t with
  | nil =>
    obtain rfl := Except.ok.inj h
    exact Or.inr ⟨nofun, rfl⟩
  | cons p rest ih =>
    rw [List.foldlM_cons] at h
    cases hp : PolicyRoutes.ofPolicy p with
    | error e =>
      rw [hp] at h
      cases h
    | ok rs =>
      rw [hp] at h
      rcases ih h with ⟨p', hmem, hname, hfound⟩ | ⟨hnone, hlookup⟩
      · exact Or.inl ⟨p', List.mem_cons_of_mem p hmem, hname, hfound⟩
      · rw [lookup_insert] at hlookup
        split_ifs at hlookup with hname
        · exact Or.inl ⟨p, List.mem_cons_self, hname.symm, rs, hp, hlookup⟩
        · refine Or.inr ⟨?_, hlookup⟩
          rintro p' hmem rfl
          rcases List.mem_cons.mp hmem with rfl | hmem
          · exact hname rfl
          · exact hnone p' hmem rfl

/-- Under the name of a policy the table holds its routes, sorted, and under no other name any. -/
theorem build_eq_ok {policies : List Policy} {t : RouteTable} (h : build policies = .ok t)
    (name : String) :
    (∃ p ∈ policies, p.name = name ∧ ∃ unsorted : PolicyRoutes, unsorted.Holds p.routes ∧
      t.policies.lookup name = some unsorted.sort) ∨
    ((∀ p ∈ policies, p.name ≠ name) ∧ t.policies.lookup name = none) := by
  rcases lookup_foldlM h name with ⟨p, hmem, hname, rs, hrs, hlookup⟩ | ⟨hnone, hlookup⟩
  · obtain ⟨unsorted, hholds, rfl⟩ := PolicyRoutes.ofPolicy_eq_ok hrs
    exact Or.inl ⟨p, hmem, hname, unsorted, hholds, hlookup⟩
  · exact Or.inr ⟨hnone, hlookup⟩

end RouteTable

end Gatehouse
