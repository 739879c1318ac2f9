import Gatehouse.Proofs.Routing.Table

/-!
# The rule by which a route is chosen

A request goes by the routes as they are configured: to the longest endpoint whose path and
parameters it has, else to the first pattern that its path matches, else to the longest endpoint that
its path begins with, else to the root. How the table sorts the routes plays no part.
-/

namespace Gatehouse

namespace Route

def size (r : Route) : Nat := r.endpoint.utf8ByteSize

def front (r : Route) : List Char := r.endpoint.toList.takeWhile (· ≠ '?')

/-- The parameters that the endpoint asks for behind its first question mark. -/
def asked (r : Route) : List (String × String) :=
  Form.parameters (String.ofList ((r.endpoint.toList.dropWhile (· ≠ '?')).drop 1))

/-- The path begins as the endpoint does, and the query has all that it asks for. -/
def MeetsQuery (path query : String) (r : Route) : Prop :=
  r.kind = .byQuery ∧ r.front <+: path.toList ∧ ∀ field ∈ r.asked, field ∈ Form.parameters query

def MeetsPattern (path : String) (r : Route) : Prop :=
  r.kind = .byPattern ∧ ∃ p, Pattern.compile r.endpoint = .ok p ∧ p.isMatch path = true

/-- The path begins with the endpoint, which is not the root. -/
def MeetsPath (path : String) (r : Route) : Prop :=
  r.kind = .byPath ∧ r.endpoint ≠ rootEndpoint ∧ r.endpoint.toList <+: path.toList

/-- The route that a request takes. -/
inductive Chosen (routes : List Route) (path query : String) (r : Route) : Prop
  | byQuery : FirstGreatest (MeetsQuery path query) size routes r → Chosen routes path query r
  | byPattern : (∀ r ∈ routes, ¬ r.MeetsQuery path query) → First (MeetsPattern path) routes r →
      Chosen routes path query r
  | byPath : (∀ r ∈ routes, ¬ r.MeetsQuery path query) → (∀ r ∈ routes, ¬ r.MeetsPattern path) →
      FirstGreatest (MeetsPath path) size routes r → Chosen routes path query r
  | root : (∀ r ∈ routes, ¬ r.MeetsQuery path query) → (∀ r ∈ routes, ¬ r.MeetsPattern path) →
      (∀ r ∈ routes, ¬ r.MeetsPath path) → r ∈ routes → r.IsRoot → Chosen routes path query r

variable {r : Route} {path query : String}

/-! ## Routes of the table and of the configuration -/

theorem ofEndpoint_eq (r : Route) (d : Director) :
    QueryRoute.ofEndpoint r.endpoint d =
      if r.asked = [] then .error (.noParameters r.endpoint)
      else .ok ⟨r.endpoint, String.ofList r.front, r.asked, d⟩ := rfl

theorem asQuery?_eq_some {q : QueryRoute} (h : r.asQuery? = some q) :
    r.kind = .byQuery ∧ ∃ d, Director.new r.backend r.virtualHost = .ok d ∧
      q = ⟨r.endpoint, String.ofList r.front, r.asked, d⟩ := by
  unfold asQuery? at h
  split_ifs at h with hkind
  cases hd : Director.new r.backend r.virtualHost with
  | error e =>
    rw [hd] at h
    cases h
  | ok d =>
    simp only [hd, Except.toOption, Option.bind_some, ofEndpoint_eq] at h
    split_ifs at h with hempty
    obtain rfl := Option.some.inj h
    exact ⟨hkind, d, rfl, rfl⟩

theorem asPattern?_eq_some {b : Pattern × Director} (h : r.asPattern? = some b) :
    r.kind = .byPattern ∧ Pattern.compile r.endpoint = .ok b.1 ∧
      Director.new r.backend r.virtualHost = .ok b.2 := by
  unfold asPattern? at h
  split_ifs at h with hkind
  cases hd : Director.new r.backend r.virtualHost with
  | error e =>
    rw [hd] at h
    cases h
  | ok d =>
    cases hp : Pattern.compile r.endpoint with
    | error e =>
      simp only [hd, hp, Except.toOption, Option.bind_some, Option.map_none] at h
      cases h
    | ok p =>
      simp only [hd, hp, Except.toOption, Option.bind_some, Option.map_some] at h
      obtain rfl := Option.some.inj h
      exact ⟨hkind, rfl, rfl⟩

theorem asPath?_eq_some {b : String × Director} (h : r.asPath? = some b) :
    (r.kind = .byPath ∧ r.endpoint ≠ rootEndpoint) ∧ b.1 = r.endpoint ∧
      Director.new r.backend r.virtualHost = .ok b.2 := by
  unfold asPath? at h
  split_ifs at h with hkind
  cases hd : Director.new r.backend r.virtualHost with
  | error e =>
    rw [hd] at h
    cases h
  | ok d =>
    rw [hd] at h
    obtain rfl := Option.some.inj h
    exact ⟨hkind, rfl, rfl⟩

theorem meetsQuery_iff (h : r.Usable) :
    (∃ q, r.asQuery? = some q ∧ q.accepts path (Form.parameters query) = true) ↔
      r.MeetsQuery path query := by
  constructor
  · rintro ⟨q, hq, haccepts⟩
    obtain ⟨hkind, d, -, rfl⟩ := asQuery?_eq_some hq
    rw [QueryRoute.accepts] at haccepts
    refine ⟨hkind, ?_, ?_⟩
    · simpa using (Bool.and_eq_true_iff.mp haccepts).1
    · simpa using (Bool.and_eq_true_iff.mp haccepts).2
  · rintro ⟨hkind, hfront, hasked⟩
    obtain ⟨d, q, hd, hq⟩ := h.asks hkind
    have hsome : r.asQuery? = some q := by
      simp [asQuery?, hkind, hd, hq, Except.toOption]
    obtain ⟨-, d', -, rfl⟩ := asQuery?_eq_some hsome
    refine ⟨_, hsome, ?_⟩
    rw [QueryRoute.accepts, Bool.and_eq_true_iff]
    exact ⟨by simpa using hfront, by simpa using hasked⟩

theorem meetsPattern_iff (h : r.Usable) :
    (∃ b, r.asPattern? = some b ∧ b.1.isMatch path = true) ↔ r.MeetsPattern path := by
  constructor
  · rintro ⟨b, hb, hmatch⟩
    obtain ⟨hkind, hp, -⟩ := asPattern?_eq_some hb
    exact ⟨hkind, b.1, hp, hmatch⟩
  · rintro ⟨hkind, p, hp, hmatch⟩
    obtain ⟨d, hd⟩ := h.directed
    exact ⟨(p, d), by simp [asPattern?, hkind, hd, hp, Except.toOption], hmatch⟩

theorem meetsPath_iff (h : r.Usable) :
    (∃ b, r.asPath? = some b ∧ b.1.toList.isPrefixOf path.toList = true) ↔ r.MeetsPath path := by
  constructor
  · rintro ⟨b, hb, hstart⟩
    obtain ⟨⟨hkind, hroot⟩, hendpoint, -⟩ := asPath?_eq_some hb
    rw [hendpoint, List.isPrefixOf_iff_prefix] at hstart
    exact ⟨hkind, hroot, hstart⟩
  · rintro ⟨hkind, hroot, hstart⟩
    obtain ⟨d, hd⟩ := h.directed
    refine ⟨(r.endpoint, d), by simp [asPath?, hkind, hroot, hd, Except.toOption], ?_⟩
    rw [List.isPrefixOf_iff_prefix]
    exact hstart

end Route

/-! ## What is found in the table -/

/-- What is found is the director of the first of the greatest routes that meet a condition. -/
structure Finds (routes : List Route) (meets : Route → Prop) (size : Route → Nat)
    (found : Option Director) : Prop where
  eq_some : ∀ d, found = some d ↔
    ∃ r, FirstGreatest meets size routes r ∧ Director.new r.backend r.virtualHost = .ok d
  eq_none : found = none ↔ ∀ r ∈ routes, ¬ meets r

theorem finds_of_find? {β : Type} {routes : List Route} {meets : Route → Prop} {size : Route → Nat}
    {entries : List β} {accepts : β → Bool} {director : β → Director} (entryOf : Route → Option β)
    (size' : β → Nat)
    (hfind : ∀ b, entries.find? accepts = some b ↔
      FirstGreatest (accepts · = true) size' (routes.filterMap entryOf) b)
    (hmem : ∀ b, b ∈ entries ↔ b ∈ routes.filterMap entryOf)
    (hsize : ∀ r b, entryOf r = some b → size' b = size r)
    (hdirector : ∀ r b, entryOf r = some b → Director.new r.backend r.virtualHost = .ok (director b))
    (hmeets : ∀ r ∈ routes, (∃ b, entryOf r = some b ∧ accepts b = true) ↔ meets r) :
    Finds routes meets size ((entries.find? accepts).map director) where
  eq_some d := by
    rw [Option.map_eq_some_iff]
    constructor
    · rintro ⟨b, hb, rfl⟩
      obtain ⟨r, hr, hfirst⟩ := (FirstGreatest.filterMap_iff hsize).mp ((hfind b).mp hb)
      exact ⟨r, hfirst.congr hmeets, hdirector r b hr⟩
    · rintro ⟨r, hfirst, hd⟩
      have hfirst := hfirst.congr fun r hr => (hmeets r hr).symm
      obtain ⟨b, hr, -⟩ := hfirst.prop
      refine ⟨b, (hfind b).mpr ((FirstGreatest.filterMap_iff hsize).mpr ⟨r, hr, hfirst⟩), ?_⟩
      exact Except.ok.inj ((hdirector r b hr).symm.trans hd)
  eq_none := by
    rw [Option.map_eq_none_iff, List.find?_eq_none]
    constructor
    · intro hnone r hr hm
      obtain ⟨b, hb, haccepts⟩ := (hmeets r hr).mpr hm
      exact hnone b ((hmem b).mpr (List.mem_filterMap.mpr ⟨r, hr, hb⟩)) haccepts
    · intro hnone b hb haccepts
      obtain ⟨r, hr, hrb⟩ := List.mem_filterMap.mp ((hmem b).mp hb)
      exact hnone r hr ((hmeets r hr).mp ⟨b, hrb, haccepts⟩)

theorem PolicyRoutes.select_eq (rs : PolicyRoutes) (path query : String) :
    rs.select path query =
      ((rs.byQuery.find? fun q => q.accepts path (Form.parameters query)).map
        QueryRoute.director).or
      (((rs.byPattern.find? fun b => b.1.isMatch path).map Prod.snd).or
      (((rs.byPath.find? fun b => b.1.toList.isPrefixOf path.toList).map Prod.snd).or rs.root)) :=
  rfl

namespace PolicyRoutes.Holds

variable {rs : PolicyRoutes} {routes : List Route} (h : rs.Holds routes) (path query : String)
include h

theorem finds_byQuery : Finds routes (Route.MeetsQuery path query) Route.size
    ((rs.sort.byQuery.find? fun q => q.accepts path (Form.parameters query)).map
      QueryRoute.director) := by
  refine finds_of_find? Route.asQuery? (fun q => q.endpoint.utf8ByteSize) (fun b => ?_)
    (fun b => ?_) (fun r b hb => ?_) (fun r b hb => ?_)
    fun r hr => Route.meetsQuery_iff (h.usable r hr)
  · rw [← h.byQuery]
    exact find?_mergeSort_eq_some_iff
  · rw [← h.byQuery]
    exact List.mem_mergeSort
  · obtain ⟨-, d, -, rfl⟩ := Route.asQuery?_eq_some hb
    rfl
  · obtain ⟨-, d, hd, rfl⟩ := Route.asQuery?_eq_some hb
    exact hd

theorem finds_byPattern : Finds routes (Route.MeetsPattern path) (fun _ => 0)
    ((rs.sort.byPattern.find? fun b => b.1.isMatch path).map Prod.snd) := by
  refine finds_of_find? Route.asPattern? (fun _ => 0) (fun b => ?_) (fun b => ?_)
    (fun _ _ _ => rfl) (fun r b hb => (Route.asPattern?_eq_some hb).2.2)
    fun r hr => Route.meetsPattern_iff (h.usable r hr)
  · rw [← h.byPattern, FirstGreatest.const_iff]
    exact find?_eq_some_iff_first
  · rw [← h.byPattern]
    rfl

theorem finds_byPath : Finds routes (Route.MeetsPath path) Route.size
    ((rs.sort.byPath.find? fun b => b.1.toList.isPrefixOf path.toList).map Prod.snd) := by
  refine finds_of_find? Route.asPath? (fun b => b.1.utf8ByteSize) (fun b => ?_) (fun b => ?_)
    (fun r b hb => ?_) (fun r b hb => (Route.asPath?_eq_some hb).2.2)
    fun r hr => Route.meetsPath_iff (h.usable r hr)
  · rw [← h.byPath]
    exact find?_mergeSort_eq_some_iff
  · rw [← h.byPath]
    exact List.mem_mergeSort
  · rw [(Route.asPath?_eq_some hb).2.1]
    rfl

theorem root_eq_none : rs.root = none ↔ ∀ r ∈ routes, ¬ r.IsRoot := by
  constructor
  · intro hnone r hr hroot
    obtain ⟨d, hd⟩ := (h.usable r hr).directed
    have hsome := (h.root d).mpr ⟨r, hr, hroot, hd⟩
    rw [hnone] at hsome
    cases hsome
  · intro hnone
    cases hroot : rs.root with
    | none => rfl
    | some d =>
      obtain ⟨r, hr, hisRoot, -⟩ := (h.root d).mp hroot
      exact absurd hisRoot (hnone r hr)

theorem select_eq_some (d : Director) : rs.sort.select path query = some d ↔
    ∃ r, Route.Chosen routes path query r ∧ Director.new r.backend r.virtualHost = .ok d := by
  have hquery := h.finds_byQuery path query
  have hpattern := h.finds_byPattern path
  have hpath := h.finds_byPath path
  rw [PolicyRoutes.select_eq]
  constructor
  · -- a kind of route is asked only when no kind before it has found anything
    intro hselect
    rcases Option.or_eq_some_iff.mp hselect with hd | ⟨hnone, hselect⟩
    · obtain ⟨r, hr, hd⟩ := (hquery.eq_some d).mp hd
      exact ⟨r, .byQuery hr, hd⟩
    have hnoQuery := hquery.eq_none.mp hnone
    rcases Option.or_eq_some_iff.mp hselect with hd | ⟨hnone, hselect⟩
    · obtain ⟨r, hr, hd⟩ := (hpattern.eq_some d).mp hd
      exact ⟨r, .byPattern hnoQuery (FirstGreatest.const_iff.mp hr), hd⟩
    have hnoPattern := hpattern.eq_none.mp hnone
    rcases Option.or_eq_some_iff.mp hselect with hd | ⟨hnone, hroot⟩
    · obtain ⟨r, hr, hd⟩ := (hpath.eq_some d).mp hd
      exact ⟨r, .byPath hnoQuery hnoPattern hr, hd⟩
    have hnoPath := hpath.eq_none.mp hnone
    obtain ⟨r, hr, hisRoot, hd⟩ := (h.root d).mp hroot
    exact ⟨r, .root hnoQuery hnoPattern hnoPath hr hisRoot, hd⟩
  · rintro ⟨r, hchosen, hd⟩
    cases hchosen with
    | byQuery hr => rw [(hquery.eq_some d).mpr ⟨r, hr, hd⟩, Option.some_or]
    | byPattern hnoQuery hr =>
      rw [hquery.eq_none.mpr hnoQuery, Option.none_or,
        (hpattern.eq_some d).mpr ⟨r, FirstGreatest.const_iff.mpr hr, hd⟩, Option.some_or]
    | byPath hnoQuery hnoPattern hr =>
      rw [hquery.eq_none.mpr hnoQuery, Option.none_or, hpattern.eq_none.mpr hnoPattern,
        Option.none_or, (hpath.eq_some d).mpr ⟨r, hr, hd⟩, Option.some_or]
    | root hnoQuery hnoPattern hnoPath hr hisRoot =>
      rw [hquery.eq_none.mpr hnoQuery, Option.none_or, hpattern.eq_none.mpr hnoPattern,
        Option.none_or, hpath.eq_none.mpr hnoPath, Option.none_or]
      exact (h.root d).mpr ⟨r, hr, hisRoot, hd⟩

theorem select_eq_none : rs.sort.select path query = none ↔
    ∀ r ∈ routes, ¬ r.MeetsQuery path query ∧ ¬ r.MeetsPattern path ∧ ¬ r.MeetsPath path ∧
      ¬ r.IsRoot := by
  have hroot : rs.sort.root = none ↔ ∀ r ∈ routes, ¬ r.IsRoot := h.root_eq_none
  rw [PolicyRoutes.select_eq, Option.or_eq_none_iff, Option.or_eq_none_iff, Option.or_eq_none_iff,
    (h.finds_byQuery path query).eq_none, (h.finds_byPattern path).eq_none,
    (h.finds_byPath path).eq_none, hroot]
  constructor
  · rintro ⟨hquery, hpattern, hpath, hroot⟩ r hr
    exact ⟨hquery r hr, hpattern r hr, hpath r hr, hroot r hr⟩
  · intro hnone
    exact ⟨fun r hr => (hnone r hr).1, fun r hr => (hnone r hr).2.1,
      fun r hr => (hnone r hr).2.2.1, fun r hr => (hnone r hr).2.2.2⟩

end PolicyRoutes.Holds

theorem eq_of_prefix_of_size_eq {s u : String} (hstart : s.toList <+: u.toList)
    (hsize : s.utf8ByteSize = u.utf8ByteSize) : s = u := by
  obtain ⟨rest, hrest⟩ := hstart
  have hu : u = s ++ String.ofList rest := by
    rw [← String.toList_inj, String.toList_append, String.toList_ofList, hrest]
  have hzero : (String.ofList rest).utf8ByteSize = 0 := by
    rw [hu, String.utf8ByteSize_append] at hsize
    omega
  rw [hu, String.utf8ByteSize_eq_zero_iff.mp hzero, String.append_empty]

/-- Of two endpoints of equal length the path begins with one only. -/
theorem Route.MeetsPath.endpoint_eq {r r' : Route} {path : String} (h : r.MeetsPath path)
    (h' : r'.MeetsPath path) (hsize : r.size = r'.size) : r.endpoint = r'.endpoint := by
  rcases List.prefix_or_prefix_of_prefix h.2.2 h'.2.2 with hstart | hstart
  · exact eq_of_prefix_of_size_eq hstart hsize
  · exact (eq_of_prefix_of_size_eq hstart hsize.symm).symm

namespace RouteTable

/-- The table selects the director of the route that the rule chooses among the routes of the
policy, and nothing exactly if there is no route to go by; nor do two paths of equal length ever
vie for a request. -/
theorem select_eq_chosen {policies : List Policy} {t : RouteTable}
    (hnames : (policies.map Policy.name).Nodup) (h : build policies = .ok t)
    (name path query : String) :
    (∀ d, t.select name path query = some d ↔ ∃ p ∈ policies, p.name = name ∧
      ∃ r, Route.Chosen p.routes path query r ∧ Director.new r.backend r.virtualHost = .ok d) ∧
    (t.select name path query = none ↔ ∀ p ∈ policies, p.name = name → ∀ r ∈ p.routes,
      ¬ r.MeetsQuery path query ∧ ¬ r.MeetsPattern path ∧ ¬ r.MeetsPath path ∧ ¬ r.IsRoot) ∧
    ∀ p ∈ policies, ∀ r ∈ p.routes, ∀ r' ∈ p.routes, r.MeetsPath path → r'.MeetsPath path →
      r.size = r'.size → r = r' := by
  have honly : ∀ p ∈ policies, ∀ p' ∈ policies, p.name = p'.name → p = p' :=
    fun p hp p' hp' => List.inj_on_of_nodup_map hnames hp hp'
  refine ⟨fun d => ?_, ?_, fun p hp r hr r' hr' hpath hpath' hsize => ?_⟩
  · rcases build_eq_ok h name with ⟨p, hp, rfl, unsorted, hholds, hlookup⟩ | ⟨hnone, hlookup⟩
    · rw [select, hlookup, Option.bind_some, hholds.select_eq_some path query d]
      constructor
      · exact fun hchosen => ⟨p, hp, rfl, hchosen⟩
      · rintro ⟨p', hp', hname, hchosen⟩
        rwa [honly p' hp' p hp hname] at hchosen
    · rw [select, hlookup, Option.bind_none]
      constructor
      · exact nofun
      · rintro ⟨p, hp, hname, -⟩
        exact absurd hname (hnone p hp)
  · rcases build_eq_ok h name with ⟨p, hp, rfl, unsorted, hholds, hlookup⟩ | ⟨hnone, hlookup⟩
    · rw [select, hlookup, Option.bind_some, hholds.select_eq_none path query]
      constructor
      · intro hmeets p' hp' hname
        rwa [honly p' hp' p hp hname]
      · exact fun hmeets => hmeets p hp rfl
    · rw [select, hlookup, Option.bind_none]
      exact ⟨fun _ p hp hname => absurd hname (hnone p hp), fun _ => rfl⟩
  · rcases build_eq_ok h p.name with ⟨p', hp', hname, unsorted, hholds, -⟩ | ⟨hnone, -⟩
    · obtain rfl := honly p' hp' p hp hname
      exact List.inj_on_of_nodup_map hholds.distinct hr hr' (hpath.endpoint_eq hpath' hsize)
    · exact absurd rfl (hnone p hp)

def sampleRoute : Route := { kind := .byQuery, endpoint := "/?a=1", backend := "http://[::1]:83" }

/-- A policy in which a request may meet two queries of equal length, a path and the root. -/
def samplePolicy : Policy where
  name := "default"
  routes := [
    { endpoint := "/", backend := "http://[::1]:81" },
    { endpoint := "/api/v1", backend := "http://[::1]:82" },
    sampleRoute,
    { kind := .byQuery, endpoint := "/?b=2", backend := "http://[::1]:84" }]

/-- Of the two queries the one that comes first in the configuration is chosen. -/
theorem select_eq_chosen_of_two_queries :
    ∃ t d, build [samplePolicy] = .ok t ∧
      Director.new sampleRoute.backend sampleRoute.virtualHost = .ok d ∧
      t.select "default" "/api/v1" "b=2&a=1" = some d := by
  obtain ⟨t, ht⟩ : ∃ t, build [samplePolicy] = .ok t := ⟨_, rfl⟩
  obtain ⟨d, hd⟩ : ∃ d, Director.new sampleRoute.backend sampleRoute.virtualHost = .ok d := ⟨_, rfl⟩
  have hasked : sampleRoute.asked = [(Form.decodePart ['a'], Form.decodePart ['1'])] := rfl
  have hfields : Form.parameters "b=2&a=1" =
      [(Form.decodePart ['b'], Form.decodePart ['2']),
        (Form.decodePart ['a'], Form.decodePart ['1'])] := rfl
  have hmeets : sampleRoute.MeetsQuery "/api/v1" "b=2&a=1" := by
    refine ⟨rfl, by decide, fun field hfield => ?_⟩
    rw [hasked, List.mem_singleton] at hfield
    simp [hfields, hfield]
  have hbefore : ∀ y ∈ samplePolicy.routes.take 2, y.kind = .byPath := by decide
  have hafter : ∀ y ∈ samplePolicy.routes.drop 3, y.size ≤ sampleRoute.size := by decide
  have hchosen : Route.Chosen samplePolicy.routes "/api/v1" "b=2&a=1" sampleRoute := by
    refine .byQuery ⟨samplePolicy.routes.take 2, samplePolicy.routes.drop 3, rfl, hmeets, ?_, ?_⟩
    · exact fun y hy h => absurd ((hbefore y hy).symm.trans h.1) nofun
    · exact fun y hy _ => hafter y hy
  obtain ⟨hsome, -, -⟩ := select_eq_chosen (by decide) ht "default" "/api/v1" "b=2&a=1"
  refine ⟨t, d, ht, hd, (hsome d).mpr ?_⟩
  exact ⟨samplePolicy, List.mem_singleton_self _, rfl, sampleRoute, hchosen, hd⟩

end RouteTable

end Gatehouse
