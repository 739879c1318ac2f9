import Gatehouse.Config.Load
import Gatehouse.Proofs.Lists
import Mathlib.Tactic

/-!
# Sound configurations and first faults

A configuration is accepted exactly if it is sound. If it is not, the fault is that of the first
offender: policies in their order, of each its name and then its routes in their order, and after all
of them the other settings. What is wrong with a policy or a route depends on those in front of it,
and is stated here by splitting the list there, without a scan.
-/

namespace Gatehouse

section

variable {α ε : Type} {Faulty : List α → α → ε → Prop} {xs : List α} {x : α} {fault : ε}

/-! ## Faults of elements behind others -/

/-- No element of a list is at fault behind those in front of it. -/
def NoneFaulty (Faulty : List α → α → ε → Prop) (xs : List α) : Prop :=
  ∀ before x after, xs = before ++ x :: after → ∀ fault, ¬ Faulty before x fault

/-- What the first element is at fault for that is at fault behind those in front of it. -/
def FirstFaulty (Faulty : List α → α → ε → Prop) (xs : List α) (fault : ε) : Prop :=
  ∃ before x after, xs = before ++ x :: after ∧ Faulty before x fault ∧ NoneFaulty Faulty before

theorem noneFaulty_nil : NoneFaulty Faulty [] := by
  intro before x after h
  simp at h

theorem firstFaulty_nil : ¬ FirstFaulty Faulty [] fault := by
  rintro ⟨before, x, after, h, -⟩
  simp at h

theorem noneFaulty_cons : NoneFaulty Faulty (x :: xs) ↔
    (∀ fault, ¬ Faulty [] x fault) ∧ NoneFaulty (fun before => Faulty (x :: before)) xs := by
  constructor
  · intro h
    refine ⟨h [] x xs rfl, fun before y after heq => ?_⟩
    exact h (x :: before) y after (by rw [heq, List.cons_append])
  · rintro ⟨hx, hrest⟩ (_ | ⟨z, before⟩) y after heq
    · obtain ⟨rfl, -⟩ := List.cons.inj heq
      exact hx
    · obtain ⟨rfl, htail⟩ := List.cons.inj heq
      exact hrest before y after htail

theorem firstFaulty_cons : FirstFaulty Faulty (x :: xs) fault ↔
    Faulty [] x fault ∨
      (∀ fault, ¬ Faulty [] x fault) ∧ FirstFaulty (fun before => Faulty (x :: before)) xs fault := by
  constructor
  · rintro ⟨_ | ⟨z, before⟩, y, after, heq, hy, hbefore⟩
    · obtain ⟨rfl, -⟩ := List.cons.inj heq
      exact Or.inl hy
    · obtain ⟨rfl, htail⟩ := List.cons.inj heq
      obtain ⟨hx, hbefore⟩ := noneFaulty_cons.mp hbefore
      exact Or.inr ⟨hx, before, y, after, htail, hy, hbefore⟩
  · rintro (hx | ⟨hx, before, y, after, rfl, hy, hbefore⟩)
    · exact ⟨[], x, xs, rfl, hx, noneFaulty_nil⟩
    · exact ⟨x :: before, y, after, rfl, hy, noneFaulty_cons.mpr ⟨hx, hbefore⟩⟩

theorem noneFaulty_iff : NoneFaulty Faulty xs ↔ ∀ fault, ¬ FirstFaulty Faulty xs fault := by
  induction xs generalizing Faulty with
  | nil => exact ⟨fun _ _ => firstFaulty_nil, fun _ => noneFaulty_nil⟩
  | cons x rest ih =>
    simp only [noneFaulty_cons, firstFaulty_cons, ih]
    constructor
    · rintro ⟨hx, hrest⟩ fault (hfault | ⟨-, hfault⟩)
      · exact hx fault hfault
      · exact hrest fault hfault
    · intro h
      have hx : ∀ fault, ¬ Faulty [] x fault := fun fault hfault => h fault (Or.inl hfault)
      exact ⟨hx, fun fault hfault => h fault (Or.inr ⟨hx, hfault⟩)⟩

/-- Elements are nowhere at fault for themselves or for a key that has come before exactly if all are
well by themselves and the keys are distinct. -/
theorem forall_split_iff {p : α → Prop} {key : α → String} :
    (∀ before x after, xs = before ++ x :: after → p x ∧ key x ∉ before.map key) ↔
      (∀ x ∈ xs, p x) ∧ (xs.map key).Nodup := by
  constructor
  · intro h
    constructor
    · intro x hx
      obtain ⟨before, after, heq⟩ := List.append_of_mem hx
      exact (h before x after heq).1
    · induction xs using List.reverseRecOn with
      | nil => exact List.nodup_nil
      | append_singleton front x ih =>
        have hfront := ih fun before y after heq => h before y (after ++ [x]) (by simp [heq])
        have hx := (h front x [] rfl).2
        rw [List.map_append, List.map_singleton, ← List.concat_eq_append, List.nodup_concat]
        exact ⟨hx, hfront⟩
  · rintro ⟨hp, hdistinct⟩ before x after rfl
    refine ⟨hp x (by simp), ?_⟩
    rw [List.map_append, List.map_cons, List.nodup_append] at hdistinct
    intro hmem
    exact hdistinct.2.2 _ hmem _ List.mem_cons_self rfl

theorem noneFaulty_iff_distinct {p : α → Prop} {key : α → String}
    (h : ∀ {before x}, (∀ fault, ¬ Faulty before x fault) ↔ p x ∧ key x ∉ before.map key) :
    NoneFaulty Faulty xs ↔ (∀ x ∈ xs, p x) ∧ (xs.map key).Nodup := by
  simp only [NoneFaulty, h, forall_split_iff]

/-! ## Scans -/

/-- A scan of a list that keeps the keys of what it has seen, and stops at what is at fault. -/
structure Scans (key : α → String) (Faulty : List α → α → ε → Prop)
    (scan : List String → List α → Option ε) : Prop where
  nil (seen : List String) : scan seen [] = none
  stops {before seen x rest fault} (hseen : ∀ k, k ∈ seen ↔ k ∈ before.map key)
    (h : Faulty before x fault) : scan seen (x :: rest) = some fault
  goesOn {before seen x rest} (hseen : ∀ k, k ∈ seen ↔ k ∈ before.map key)
    (h : ∀ fault, ¬ Faulty before x fault) : scan seen (x :: rest) = scan (key x :: seen) rest

namespace Scans

variable {key : α → String} {scan : List String → List α → Option ε}

theorem eq_some_iff_behind (h : Scans key Faulty scan) {before : List α} {seen : List String}
    (hseen : ∀ k, k ∈ seen ↔ k ∈ before.map key) :
    scan seen xs = some fault ↔ FirstFaulty (fun more => Faulty (before ++ more)) xs fault := by
  induction xs generalizing before seen with
  | nil => simp [h.nil, firstFaulty_nil]
  | cons x rest ih =>
    rw [firstFaulty_cons, List.append_nil]
    by_cases hx : ∃ fault, Faulty before x fault
    · obtain ⟨first, hx⟩ := hx
      constructor
      · intro heq
        rw [h.stops hseen hx] at heq
        exact Or.inl (Option.some.inj heq ▸ hx)
      · rintro (hfault | ⟨hnone, -⟩)
        · exact h.stops hseen hfault
        · exact absurd hx (hnone first)
    · rw [not_exists] at hx
      have hseen' : ∀ k, k ∈ key x :: seen ↔ k ∈ (before ++ [x]).map key := by
        intro k
        rw [List.mem_cons, hseen, List.map_append, List.mem_append, List.map_singleton,
          List.mem_singleton]
        exact or_comm
      rw [h.goesOn hseen hx, ih hseen']
      simp only [List.append_assoc, List.singleton_append]
      exact ⟨fun hrest => Or.inr ⟨hx, hrest⟩, fun hor => (hor.resolve_left (hx fault)).2⟩

theorem eq_some_iff (h : Scans key Faulty scan) :
    scan [] xs = some fault ↔ FirstFaulty Faulty xs fault :=
  have hseen : ∀ k, k ∈ [] ↔ k ∈ ([] : List α).map key := by simp
  h.eq_some_iff_behind hseen

theorem eq_none_iff (h : Scans key Faulty scan) : scan [] xs = none ↔ NoneFaulty Faulty xs := by
  simp only [Option.eq_none_iff_forall_ne_some, noneFaulty_iff, ne_eq, h.eq_some_iff]

end Scans

end

/-! ## Faults of policies, routes and settings -/

/-- What is wrong with a route of a policy, with these routes in front of it. -/
inductive Route.Faulty (policy : String) (before : List Route) (r : Route) : ConfigFault → Prop
  | unnamed (h : r.endpoint = "") : Faulty policy before r (.emptyEndpoint policy)
  | repeated (hnamed : r.endpoint ≠ "") (h : r.endpoint ∈ before.map endpoint) :
      Faulty policy before r (.duplicateEndpoint policy r.endpoint)

/-- What is wrong with a policy, with these policies in front of it: its name, or else the first of its
routes that is at fault. -/
inductive Policy.Faulty (before : List Policy) (p : Policy) : ConfigFault → Prop
  | unnamed (h : p.name = "") : Faulty before p .emptyPolicyName
  | repeated (hnamed : p.name ≠ "") (h : p.name ∈ before.map name) :
      Faulty before p (.duplicatePolicy p.name)
  | route {fault : ConfigFault} (hnamed : p.name ≠ "") (hfresh : p.name ∉ before.map name)
      (h : FirstFaulty (Route.Faulty p.name) p.routes fault) : Faulty before p fault

namespace Config

/-- The faults of what is neither a policy nor a route, in their order. -/
def settingFaults : List ConfigFault := [.halfTls, .emptySelectorKind, .missingSecret, .emptyCache]

def SettingFault (c : Config) : ConfigFault → Prop
  | .halfTls => c.http.certificate.isSome ≠ c.http.key.isSome
  | .emptySelectorKind => c.selector.kind = ""
  | .missingSecret => c.identity.enabled = true ∧ c.token.secret = ""
  | .emptyCache => c.cache.size = 0
  | _ => False

/-- Whether a fault is the first of a configuration: of its policies in their order, or else of its
settings in theirs. -/
def IsFirstFault (c : Config) (fault : ConfigFault) : Prop :=
  FirstFaulty Policy.Faulty c.policies fault ∨
    NoneFaulty Policy.Faulty c.policies ∧ First c.SettingFault settingFaults fault

/-- What a configuration must be to be accepted. -/
structure Sound (c : Config) : Prop where
  named : ∀ p ∈ c.policies, p.name ≠ ""
  distinct : (c.policies.map Policy.name).Nodup
  endpoints : ∀ p ∈ c.policies, ∀ r ∈ p.routes, r.endpoint ≠ ""
  distinctEndpoints : ∀ p ∈ c.policies, (p.routes.map Route.endpoint).Nodup
  tls : c.http.certificate.isSome = c.http.key.isSome
  selector : c.selector.kind ≠ ""
  secret : c.token.secret ≠ "" ∨ c.identity.enabled = false
  cache : 0 < c.cache.size

end Config

/-! ## The scans of policies and routes -/

theorem Route.not_faulty_iff {policy : String} {before : List Route} {r : Route} :
    (∀ fault, ¬ Faulty policy before r fault) ↔
      r.endpoint ≠ "" ∧ r.endpoint ∉ before.map endpoint := by
  constructor
  · intro h
    have hnamed : r.endpoint ≠ "" := fun hempty => h _ (.unnamed hempty)
    exact ⟨hnamed, fun hmem => h _ (.repeated hnamed hmem)⟩
  · rintro ⟨hnamed, hfresh⟩ fault (hempty | ⟨-, hmem⟩)
    · exact hnamed hempty
    · exact hfresh hmem

theorem Policy.not_faulty_iff {before : List Policy} {p : Policy} :
    (∀ fault, ¬ Faulty before p fault) ↔
      (p.name ≠ "" ∧ NoneFaulty (Route.Faulty p.name) p.routes) ∧ p.name ∉ before.map name := by
  rw [Gatehouse.noneFaulty_iff]
  constructor
  · intro h
    have hnamed : p.name ≠ "" := fun hempty => h _ (.unnamed hempty)
    have hfresh : p.name ∉ before.map name := fun hmem => h _ (.repeated hnamed hmem)
    exact ⟨⟨hnamed, fun fault hroute => h fault (.route hnamed hfresh hroute)⟩, hfresh⟩
  · rintro ⟨⟨hnamed, hroutes⟩, hfresh⟩ fault (hempty | ⟨-, hmem⟩ | ⟨-, -, hroute⟩)
    · exact hnamed hempty
    · exact hfresh hmem
    · exact hroutes fault hroute

theorem Policy.scans_routes (policy : String) :
    Scans Route.endpoint (Route.Faulty policy) (routeFault? policy) where
  nil _ := rfl
  stops := by
    intro before seen r rest fault hseen h
    cases h with
    | unnamed hempty => rw [routeFault?, if_pos hempty]
    | repeated hnamed hmem => rw [routeFault?, if_neg hnamed, if_pos ((hseen _).mpr hmem)]
  goesOn := by
    intro before seen r rest hseen h
    obtain ⟨hnamed, hfresh⟩ := Route.not_faulty_iff.mp h
    rw [routeFault?, if_neg hnamed, if_neg fun hmem => hfresh ((hseen _).mp hmem)]

theorem Policy.scans : Scans Policy.name Faulty fault? where
  nil _ := rfl
  stops := by
    intro before seen p rest fault hseen h
    cases h with
    | unnamed hempty => rw [fault?, if_pos hempty]
    | repeated hnamed hmem => rw [fault?, if_neg hnamed, if_pos ((hseen _).mpr hmem)]
    | route hnamed hfresh hroute =>
      rw [fault?, if_neg hnamed, if_neg fun hmem => hfresh ((hseen _).mp hmem),
        (scans_routes p.name).eq_some_iff.mpr hroute, Option.some_or]
  goesOn := by
    intro before seen p rest hseen h
    obtain ⟨⟨hnamed, hroutes⟩, hfresh⟩ := not_faulty_iff.mp h
    rw [fault?, if_neg hnamed, if_neg fun hmem => hfresh ((hseen _).mp hmem),
      (scans_routes p.name).eq_none_iff.mpr hroutes, Option.none_or]

theorem Route.noneFaulty_iff {policy : String} {routes : List Route} :
    NoneFaulty (Faulty policy) routes ↔
      (∀ r ∈ routes, r.endpoint ≠ "") ∧ (routes.map endpoint).Nodup :=
  noneFaulty_iff_distinct not_faulty_iff

theorem Policy.noneFaulty_iff {policies : List Policy} :
    NoneFaulty Faulty policies ↔
      (∀ p ∈ policies, p.name ≠ "" ∧ (∀ r ∈ p.routes, r.endpoint ≠ "") ∧
        (p.routes.map Route.endpoint).Nodup) ∧ (policies.map name).Nodup := by
  rw [noneFaulty_iff_distinct not_faulty_iff]
  simp only [Route.noneFaulty_iff]

/-! ## Settings, and the whole -/

namespace Config

variable {c : Config} {fault : ConfigFault}

theorem settingFault?_eq_some_iff :
    c.settingFault? = some fault ↔ First c.SettingFault settingFaults fault := by
  simp only [settingFaults, First.cons_iff, First.nil_iff, SettingFault, and_false, or_false]
  unfold settingFault?
  split_ifs with htls hselector hsecret hcache
  · simp [htls]
  · simp [htls, hselector]
  · simp [htls, hselector, hsecret]
  · simp [htls, hselector, hsecret, hcache]
  · simp [htls, hselector, hsecret, hcache]

theorem settingFault?_eq_none_iff :
    c.settingFault? = none ↔ c.http.certificate.isSome = c.http.key.isSome ∧ c.selector.kind ≠ "" ∧
      (c.token.secret ≠ "" ∨ c.identity.enabled = false) ∧ 0 < c.cache.size := by
  unfold settingFault?
  split_ifs with htls hselector hsecret hcache
  · simp [htls]
  · simp [hselector]
  · simp [hsecret.1, hsecret.2]
  · simp [hcache]
  · have hsecret' : c.token.secret ≠ "" ∨ c.identity.enabled = false := by
      rw [not_and_or, Bool.not_eq_true] at hsecret
      exact hsecret.symm
    have hcache' : 0 < c.cache.size := UInt64.pos_iff_ne_zero.mpr hcache
    simp [not_not.mp htls, hselector, hsecret', hcache']

theorem fault?_eq_none_iff : c.fault? = none ↔ c.Sound := by
  rw [fault?, Option.or_eq_none_iff, Policy.scans.eq_none_iff, Policy.noneFaulty_iff,
    settingFault?_eq_none_iff]
  constructor
  · rintro ⟨⟨hpolicies, hdistinct⟩, htls, hselector, hsecret, hcache⟩
    exact ⟨fun p hp => (hpolicies p hp).1, hdistinct, fun p hp => (hpolicies p hp).2.1,
      fun p hp => (hpolicies p hp).2.2, htls, hselector, hsecret, hcache⟩
  · intro h
    exact ⟨⟨fun p hp => ⟨h.named p hp, h.endpoints p hp, h.distinctEndpoints p hp⟩, h.distinct⟩,
      h.tls, h.selector, h.secret, h.cache⟩

theorem fault?_eq_some_iff : c.fault? = some fault ↔ c.IsFirstFault fault := by
  rw [fault?, Option.or_eq_some_iff, Policy.scans.eq_some_iff, Policy.scans.eq_none_iff,
    settingFault?_eq_some_iff, IsFirstFault]

/-- A configuration is accepted exactly if it is sound, and otherwise refused for its first fault, in
the words for that. -/
theorem sound_or_first_fault (c : Config) :
    (c.fault? = none ↔ c.Sound) ∧ (∀ fault, c.fault? = some fault ↔ c.IsFirstFault fault) ∧
      ∀ text, c.fault?.map ConfigFault.message = some text ↔
        ∃ fault, c.IsFirstFault fault ∧ fault.message = text := by
  refine ⟨fault?_eq_none_iff, fun fault => fault?_eq_some_iff, fun text => ?_⟩
  rw [Option.map_eq_some_iff]
  simp only [fault?_eq_some_iff]

/-- A configuration that is refused for two routes of its second policy. The policy behind has no name,
and the cache has no room, but neither is the first fault. -/
example :
    let routes : List Route := [{ endpoint := "/", backend := "http://b" },
      { kind := .byPattern, endpoint := "/", backend := "http://c" }]
    ({ policies := [⟨"old", []⟩, ⟨"new", routes⟩, ⟨"", []⟩], cache := { size := 0 } } : Config).fault? =
      some (.duplicateEndpoint "new" "/") := by
  decide

end Config

/-! ## Loading -/

variable {files : Files} {path : String} {c : Config} {fault : ConfigFault}

namespace ConfigFile

theorem text_ne_invalid : text files path ≠ .error (.invalid fault) := by
  unfold text
  cases files path with
  | error e => simp
  | ok bytes => cases hbytes : Utf8.decode? bytes with
    | none => simp [hbytes]
    | some text => simp [hbytes]

theorem parse_ne_invalid {held : String} : parse path held ≠ .error (.invalid fault) := by
  unfold parse
  split_ifs
  · cases (Wire.ofText held : Except _ Config) with
    | error e => simp [Except.mapError]
    | ok c => simp [Except.mapError]
  · cases (Yaml.ofText? held : Option Config) with
    | none => simp
    | some c => simp

end ConfigFile

namespace Config

theorem load_of_parse {text : String} (htext : ConfigFile.text files path = .ok text)
    (hparse : ConfigFile.parse path text = .ok c) :
    load files path = c.fault?.elim (.ok c) fun fault => .error (.invalid fault) := by
  simp only [load, htext, hparse, bind, Except.bind]
  cases c.fault? with
  | none => rfl
  | some fault => rfl

/-- What is loaded from a file is what the file holds, and is sound. What the file holds is refused
for its first fault. -/
theorem load_iff :
    (load files path = .ok c ↔ ∃ text, ConfigFile.text files path = .ok text ∧
      ConfigFile.parse path text = .ok c ∧ c.Sound) ∧
    (load files path = .error (.invalid fault) ↔ ∃ text c, ConfigFile.text files path = .ok text ∧
      ConfigFile.parse path text = .ok c ∧ c.IsFirstFault fault) := by
  cases htext : ConfigFile.text files path with
  | error e =>
    have hload : load files path = .error e := by simp [load, htext, bind, Except.bind]
    have hvalid : e ≠ .invalid fault := fun h => ConfigFile.text_ne_invalid (h ▸ htext)
    simp [hload, hvalid]
  | ok text => cases hparse : ConfigFile.parse path text with
    | error e =>
      have hload : load files path = .error e := by simp [load, htext, hparse, bind, Except.bind]
      have hvalid : e ≠ .invalid fault := fun h => ConfigFile.parse_ne_invalid (h ▸ hparse)
      simp [hload, hvalid, hparse]
    | ok held =>
      rw [load_of_parse htext hparse]
      simp only [← fault?_eq_none_iff, ← fault?_eq_some_iff]
      cases hfault : held.fault? with
      | none =>
        have hkept : held = c ↔ held = c ∧ c.fault? = none :=
          ⟨fun heq => ⟨heq, heq ▸ hfault⟩, And.left⟩
        simpa [hparse, hfault] using hkept
      | some first =>
        have hrefused : held = c → c.fault? ≠ none := fun heq => by simp [← heq, hfault]
        simpa [hparse, hfault] using hrefused

end Config

end Gatehouse
