import Gatehouse.Proofs.Http.Authority
import Gatehouse.Routing.Director

/-!
# Where a director points

The base path of a backend is empty or begins with a slash, and so does what is joined to it. The
target of a director therefore has the scheme and the authority of the backend, whatever path and
query a request has.
-/

namespace Gatehouse

theorem joinPaths_eq (a b : String) :
    ∃ front back, (joinPaths a b).toList = front ++ '/' :: back ∧
      (a.toList = front ∨ a.toList = front ++ ['/']) ∧
      (b.toList = back ∨ b.toList = '/' :: back) := by
  have hslash : ∀ {cs : List Char}, (cs.head? == some '/') = true → ∃ tail, cs = '/' :: tail :=
    fun h => Uri.exists_tail (by simpa using h)
  have hlast : (a.toList.getLast? == some '/') = true → ∃ front, a.toList = front ++ ['/'] := by
    intro h
    have h : a.toList.getLast? = some '/' := by simpa using h
    exact List.getLast?_eq_some_iff.mp h
  unfold joinPaths
  cases ha : a.toList.getLast? == some '/' with
  | true =>
    obtain ⟨front, hfront⟩ := hlast ha
    cases hb : b.toList.head? == some '/' with
    | true =>
      obtain ⟨back, hback⟩ := hslash hb
      exact ⟨front, back, by simp [hfront, hback], Or.inr hfront, Or.inr hback⟩
    | false => exact ⟨front, b.toList, by simp [hfront], Or.inr hfront, Or.inl rfl⟩
  | false =>
    cases hb : b.toList.head? == some '/' with
    | true =>
      obtain ⟨back, hback⟩ := hslash hb
      exact ⟨a.toList, back, by simp [hback], Or.inl rfl, Or.inr hback⟩
    | false => exact ⟨a.toList, b.toList, by simp, Or.inl rfl, Or.inl rfl⟩

theorem head?_joinPaths {a : String} (h : Url.SetsApart a.toList) (b : String) :
    (joinPaths a b).toList.head? = some '/' := by
  obtain ⟨front, back, heq, ha, -⟩ := joinPaths_eq a b
  rw [heq]
  cases front with
  | nil => rfl
  | cons c front =>
    rcases ha with ha | ha
    · rw [ha] at h
      simpa [Url.SetsApart] using h
    · rw [ha] at h
      simpa [Url.SetsApart] using h

theorem mem_joinPaths {a b : String} {c : Char} (h : c ∈ (joinPaths a b).toList) :
    c = '/' ∨ c ∈ a.toList ∨ c ∈ b.toList := by
  obtain ⟨front, back, heq, ha, hb⟩ := joinPaths_eq a b
  rw [heq, List.mem_append, List.mem_cons] at h
  rcases h with h | h | h
  · refine Or.inr (Or.inl ?_)
    rcases ha with ha | ha
    · rwa [ha]
    · rw [ha]
      exact List.mem_append_left _ h
  · exact Or.inl h
  · refine Or.inr (Or.inr ?_)
    rcases hb with hb | hb
    · rwa [hb]
    · rw [hb]
      exact List.mem_cons_of_mem _ h

/-- Behind a normal path, joining yields a normal one exactly if the other one is. -/
theorem isNormal_joinPaths {a b : String} (ha : Url.Path.IsNormal a.toList) :
    Url.Path.IsNormal (joinPaths a b).toList ↔ Url.Path.IsNormal b.toList := by
  obtain ⟨front, back, heq, hfront, hback⟩ := joinPaths_eq a b
  have hnormal : Url.Path.IsNormal front := by
    rcases hfront with hfront | hfront
    · rwa [← hfront]
    · rwa [hfront, Url.Path.isNormal_append_slash] at ha
  rw [heq, Url.Path.isNormal_append_cons, and_iff_right hnormal]
  rcases hback with hback | hback
  · rw [hback]
  · rw [hback, Url.Path.isNormal_cons]

namespace Director

/-- What holds of every director of a backend. -/
structure WellFormed (d : Director) : Prop where
  scheme : ∀ c ∈ d.scheme.toList, Url.IsSchemeChar c
  authority : Url.AuthorityForm d.authority.toList
  basePath : Url.SetsApart d.basePath.toList
  web : Url.SchemeKind.ofName d.scheme = .web → Url.Path.IsNormal d.basePath.toList
  escapedPath : Url.Path.Escaped d.basePath.toList
  escapedQuery : ∀ c ∈ d.baseQuery.toList, Url.Escape.query c = false

theorem new_eq_ok {backend : String} {virtualHost : Bool} {d : Director}
    (h : new backend virtualHost = .ok d) :
    ∃ url, Url.parse backend = .ok url ∧ url.scheme = d.scheme ∧
      url.hostAndPort = some d.authority ∧ url.path = d.basePath ∧
      url.query.getD "" = d.baseQuery := by
  unfold new at h
  split at h
  · cases h
  · rename_i url hurl
    split at h
    · cases h
    · rename_i authority hauthority
      obtain rfl := Except.ok.inj h
      exact ⟨url, hurl, rfl, hauthority, rfl, rfl⟩

theorem wellFormed_new {backend : String} {virtualHost : Bool} {d : Director}
    (h : new backend virtualHost = .ok d) : d.WellFormed := by
  obtain ⟨url, hurl, hscheme, hauthority, hpath, hquery⟩ := new_eq_ok h
  have hwell := Url.wellFormed_parse hurl
  have hhost : url.host.isSome := by
    unfold Url.hostAndPort at hauthority
    obtain ⟨host, hhost, -⟩ := Option.map_eq_some_iff.mp hauthority
    rw [hhost]
    rfl
  refine ⟨hscheme ▸ hwell.scheme, Url.authorityForm_hostAndPort hwell.host hauthority,
    hpath ▸ hwell.path hhost, ?_, hpath ▸ hwell.escapedPath hhost, ?_⟩
  · rw [← hpath, ← hscheme]
    exact hwell.web
  · rw [← hquery]
    cases hq : url.query with
    | none => exact List.forall_mem_nil _
    | some q => exact hwell.escapedQuery q hq

variable {d : Director}

/-- What of the target stands behind the authority. -/
def pathText (d : Director) (path query : String) : List Char :=
  (joinPaths d.basePath path).toList ++
    (if joinQueries d.baseQuery query = "" then "" else "?" ++ joinQueries d.baseQuery query).toList

theorem toList_targetText (d : Director) (path query : String) :
    (d.targetText path query).toList =
      Uri.absolute d.scheme.toList d.authority.toList (d.pathText path query) := by
  simp only [targetText, pathText, Uri.absolute, String.toList_append, List.append_assoc]
  rfl

theorem WellFormed.isSchemeChar (hd : d.WellFormed) :
    ∀ c ∈ d.scheme.toList, Uri.isSchemeChar c = true := by
  intro c hc
  rw [Uri.isSchemeChar, (hd.scheme c hc).1]
  rfl

theorem WellFormed.toLower (hd : d.WellFormed) : ∀ c ∈ d.scheme.toList, c.toLower = c :=
  fun c hc => (hd.scheme c hc).2

theorem WellFormed.head?_pathText (hd : d.WellFormed) (path query : String) :
    (d.pathText path query).head? = some '/' := by
  rw [pathText, List.head?_append, head?_joinPaths hd.basePath]
  rfl

theorem target_eq_ok_iff {path query : String} {u : Uri} :
    d.target path query = .ok u ↔ Uri.parse (d.targetText path query) = .ok u := by
  simp only [target]
  cases Uri.parse (d.targetText path query) <;> simp [Except.mapError]

/-- The target has the scheme and the authority of the backend; path and query are read from the
rest. -/
theorem target_eq_ok (hd : d.WellFormed) {path query : String} {u : Uri}
    (h : d.target path query = .ok u) :
    u.scheme = some d.scheme ∧ u.authority = some d.authority ∧ d.authority.toList ≠ [] ∧
      Uri.readPath (d.pathText path query) = .ok (u.path, u.query) := by
  have hparse := target_eq_ok_iff.mp h
  rw [← String.ofList_toList (s := d.targetText path query), toList_targetText] at hparse
  simpa using
    Uri.parse_absolute hd.isSchemeChar hd.toLower (Uri.endsAuthority_of_mem hd.authority)
      (hd.head?_pathText path query) hparse

theorem path_target (hd : d.WellFormed) (hweb : Url.SchemeKind.ofName d.scheme = .web)
    {path query : String} (hpath : ∀ c ∈ path.toList, Uri.isPathChar c = true) {u : Uri}
    (h : d.target path query = .ok u) : u.path = joinPaths d.basePath path := by
  obtain ⟨-, -, -, hread⟩ := target_eq_ok hd h
  have hchar : ∀ c ∈ (joinPaths d.basePath path).toList, c ≠ '#' ∧ c ≠ '?' := by
    intro c hc
    rcases mem_joinPaths hc with rfl | hc | hc
    · decide
    · have hplain := (hd.web hweb).plain c hc
      constructor
      · rintro rfl
        exact absurd hplain (by decide)
      · rintro rfl
        exact absurd hplain (by decide)
    · obtain ⟨-, hmark, hsign⟩ := Uri.visible_of_isPathChar (hpath c hc)
      exact ⟨hsign, hmark⟩
  -- the query begins with a question mark, so nothing of it is read as path
  have hquery : ∀ q : String,
      ((if q = "" then "" else "?" ++ q).toList.takeWhile (· ≠ '#')).takeWhile (· ≠ '?') = [] := by
    intro q
    split_ifs
    · rfl
    · simp
  have hfront := (Uri.readPath_eq_ok hread).1
  rw [pathText, List.takeWhile_append_of_pos (fun c hc => by simpa using (hchar c hc).1),
    List.takeWhile_append_of_pos (fun c hc => by simpa using (hchar c hc).2), hquery,
    List.append_nil] at hfront
  exact String.toList_inj.mp hfront

end Director

end Gatehouse
