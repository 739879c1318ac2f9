import Gatehouse.Proofs.Routing.Target

/-!
# Backends that can be addressed

A backend is read as an address when its director is made, and each target of the director is read as
the target of a request, by another grammar. Whatever path and query come from a request, they and
those of the backend are in both grammars. The scheme and the authority of the backend need not be:
then a director is made, and no request can be pointed at its backend.
-/

namespace Gatehouse

theorem Uri.isPathChar_of_escape {c : Char} (h : Url.Escape.path c = false) :
    isPathChar c = true := by
  simp only [Url.Escape.path, Url.Escape.fragment, Url.Escape.control, Bool.or_eq_false_iff,
    decide_eq_false_iff_not, List.contains_eq_mem, List.mem_cons, List.not_mem_nil, or_false,
    not_or, ← Char.toNat_inj] at h
  simp only [isPathChar, Bool.or_eq_true, beq_iff_eq, Bool.and_eq_true, decide_eq_true_eq]
  simp at h
  omega

theorem Uri.isQueryChar_of_escape {c : Char} (h : Url.Escape.query c = false) :
    isQueryChar c = true := by
  simp only [Url.Escape.query, Url.Escape.control, Bool.or_eq_false_iff,
    decide_eq_false_iff_not, List.contains_eq_mem, List.mem_cons, List.not_mem_nil, or_false,
    not_or, ← Char.toNat_inj] at h
  simp only [isQueryChar, Bool.or_eq_true, beq_iff_eq, Bool.and_eq_true, decide_eq_true_eq]
  simp at h
  omega

theorem mem_joinQueries {a b : String} {c : Char} (h : c ∈ (joinQueries a b).toList) :
    c = '&' ∨ c ∈ a.toList ∨ c ∈ b.toList := by
  unfold joinQueries at h
  split_ifs at h
  · rw [String.toList_append, List.mem_append] at h
    exact Or.inr h
  · simp only [String.toList_append, List.mem_append] at h
    rcases h with (h | h) | h
    · exact Or.inr (Or.inl h)
    · exact Or.inl (List.mem_singleton.mp h)
    · exact Or.inr (Or.inr h)

namespace Director

variable {d : Director}

/-- Whether the scheme and the authority of the backend can be those of a target. -/
def IsAddressable (d : Director) : Prop :=
  Uri.SchemeFits d.scheme ∧ ∀ c ∈ d.authority.toList, Uri.isAuthorityChar c = true

instance (d : Director) : Decidable d.IsAddressable :=
  decidable_of_iff
    (Uri.SchemeFits d.scheme ∧ d.authority.toList.all Uri.isAuthorityChar = true)
    (and_congr_right fun _ => List.all_eq_true)

theorem readPath_pathText (hd : d.WellFormed) {path query : String}
    (hpath : ∀ c ∈ path.toList, Uri.isPathChar c = true)
    (hquery : ∀ c ∈ query.toList, Uri.isQueryChar c = true) :
    Uri.readPath (d.pathText path query) =
      .ok (joinPaths d.basePath path,
        if joinQueries d.baseQuery query = "" then none
        else some (joinQueries d.baseQuery query)) := by
  have hfront : ∀ c ∈ (joinPaths d.basePath path).toList, Uri.isPathChar c = true := by
    intro c hc
    rcases mem_joinPaths hc with rfl | hc | hc
    · rfl
    · exact Uri.isPathChar_of_escape (hd.escapedPath c hc)
    · exact hpath c hc
  have hbehind : ∀ c ∈ (joinQueries d.baseQuery query).toList, Uri.isQueryChar c = true := by
    intro c hc
    rcases mem_joinQueries hc with rfl | hc | hc
    · rfl
    · exact Uri.isQueryChar_of_escape (hd.escapedQuery c hc)
    · exact hquery c hc
  unfold pathText
  split_ifs
  · rw [String.toList_empty, List.append_nil, Uri.readPath_of_isPathChar hfront,
      String.ofList_toList]
  · have hmark : ("?" ++ joinQueries d.baseQuery query).toList =
        '?' :: (joinQueries d.baseQuery query).toList := String.toList_append
    rw [hmark, Uri.readPath_append hfront hbehind, String.ofList_toList, String.ofList_toList]

/-- A target that is not too long can be read exactly if the backend can be addressed. -/
theorem exists_target_iff (hd : d.WellFormed) {path query : String}
    (hpath : ∀ c ∈ path.toList, Uri.isPathChar c = true)
    (hquery : ∀ c ∈ query.toList, Uri.isQueryChar c = true)
    (hlength : (d.targetText path query).utf8ByteSize ≤ Uri.maxLength) :
    (∃ t, d.target path query = .ok t) ↔ d.IsAddressable := by
  have hread := readPath_pathText hd hpath hquery
  have htext : String.ofList
      (Uri.absolute d.scheme.toList d.authority.toList (d.pathText path query)) =
        d.targetText path query := by
    rw [← toList_targetText, String.ofList_toList]
  have hiff := Uri.parse_absolute_iff hd.isSchemeChar hd.toLower hd.authority
    (hd.head?_pathText path query) hread (htext ▸ hlength)
  rw [htext, String.ofList_toList] at hiff
  simp only [target_eq_ok_iff]
  exact hiff

/-- A director that was made points every request at its backend whose target is not too long, or none
of them, as the scheme and the authority of the backend have it. -/
theorem target_of_new {backend : String} {virtualHost : Bool}
    (hnew : new backend virtualHost = .ok d) {text : String} {u : Uri}
    (hparse : Uri.parse text = .ok u)
    (hlength : (d.targetText u.path (u.query.getD "")).utf8ByteSize ≤ Uri.maxLength) :
    (d.IsAddressable → ∃ t, d.target u.path (u.query.getD "") = .ok t) ∧
      (¬ d.IsAddressable → ∃ reason, d.target u.path (u.query.getD "") =
        .error (.invalidTarget (d.targetText u.path (u.query.getD "")) reason)) := by
  obtain ⟨hpath, hquery⟩ := Uri.chars_parse hparse
  have hquery : ∀ c ∈ (u.query.getD "").toList, Uri.isQueryChar c = true := by
    cases hq : u.query with
    | none => exact List.forall_mem_nil _
    | some q => exact hquery q hq
  have hiff := exists_target_iff (wellFormed_new hnew) hpath hquery hlength
  refine ⟨hiff.mpr, fun hnot => ?_⟩
  have hrefused : ∀ t, Uri.parse (d.targetText u.path (u.query.getD "")) ≠ .ok t :=
    fun t ht => hnot (hiff.mp ⟨t, target_eq_ok_iff.mpr ht⟩)
  simp only [target]
  cases hread : Uri.parse (d.targetText u.path (u.query.getD "")) with
  | ok t => exact absurd hread (hrefused t)
  | error e => exact ⟨e.message, rfl⟩

def braced : Director where
  backend := "store://\x7bbackend\x7d:8080"
  scheme := "store"
  authority := "\x7bbackend\x7d:8080"
  basePath := ""
  baseQuery := ""
  virtualHost := false

/-- Braces may stand in the host of an address and not in the authority of a target: the director is
made, and it refuses even the root of its backend. -/
theorem target_of_new_braced :
    new "store://\x7bbackend\x7d:8080" false = .ok braced ∧ Uri.parse "/" = .ok { path := "/" } ∧
      (braced.targetText "/" "").utf8ByteSize ≤ Uri.maxLength ∧
      ∃ reason, braced.target "/" "" = .error (.invalidTarget "store://\x7bbackend\x7d:8080/" reason) := by
  have hnew : new "store://\x7bbackend\x7d:8080" false = .ok braced := rfl
  have hparse : Uri.parse "/" = .ok { path := "/" } := rfl
  have hlength : (braced.targetText "/" "").utf8ByteSize ≤ Uri.maxLength :=
    Nat.le_of_ble_eq_true (by decide +kernel)
  exact ⟨hnew, hparse, hlength, (target_of_new hnew hparse hlength).2 (by decide +kernel)⟩

end Director

end Gatehouse
