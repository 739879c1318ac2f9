import Gatehouse.Proofs.Gateway.Hops
import Gatehouse.Proofs.Url.Host
import Mathlib.Data.Multiset.Basic
import Mathlib.Tactic

/-!
# What stripping leaves alone

Stripping takes nothing but the headers that concern one connection only. All others stay in their
order, each with all its values. What is left has nothing to be taken away, and in which order the
`Connection` headers come, or the elements of each of them, makes no difference.
-/

namespace Gatehouse

theorem Headers.foldl_remove_eq_filter (names : List HeaderName) (hs : Headers) :
    names.foldl remove hs = hs.filter fun h => h.1 ∉ names := by
  induction names generalizing hs with
  | nil => simp
  | cons first rest ih =>
    rw [List.foldl_cons, ih, remove, List.filter_filter]
    apply List.filter_congr
    intro h _
    by_cases hfirst : h.1 = first <;> simp [hfirst]

namespace HopByHop

variable {hs ks : Headers} {value : Bytes} {name : HeaderName}

theorem strip_eq_filter (hs : Headers) :
    strip hs = hs.filter fun h => h.1 ∉ listed hs ++ fixedNames :=
  Headers.foldl_remove_eq_filter (listed hs ++ fixedNames) hs

/-- `Connection` headers go in any case, so that only what they list is of interest. -/
theorem strip_eq_filter_others (hs : Headers) :
    strip hs = (hs.remove .connection).filter fun h => h.1 ∉ listed hs ++ fixedNames := by
  have hfixed : HeaderName.connection ∈ fixedNames := by decide
  rw [strip_eq_filter, Headers.remove, List.filter_filter]
  apply List.filter_congr
  intro h _
  by_cases hconnection : h.1 = .connection
  · simp [hconnection, hfixed]
  · simp [hconnection]

theorem strip_sublist (hs : Headers) : (strip hs).Sublist hs := by
  rw [strip_eq_filter]
  exact List.filter_sublist

theorem listed_strip (hs : Headers) : listed (strip hs) = [] := by
  rw [listed, values_strip, if_pos (Or.inr (by decide))]
  rfl

theorem strip_strip (hs : Headers) : strip (strip hs) = strip hs := by
  rw [strip_eq_filter (strip hs), listed_strip, List.nil_append, List.filter_eq_self]
  intro h hmem
  rw [strip_eq_filter] at hmem
  have hleft := (List.mem_filter.mp hmem).2
  simp only [List.mem_append, not_or, decide_eq_true_eq] at hleft
  exact decide_eq_true hleft.2

/-! ## Elements in any order -/

def isPlainChar (c : Char) : Bool := (c.toNat ≥ 32 && c.toNat < 127) || c.toNat == 9

theorem isPlainChar_of_isGap {c : Char} (h : isGap c = true) : isPlainChar c = true := by
  simp only [isGap, Bool.or_eq_true, beq_iff_eq] at h
  rcases h with rfl | rfl
  · decide
  · decide

theorem isPlainChar_byte (b : UInt8) :
    isPlainChar (Char.ofNat b.toNat) = (b ≥ 32 && b < 127 || b == 9) := by
  have hvalid : b.toNat.isValidChar := Or.inl (b.toNat_lt.trans (by decide))
  have hchar : (Char.ofNat b.toNat).toNat = b.toNat := by
    rw [Char.ofNat, dif_pos hvalid]
    rfl
  have htab : (b.toNat == 9) = (b == 9) := by
    rw [Bool.eq_iff_iff, beq_iff_eq, beq_iff_eq, ← UInt8.toNat_inj]
    rfl
  rw [isPlainChar, hchar, htab]
  rfl

theorem isPlain_iff_chars :
    HeaderValue.isPlain value = true ↔
      ∀ c ∈ value.map fun b => Char.ofNat b.toNat, isPlainChar c = true := by
  simp only [HeaderValue.isPlain, List.all_eq_true, List.forall_mem_map, isPlainChar_byte]

theorem isGap_or_mem_trimmed {c : Char} {cs : List Char} (h : c ∈ cs) :
    isGap c = true ∨ c ∈ (cs.dropWhile isGap).rdropWhile isGap := by
  rw [← List.takeWhile_append_dropWhile (p := isGap) (l := cs), List.mem_append] at h
  rcases h with h | h
  · exact Or.inl (List.mem_takeWhile_imp h)
  · rw [← List.rdropWhile_append_rtakeWhile (p := isGap) (l := cs.dropWhile isGap),
      List.mem_append] at h
    rcases h with h | h
    · exact Or.inr h
    · exact Or.inl (List.mem_rtakeWhile_imp h)

theorem isPlain_iff_elements :
    HeaderValue.isPlain value = true ↔ ∀ e ∈ elements value, ∀ c ∈ e, isPlainChar c = true := by
  rw [isPlain_iff_chars, elements]
  constructor
  · intro hplain e he c hc
    obtain ⟨piece, hpiece, rfl⟩ := List.mem_map.mp he
    apply hplain
    apply mem_of_mem_splitOn hpiece
    exact List.dropWhile_subset _ ((List.rdropWhile_prefix _ _).subset hc)
  · intro hplain c hc
    have hjoined : [','].intercalate ((value.map fun b => Char.ofNat b.toNat).splitOn ',') =
        value.map fun b => Char.ofNat b.toNat := List.intercalate_splitOn ','
    rw [← hjoined] at hc
    rcases mem_or_mem_of_mem_intercalate hc with hcomma | ⟨piece, hpiece, hc⟩
    · rw [List.mem_singleton.mp hcomma]
      decide
    · rcases isGap_or_mem_trimmed hc with hgap | htrimmed
      · exact isPlainChar_of_isGap hgap
      · exact hplain _ (List.mem_map_of_mem hpiece) c htrimmed

/-- What the `Connection` headers list, as they are in no order and as their elements are in none. -/
def listings (hs : Headers) : Multiset (Multiset (List Char)) :=
  (hs.values .connection).map fun value => (elements value : Multiset (List Char))

/-- Which names are listed can be seen without any order. -/
theorem mem_listed_iff_listings :
    name ∈ listed hs ↔ ∃ es ∈ listings hs,
      (∀ e ∈ es, ∀ c ∈ e, isPlainChar c = true) ∧ ∃ e ∈ es, HeaderName.Spells e name := by
  simp only [mem_listed_iff, listings, isPlain_iff_elements, Lists, Multiset.mem_coe, List.mem_map,
    exists_exists_and_eq_and]

/-- Headers that differ at most in the order of their `Connection` headers and in the order of the
elements of these. -/
structure Rearranged (hs ks : Headers) : Prop where
  others : hs.remove .connection = ks.remove .connection
  listings : listings hs = listings ks

theorem Rearranged.strip_eq (h : Rearranged hs ks) : strip hs = strip ks := by
  have hlisted : ∀ name, name ∈ listed hs ↔ name ∈ listed ks := by
    intro name
    rw [mem_listed_iff_listings, mem_listed_iff_listings, h.listings]
  rw [strip_eq_filter_others, strip_eq_filter_others, h.others]
  apply List.filter_congr
  intro header _
  simp only [List.mem_append, hlisted]

/-! ## The result -/

/-- Nothing is added or moved, and a header that does not concern only one connection keeps all its
values. Stripping once is enough, and neither the order of `Connection` headers nor that of their
elements has a part in it. -/
theorem only_hop_headers_stripped :
    (∀ hs, (strip hs).Sublist hs ∧
      ∀ name, ¬ Concerns hs name → (strip hs).values name = hs.values name) ∧
      (∀ hs, strip (strip hs) = strip hs) ∧
      ∀ {hs ks}, Rearranged hs ks → strip hs = strip ks := by
  refine ⟨fun hs => ⟨strip_sublist hs, ?_⟩, strip_strip, Rearranged.strip_eq⟩
  intro name hname
  rw [values_strip, if_neg]
  rintro (hlisted | hfixed)
  · obtain ⟨value, hvalue, -, hlists⟩ := mem_listed_iff.mp hlisted
    exact hname (Or.inr ⟨value, hvalue, hlists⟩)
  · exact hname (Or.inl hfixed)

def keptName : HeaderName := ⟨"x-kept"⟩

/-- Headers that are listed in two places, the places themselves among them. -/
def listedTwice : Headers :=
  [(.connection, Utf8.encode "close, X-Trace"), (keptName, Utf8.encode "1"),
   (.connection, Utf8.encode "Connection,TE"), (⟨"x-trace"⟩, Utf8.encode "on"),
   (keptName, Utf8.encode "2")]

/-- The same headers, listed the other way round. -/
def listedBackwards : Headers :=
  [(keptName, Utf8.encode "1"), (⟨"x-trace"⟩, Utf8.encode "on"),
   (.connection, Utf8.encode "TE , Connection"), (keptName, Utf8.encode "2"),
   (.connection, Utf8.encode "X-Trace,close")]

/-- Both values are left of a header that is not listed, whichever way the lists are written. -/
theorem only_hop_headers_stripped_of_lists :
    ¬ Concerns listedTwice keptName ∧ Rearranged listedTwice listedBackwards ∧
      (strip listedTwice).values keptName = [Utf8.encode "1", Utf8.encode "2"] ∧
      strip (strip listedTwice) = strip listedTwice ∧
      strip listedTwice = strip listedBackwards := by
  have hunlisted : ∀ value ∈ listedTwice.values .connection, ∀ e ∈ elements value,
      e.map Char.toLower ≠ keptName.text.toList := by decide +kernel
  have hrest : ¬ Concerns listedTwice keptName := by
    rintro (hfixed | ⟨value, hvalue, e, he, hspells⟩)
    · exact absurd hfixed (by decide)
    · exact hunlisted value hvalue e he hspells.lower
  have hrearranged : Rearranged listedTwice listedBackwards := by
    constructor
    case others => decide +kernel
    case listings => decide +kernel
  obtain ⟨hkept, htwice, horder⟩ := only_hop_headers_stripped
  refine ⟨hrest, hrearranged, ?_, htwice listedTwice, horder hrearranged⟩
  rw [(hkept listedTwice).2 keptName hrest]
  rfl

end HopByHop

end Gatehouse
