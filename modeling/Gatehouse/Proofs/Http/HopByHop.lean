import Gatehouse.Http.HopByHop
import Mathlib.Data.List.DropRight
import Mathlib.Tactic

/-!
# What is left of the headers

Stripping takes away the values of a name altogether or not at all: they go exactly if the name is
one of the nine or is listed by a `Connection` header. A value lists the names that its elements
are, in any case, but only a value of plain text is looked at.
-/

namespace Gatehouse

namespace Headers

theorem has_eq_true (hs : Headers) (name : HeaderName) :
    hs.has name = true ↔ hs.values name ≠ [] := by
  simp [has, values, List.filterMap_eq_nil_iff]

/-- Names are removed one after the other, but each takes away its own values only. -/
theorem values_foldl_remove (names : List HeaderName) (hs : Headers) (name : HeaderName) :
    values (names.foldl remove hs) name = if name ∈ names then [] else hs.values name := by
  induction names generalizing hs with
  | nil => simp
  | cons first rest ih =>
    rw [List.foldl_cons, ih, values_remove]
    by_cases h : first = name
    · simp [h]
    · simp [h, Ne.symm h]

end Headers

/-! ## Names in values -/

/-- Whether characters are a name, in any case. -/
structure HeaderName.Spells (cs : List Char) (name : HeaderName) : Prop where
  nonempty : cs ≠ []
  fits : cs.length ≤ maxLength
  token : ∀ c ∈ cs, isTokenChar c = true
  lower : cs.map Char.toLower = name.text.toList

theorem HeaderName.ofText?_eq_some_iff {cs : List Char} {name : HeaderName} :
    ofText? (String.ofList cs) = some name ↔ Spells cs name := by
  simp only [ofText?, String.toList_ofList]
  constructor
  · intro h
    split_ifs at h with hcs
    obtain rfl := Option.some.inj h
    obtain ⟨hne, hlength, htoken⟩ := hcs
    exact ⟨hne, hlength, List.all_eq_true.mp htoken, String.toList_ofList.symm⟩
  · intro h
    rw [if_pos ⟨h.nonempty, h.fits, List.all_eq_true.mpr h.token⟩, h.lower, String.ofList_toList]

theorem dropWhile_congr {α : Type} {p q : α → Bool} {xs : List α} (h : ∀ x ∈ xs, p x = q x) :
    xs.dropWhile p = xs.dropWhile q := by
  induction xs with
  | nil => rfl
  | cons x xs ih =>
    have hx : p x = q x := h x List.mem_cons_self
    have ih := ih fun y hy => h y (List.mem_cons_of_mem x hy)
    simp only [List.dropWhile_cons, hx, ih]

theorem mem_of_mem_splitOn {α : Type} [BEq α] {a x : α} {xs piece : List α}
    (h : piece ∈ xs.splitOn a) (hx : x ∈ piece) : x ∈ xs := by
  induction xs generalizing piece with
  | nil =>
    rw [List.splitOn_nil, List.mem_singleton] at h
    rwa [h] at hx
  | cons y ys ih =>
    rw [List.splitOn_cons_eq_if_modifyHead] at h
    split_ifs at h
    · rcases List.mem_cons.mp h with rfl | h
      · cases hx
      · exact List.mem_cons_of_mem y (ih h hx)
    · obtain ⟨first, rest, hsplit⟩ := List.exists_cons_of_ne_nil (List.splitOn_ne_nil a ys)
      rw [hsplit, List.modifyHead_cons, List.mem_cons] at h
      rcases h with rfl | h
      · rcases List.mem_cons.mp hx with rfl | hx
        · exact List.mem_cons_self
        · exact List.mem_cons_of_mem y (ih (hsplit ▸ List.mem_cons_self) hx)
      · exact List.mem_cons_of_mem y (ih (hsplit ▸ List.mem_cons_of_mem first h) hx)

namespace HopByHop

/-- The white space that may stand around an element. -/
def isGap (c : Char) : Bool := c == ' ' || c == '\t'

/-- The elements of a value: what stands between its commas, less the white space around. Each byte
is one character. -/
def elements (value : Bytes) : List (List Char) :=
  ((value.map fun b => Char.ofNat b.toNat).splitOn ',').map fun e =>
    (e.dropWhile isGap).rdropWhile isGap

/-- Whether an element of a value is a name. -/
def Lists (value : Bytes) (name : HeaderName) : Prop :=
  ∃ e ∈ elements value, HeaderName.Spells e name

variable {value : Bytes} {name : HeaderName} {hs : Headers}

theorem isBlank_of_plain {b : UInt8} (h : (b ≥ 32 && b < 127 || b == 9) = true) :
    Unicode.isBlank (Char.ofNat b.toNat) = isGap (Char.ofNat b.toNat) := by
  have hall : ∀ n < 127, 32 ≤ n ∨ n = 9 →
      Unicode.isBlank (Char.ofNat n) = isGap (Char.ofNat n) := by decide
  simp only [ge_iff_le, Bool.or_eq_true, Bool.and_eq_true, decide_eq_true_eq, beq_iff_eq,
    UInt8.le_iff_toNat_le, UInt8.lt_iff_toNat_lt, ← UInt8.toNat_inj] at h
  rcases h with ⟨hlow, hhigh⟩ | htab
  · exact hall _ hhigh (Or.inl hlow)
  · exact hall _ (htab.trans_lt (by decide)) (Or.inr htab)

theorem trim_eq {cs : List Char} (h : ∀ c ∈ cs, Unicode.isBlank c = isGap c) :
    Unicode.trim cs = (cs.dropWhile isGap).rdropWhile isGap := by
  rw [Unicode.trim, dropWhile_congr h, List.rdropWhile]
  refine congrArg List.reverse (dropWhile_congr ?_)
  intro c hc
  exact h c (List.dropWhile_subset _ (List.mem_reverse.mp hc))

theorem listedIn_of_plain (h : HeaderValue.isPlain value = true) :
    listedIn value = (elements value).filterMap fun e => HeaderName.ofText? (String.ofList e) := by
  simp only [listedIn, HeaderValue.text?, if_pos h, String.toList_ofList, elements,
    List.filterMap_map]
  apply List.filterMap_congr
  intro e he
  rw [Function.comp_apply, trim_eq]
  intro c hc
  obtain ⟨b, hb, rfl⟩ := List.mem_map.mp (mem_of_mem_splitOn he hc)
  exact isBlank_of_plain (List.all_eq_true.mp h b hb)

/-- A value lists its elements if it is plain text, and nothing if it is not. -/
theorem mem_listedIn_iff :
    name ∈ listedIn value ↔ HeaderValue.isPlain value = true ∧ Lists value name := by
  by_cases hplain : HeaderValue.isPlain value = true
  · simp only [listedIn_of_plain hplain, hplain, true_and, Lists, List.mem_filterMap,
      HeaderName.ofText?_eq_some_iff]
  · simp [listedIn, HeaderValue.text?, hplain]

theorem mem_listed_iff : name ∈ listed hs ↔
    ∃ value ∈ hs.values .connection, HeaderValue.isPlain value = true ∧ Lists value name := by
  simp only [listed, List.mem_flatMap, mem_listedIn_iff]

/-! ## What stripping leaves -/

theorem values_strip (hs : Headers) (name : HeaderName) :
    (strip hs).values name = if name ∈ listed hs ∨ name ∈ fixedNames then [] else hs.values name := by
  rw [strip, Headers.values_foldl_remove]
  simp only [List.mem_append]

theorem listed_congr {hs ks : Headers} (h : hs.values .connection = ks.values .connection) :
    listed hs = listed ks := by
  simp [listed, h]

end HopByHop

end Gatehouse
