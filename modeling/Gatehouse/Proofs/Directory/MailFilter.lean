import Gatehouse.Directory.MailFilter
import Mathlib.Tactic

/-!
# Filters are read back

What the literal of a filter stands for is laid down by a grammar: two quotes stand for one, and the
first quote that is not doubled ends it. Whatever quotes an address holds, the filter made for it is
the one text that the grammar reads as this address with nothing behind it. So two addresses never
have the same filter.
-/

namespace Gatehouse.MailFilter

/-- A literal behind its opening quote, the text that it stands for, and what follows it. -/
inductive Literal : List Char → List Char → List Char → Prop
  | close {rest : List Char} (h : rest.head? ≠ some '\'') : Literal ('\'' :: rest) [] rest
  | quote {cs text rest : List Char} (h : Literal cs text rest) :
    Literal ('\'' :: '\'' :: cs) ('\'' :: text) rest
  | char {c : Char} {cs text rest : List Char} (hc : c ≠ '\'') (h : Literal cs text rest) :
    Literal (c :: cs) (c :: text) rest

/-- A filter by mail address, the address in its literal, and what follows it. -/
def Reads (query address : String) (rest : List Char) : Prop :=
  ∃ cs, query.toList = opening ++ cs ∧ Literal cs address.toList rest

theorem literal_escape (text : List Char) {rest : List Char} (h : rest.head? ≠ some '\'') :
    Literal (escape text ++ '\'' :: rest) text rest := by
  induction text with
  | nil => exact .close h
  | cons c cs ih =>
    by_cases hc : c = '\''
    · subst hc
      exact .quote ih
    · simpa [escape, hc] using Literal.char hc ih

theorem Literal.eq_escape {cs text rest : List Char} (h : Literal cs text rest) :
    cs = escape text ++ '\'' :: rest ∧ rest.head? ≠ some '\'' := by
  induction h with
  | close h => exact ⟨rfl, h⟩
  | quote _ ih => exact ⟨by simp [escape, ih.1], ih.2⟩
  | char hc _ ih => exact ⟨by simp [escape, hc, ih.1], ih.2⟩

theorem literal?_eq_some_iff {cs text rest : List Char} :
    literal? cs = some (text, rest) ↔ Literal cs text rest := by
  constructor
  · intro h
    fun_induction literal? cs generalizing text rest with
    | case1 => cases h
    | case2 cs ih =>
      obtain ⟨⟨text, rest⟩, hread, heq⟩ := Option.map_eq_some_iff.mp h
      cases heq
      exact .quote (ih hread)
    | case3 cs hsingle =>
      cases h
      apply Literal.close
      intro hquote
      obtain ⟨tail, rfl⟩ := List.head?_eq_some_iff.mp hquote
      exact hsingle tail rfl
    | case4 c cs _ hc ih =>
      obtain ⟨⟨text, rest⟩, hread, heq⟩ := Option.map_eq_some_iff.mp h
      cases heq
      exact .char hc (ih hread)
  · intro h
    induction h with
    | @close rest hrest =>
      cases rest with
      | nil => rfl
      | cons c rest =>
        have hc : c ≠ '\'' := by simpa using hrest
        simp [literal?, hc]
    | quote _ ih => simp [literal?, ih]
    | char hc _ ih => simp [literal?, hc, ih]

/-- A text is a literal in one way only, since there is a reader. -/
theorem Literal.unique {cs text rest : List Char} (h : Literal cs text rest)
    {other behind : List Char} (h' : Literal cs other behind) : other = text ∧ behind = rest := by
  have hread : some (other, behind) = some (text, rest) :=
    (literal?_eq_some_iff.mpr h').symm.trans (literal?_eq_some_iff.mpr h)
  exact Prod.mk.inj (Option.some.inj hread)

theorem address?_eq_some_iff {query address : String} {rest : List Char} :
    address? query = some (address, rest) ↔ Reads query address rest := by
  unfold address? Reads
  constructor
  · intro h
    obtain ⟨cs, hopening, h⟩ := Option.bind_eq_some_iff.mp h
    obtain ⟨⟨text, behind⟩, hread, heq⟩ := Option.map_eq_some_iff.mp h
    cases heq
    refine ⟨cs, (List.isPrefixOf?_eq_some_iff_append_eq.mp hopening).symm, ?_⟩
    rw [String.toList_ofList]
    exact literal?_eq_some_iff.mp hread
  · rintro ⟨cs, hquery, hliteral⟩
    have hopening : opening.isPrefixOf? query.toList = some cs :=
      List.isPrefixOf?_eq_some_iff_append_eq.mpr hquery.symm
    simp only [hopening, Option.bind_some, literal?_eq_some_iff.mpr hliteral, Option.map_some,
      String.ofList_toList]

theorem toList_filter (email : String) :
    (filter email).toList = opening ++ (escape email.toList ++ ['\'']) := by
  rw [filter, String.toList_ofList, List.append_assoc]

/-- A filter is read as the address that it was made for, and in no other way. -/
theorem reads_filter_iff {email address : String} {rest : List Char} :
    Reads (filter email) address rest ↔ address = email ∧ rest = [] := by
  have hliteral : Literal (escape email.toList ++ ['\'']) email.toList [] :=
    literal_escape _ (by simp)
  constructor
  · rintro ⟨cs, hquery, h⟩
    rw [toList_filter] at hquery
    obtain rfl := List.append_cancel_left hquery
    obtain ⟨haddress, hrest⟩ := hliteral.unique h
    exact ⟨String.toList_inj.mp haddress, hrest⟩
  · rintro ⟨rfl, rfl⟩
    exact ⟨_, toList_filter _, hliteral⟩

theorem reads_nil_iff {query email : String} : Reads query email [] ↔ query = filter email := by
  constructor
  · rintro ⟨cs, hquery, h⟩
    apply String.toList_inj.mp
    rw [hquery, h.eq_escape.1, toList_filter]
  · rintro rfl
    exact reads_filter_iff.mpr ⟨rfl, rfl⟩

theorem filter_injective : Function.Injective filter := by
  intro email other h
  have hreads : Reads (filter email) email [] := reads_filter_iff.mpr ⟨rfl, rfl⟩
  rw [h] at hreads
  exact (reads_filter_iff.mp hreads).1

end Gatehouse.MailFilter
