import Gatehouse.Proofs.Json.Number
import Gatehouse.Proofs.Json.Text

/-!
# Printed values are scanned

What is printed for a value is scanned as that value, whatever stands behind it, as long as the
numbers in it are kept exactly and the one at its end does not go on.
-/

namespace Gatehouse

namespace Json

/-- All numbers of a value are kept exactly. -/
inductive Exact : Json → Prop
  | null : Exact null
  | bool (b : Bool) : Exact (bool b)
  | number {n : Number} (h : n.Whole) : Exact (number n)
  | text (s : String) : Exact (text s)
  | array {js : List Json} (h : ∀ j ∈ js, Exact j) : Exact (array js)
  | object {ms : List (String × Json)} (h : ∀ m ∈ ms, Exact m.2) : Exact (object ms)

theorem printText_append (s : String) (t : List Char) :
    printText s ++ t = '"' :: (s.toList.flatMap printChar ++ '"' :: t) := by
  rw [printText, List.cons_append, List.cons_append, List.append_assoc, List.singleton_append]

def printMember (m : String × Json) : List Char := printText m.1 ++ ':' :: printChars m.2

def printMoreItems (js : List Json) : List Char := js.flatMap fun j => ',' :: printChars j

def printMoreMembers (ms : List (String × Json)) : List Char :=
  ms.flatMap fun m => ',' :: printMember m

theorem printMoreItems_cons (j : Json) (js : List Json) :
    printMoreItems (j :: js) = ',' :: printChars j ++ printMoreItems js := List.flatMap_cons ..

theorem printMoreMembers_cons (m : String × Json) (ms : List (String × Json)) :
    printMoreMembers (m :: ms) = ',' :: printMember m ++ printMoreMembers ms := List.flatMap_cons ..

theorem printItems_cons (j : Json) (js : List Json) :
    printItems (j :: js) = printChars j ++ printMoreItems js := by
  induction js generalizing j with
  | nil => rw [printItems, printMoreItems, List.flatMap_nil, List.append_nil]
  | cons i js ih =>
    rw [printItems, ih i, printMoreItems_cons, List.cons_append]
    exact fun h => nomatch h

theorem printMembers_cons (m : String × Json) (ms : List (String × Json)) :
    printMembers (m :: ms) = printMember m ++ printMoreMembers ms := by
  induction ms generalizing m with
  | nil => rw [printMembers, printMoreMembers, List.flatMap_nil, List.append_nil, printMember]
  | cons n ms ih =>
    rw [printMembers, ih n, printMoreMembers_cons, List.cons_append]
    · rfl
    · exact fun h => nomatch h

/-- What a value can begin with: no blank, and not the end of an array. -/
def Opens (c : Char) : Prop := Scan.isBlank c = false ∧ c ≠ ']'

theorem ne_of_isDigit {c d : Char} (h : c.isDigit = true) (hd : d.isDigit = false) : c ≠ d := by
  rintro rfl
  rw [h] at hd
  cases hd

theorem opens_digit {c : Char} (h : c.isDigit = true) : Opens c := by
  refine ⟨?_, ne_of_isDigit h (by decide)⟩
  simp only [Scan.isBlank, Bool.or_eq_false_iff, decide_eq_false_iff_not]
  exact ⟨⟨⟨ne_of_isDigit h (by decide), ne_of_isDigit h (by decide)⟩,
    ne_of_isDigit h (by decide)⟩, ne_of_isDigit h (by decide)⟩

theorem exists_toDigits (n : Nat) : ∃ c cs, Nat.toDigits 10 n = c :: cs ∧ c.isDigit = true := by
  obtain ⟨c, cs, hcs⟩ := List.exists_cons_of_ne_nil (Nat.toDigits_ne_nil (n := n) (b := 10))
  have hmem : c ∈ Nat.toDigits 10 n := by rw [hcs]; exact List.mem_cons_self
  exact ⟨c, cs, hcs, Nat.isDigit_of_mem_toDigits (by decide) (by decide) hmem⟩

theorem exists_printChars (j : Json) (h : j.Exact) : ∃ c cs, printChars j = c :: cs ∧ Opens c := by
  cases h with
  | null => exact ⟨_, _, rfl, by decide, by decide⟩
  | bool b => cases b <;> exact ⟨_, _, rfl, by decide, by decide⟩
  | text s => exact ⟨_, _, rfl, by decide, by decide⟩
  | array => exact ⟨_, _, rfl, by decide, by decide⟩
  | object => exact ⟨_, _, rfl, by decide, by decide⟩
  | number h =>
    cases h with
    | negative => exact ⟨_, _, rfl, by decide, by decide⟩
    | @natural n =>
      obtain ⟨c, cs, hcs, hdigit⟩ := exists_toDigits n
      exact ⟨c, cs, hcs, opens_digit hdigit⟩

end Json

namespace Scan

open Json

variable {fuel : Nat} {t : List Char}

theorem value_null : value (fuel + 1) (printChars .null ++ t) = (.null, some t) := rfl

theorem value_bool (b : Bool) :
    value (fuel + 1) (printChars (.bool b) ++ t) = (.bool b, some t) := by
  cases b <;> rfl

theorem skipBlanks_cons {c : Char} (h : isBlank c = false) (s : List Char) :
    skipBlanks (c :: s) = c :: s :=
  List.dropWhile_cons_of_neg (by rw [h]; decide)

theorem value_text (s : String) :
    value (fuel + 1) (printChars (.text s) ++ t) = (.text (.ok s), some t) := by
  rw [printChars, printText_append, value, skipBlanks_cons (by decide)]
  simp [scalar, text?_printed]

/-! ## Numbers -/

variable {l : Literal} {rest : List Char}

theorem value_minus {s : List Char} (h : Literal.scan true s = .ok (l, rest)) :
    value (fuel + 1) ('-' :: s) = (number l.value, some rest) := by
  rw [value, skipBlanks_cons (by decide)]
  simp [scalar, h]

theorem value_digit {c : Char} {s : List Char} (hc : c.isDigit = true)
    (h : Literal.scan false (c :: s) = .ok (l, rest)) :
    value (fuel + 1) (c :: s) = (number l.value, some rest) := by
  rw [value, skipBlanks_cons (opens_digit hc).1]
  split
  · next heq => exact absurd (List.cons.inj heq).1 (ne_of_isDigit hc (by decide))
  · next heq => exact absurd (List.cons.inj heq).1 (ne_of_isDigit hc (by decide))
  · rw [scalar, if_pos hc]
    · simp only [h]
    all_goals exact ne_of_isDigit hc (by decide)

theorem value_number {n : Number} (h : n.Whole) (ht : Literal.Ends t) :
    value (fuel + 1) (printChars (.number n) ++ t) = (.number (.ok n), some t) := by
  cases h with
  | @natural n h =>
    obtain ⟨c, cs, hcs, hdigit⟩ := exists_toDigits n
    have hscan := Literal.scan_toDigits false n ht
    change value (fuel + 1) (Nat.toDigits 10 n ++ t) = _
    rw [hcs, List.cons_append] at hscan ⊢
    rw [value_digit hdigit hscan, ← hcs, Literal.value_natural h]
  | @negative n hpos h =>
    change value (fuel + 1) ('-' :: (Nat.toDigits 10 n ++ t)) = _
    rw [value_minus (Literal.scan_toDigits true n ht), Literal.value_negative hpos h]

/-! ## Items and members -/

theorem items_close (first : Bool) : items (fuel + 1) first (']' :: t) = (.closed, some t) := by
  cases first <;> rfl

section

variable {c : Char} {s : List Char} {v : Scan}

theorem items_first (hc : Opens c) (h : value fuel (c :: s) = (v, some t)) :
    items (fuel + 1) true (c :: s) = (.item v (items fuel false t).1, (items fuel false t).2) := by
  rw [items, skipBlanks_cons hc.1]
  split
  · next heq => cases heq
  · next heq => exact absurd (List.cons.inj heq).1 hc.2
  · next heq =>
    obtain ⟨rfl, rfl⟩ := List.cons.inj heq
    simp only [Bool.not_true, Bool.false_and, Bool.false_eq_true, ↓reduceIte, h]

theorem items_next (hc : Opens c) (h : value fuel (c :: s) = (v, some t)) :
    items (fuel + 1) false (',' :: c :: s) =
      (.item v (items fuel false t).1, (items fuel false t).2) := by
  have hmore : (skipBlanks (c :: s)).head? ≠ some ']' := by
    rw [skipBlanks_cons hc.1]
    exact fun heq => hc.2 (Option.some.inj heq)
  rw [items, skipBlanks_cons (by decide)]
  simp [hmore, h]

variable (name : String)

theorem members_close (first : Bool) :
    members (fuel + 1) first ('\x7d' :: t) = (.closed, some t) := by
  cases first <;> rfl

theorem members_first (h : value fuel s = (v, some t)) :
    members (fuel + 1) true (printText name ++ ':' :: s) =
      (.member (.ok name) v (members fuel false t).1, (members fuel false t).2) := by
  rw [printText_append, members, skipBlanks_cons (by decide)]
  simp [text?_printed, skipBlanks_cons, isBlank, h]

theorem members_next (h : value fuel s = (v, some t)) :
    members (fuel + 1) false (',' :: (printText name ++ ':' :: s)) =
      (.member (.ok name) v (members fuel false t).1, (members fuel false t).2) :=
  members_first name h

end

/-! ## Values -/

/-- A value is scanned from what is printed for it, given enough fuel: two steps for each of its
characters, since a value may have to be found as an item first. -/
def Returns (j : Json) : Prop :=
  ∀ fuel t, 2 * (printChars j).length ≤ fuel → Literal.Ends t →
    value fuel (printChars j ++ t) = (ofJson j, some t)

theorem length_printChars_pos {j : Json} (h : j.Exact) : 0 < (printChars j).length := by
  obtain ⟨c, cs, hcs, -⟩ := exists_printChars j h
  rw [hcs]
  exact Nat.succ_pos _

theorem ends_more_items (js : List Json) (t : List Char) :
    Literal.Ends (printMoreItems js ++ ']' :: t) := by
  cases js with
  | nil => exact Literal.ends_cons (by decide) t
  | cons j js => exact Literal.ends_cons (by decide) _

theorem ends_more_members (ms : List (String × Json)) (t : List Char) :
    Literal.Ends (printMoreMembers ms ++ '\x7d' :: t) := by
  cases ms with
  | nil => exact Literal.ends_cons (by decide) t
  | cons m ms => exact Literal.ends_cons (by decide) _

theorem items_more {js : List Json} (h : ∀ j ∈ js, j.Exact ∧ Returns j)
    (hfuel : 2 * (printMoreItems js).length + 1 ≤ fuel) :
    items fuel false (printMoreItems js ++ ']' :: t) = (ofItems js, some t) := by
  induction js generalizing fuel with
  | nil =>
    obtain ⟨fuel, rfl⟩ := Nat.exists_eq_add_of_le' hfuel
    exact items_close false
  | cons j js ih =>
    obtain ⟨fuel, rfl⟩ := Nat.exists_eq_add_of_le' (Nat.le_trans (Nat.le_add_left 1 _) hfuel)
    obtain ⟨⟨hexact, hj⟩, hjs⟩ := List.forall_mem_cons.mp h
    -- The step to this item is paid by its comma, the step to the next one by the item itself.
    simp only [printMoreItems_cons, List.length_append, List.length_cons] at hfuel
    have hpos := length_printChars_pos hexact
    have hvalue := hj fuel _ (by omega) (ends_more_items js t)
    obtain ⟨c, cs, hcs, hopens⟩ := exists_printChars j hexact
    rw [hcs, List.cons_append] at hvalue
    have hshape : printMoreItems (j :: js) ++ ']' :: t =
        ',' :: c :: (cs ++ (printMoreItems js ++ ']' :: t)) := by
      simp only [printMoreItems_cons, hcs, List.cons_append, List.append_assoc]
    rw [hshape, items_next hopens hvalue, ih hjs (by omega), ofItems]

theorem members_more {ms : List (String × Json)} (h : ∀ m ∈ ms, Returns m.2)
    (hfuel : 2 * (printMoreMembers ms).length + 1 ≤ fuel) :
    members fuel false (printMoreMembers ms ++ '\x7d' :: t) = (ofMembers ms, some t) := by
  induction ms generalizing fuel with
  | nil =>
    obtain ⟨fuel, rfl⟩ := Nat.exists_eq_add_of_le' hfuel
    exact members_close false
  | cons m ms ih =>
    obtain ⟨fuel, rfl⟩ := Nat.exists_eq_add_of_le' (Nat.le_trans (Nat.le_add_left 1 _) hfuel)
    obtain ⟨hm, hms⟩ := List.forall_mem_cons.mp h
    simp only [printMoreMembers_cons, printMember, List.length_append, List.length_cons] at hfuel
    have hvalue := hm fuel _ (by omega) (ends_more_members ms t)
    have hshape : printMoreMembers (m :: ms) ++ '\x7d' :: t =
        ',' :: (printText m.1 ++ ':' :: (printChars m.2 ++ (printMoreMembers ms ++ '\x7d' :: t))) := by
      simp only [printMoreMembers_cons, printMember, List.cons_append, List.append_assoc]
    rw [hshape, members_next m.1 hvalue, ih hms (by omega), ofMembers]

theorem returns_of_succ {j : Json} (hexact : j.Exact)
    (h : ∀ fuel t, 2 * (printChars j).length ≤ fuel + 1 → Literal.Ends t →
      value (fuel + 1) (printChars j ++ t) = (ofJson j, some t)) : Returns j := by
  intro fuel t hfuel ht
  have hpos := length_printChars_pos hexact
  obtain ⟨fuel, rfl⟩ : ∃ f, fuel = f + 1 := ⟨fuel - 1, by omega⟩
  exact h fuel t hfuel ht

theorem value_array (s : List Char) :
    value (fuel + 1) ('[' :: s) = (.array (items fuel true s).1, (items fuel true s).2) := rfl

theorem value_object (s : List Char) :
    value (fuel + 1) ('\x7b' :: s) = (.object (members fuel true s).1, (members fuel true s).2) := rfl

theorem items_printed {js : List Json} (h : ∀ j ∈ js, j.Exact ∧ Returns j)
    (hfuel : 2 * (printItems js).length + 1 ≤ fuel) :
    items fuel true (printItems js ++ ']' :: t) = (ofItems js, some t) := by
  obtain ⟨fuel, rfl⟩ := Nat.exists_eq_add_of_le' (Nat.le_trans (Nat.le_add_left 1 _) hfuel)
  cases js with
  | nil => exact items_close true
  | cons j js =>
    obtain ⟨⟨hexact, hj⟩, hjs⟩ := List.forall_mem_cons.mp h
    rw [printItems_cons, List.length_append] at hfuel
    have hpos := length_printChars_pos hexact
    have hvalue := hj fuel _ (by omega) (ends_more_items js t)
    obtain ⟨c, cs, hcs, hopens⟩ := exists_printChars j hexact
    rw [printItems_cons, List.append_assoc]
    rw [hcs, List.cons_append] at hvalue ⊢
    rw [items_first hopens hvalue, items_more hjs (by omega), ofItems]

theorem members_printed {ms : List (String × Json)} (h : ∀ m ∈ ms, Returns m.2)
    (hfuel : 2 * (printMembers ms).length + 1 ≤ fuel) :
    members fuel true (printMembers ms ++ '\x7d' :: t) = (ofMembers ms, some t) := by
  obtain ⟨fuel, rfl⟩ := Nat.exists_eq_add_of_le' (Nat.le_trans (Nat.le_add_left 1 _) hfuel)
  cases ms with
  | nil => exact members_close true
  | cons m ms =>
    obtain ⟨hm, hms⟩ := List.forall_mem_cons.mp h
    simp only [printMembers_cons, printMember, List.length_append, List.length_cons] at hfuel
    have hvalue := hm fuel _ (by omega) (ends_more_members ms t)
    have hshape : printMembers (m :: ms) ++ '\x7d' :: t =
        printText m.1 ++ ':' :: (printChars m.2 ++ (printMoreMembers ms ++ '\x7d' :: t)) := by
      simp only [printMembers_cons, printMember, List.cons_append, List.append_assoc]
    rw [hshape, members_first m.1 hvalue, members_more hms (by omega), ofMembers]

theorem returns {j : Json} (h : j.Exact) : Returns j := by
  induction h with
  | null => exact returns_of_succ .null fun _ _ _ _ => value_null
  | bool b => exact returns_of_succ (.bool b) fun _ _ _ _ => value_bool b
  | number h => exact returns_of_succ (.number h) fun _ _ _ ht => value_number h ht
  | text s => exact returns_of_succ (.text s) fun _ _ _ _ => value_text s
  | @array js h ih =>
    refine returns_of_succ (.array h) fun fuel t hfuel _ => ?_
    have hitems : items fuel true (printItems js ++ ']' :: t) = (ofItems js, some t) := by
      refine items_printed (fun j hj => ⟨h j hj, ih j hj⟩) ?_
      simp only [printChars, List.length_cons, List.length_append, List.length_nil] at hfuel
      omega
    rw [printChars, List.cons_append, List.cons_append, value_array, List.append_assoc,
      List.singleton_append, hitems, ofJson]
  | @object ms h ih =>
    refine returns_of_succ (.object h) fun fuel t hfuel _ => ?_
    have hmembers : members fuel true (printMembers ms ++ '\x7d' :: t) = (ofMembers ms, some t) := by
      refine members_printed ih ?_
      simp only [printChars, List.length_cons, List.length_append, List.length_nil] at hfuel
      omega
    rw [printChars, List.cons_append, List.cons_append, value_object, List.append_assoc,
      List.singleton_append, hmembers, ofJson]

/-- A document is scanned as the value that it was printed for, and nothing is left of it. -/
theorem document_print {j : Json} (h : j.Exact) : document j.print.toList = (ofJson j, true) := by
  have hvalue := returns h (2 * (printChars j).length + 2) [] (by omega) Literal.ends_nil
  rw [List.append_nil] at hvalue
  rw [Json.print, String.toList_ofList, document, hvalue]
  rfl

end Scan

end Gatehouse
