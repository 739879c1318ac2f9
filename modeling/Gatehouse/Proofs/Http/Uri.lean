import Gatehouse.Http.Uri
import Mathlib.Data.List.TakeWhile
import Mathlib.Tactic

/-!
# Targets that are full addresses

A text that begins with a scheme, two slashes, an authority and a slash can only be read in one way:
as this scheme, this authority and the path from the slash on. So nobody who writes the path has a
say in the rest.
-/

namespace Gatehouse.Uri

/-- The text of a full address. -/
def absolute (scheme authority path : List Char) : List Char :=
  scheme ++ ':' :: '/' :: '/' :: (authority ++ path)

variable {scheme authority path : List Char}

theorem readPath_eq_ok {cs : List Char} {read : String × Option String}
    (h : readPath cs = .ok read) :
    read.1.toList = (cs.takeWhile (· ≠ '#')).takeWhile (· ≠ '?') ∧
      (∀ c ∈ read.1.toList, isPathChar c = true) ∧
      ∀ q, read.2 = some q → ∀ c ∈ q.toList, isQueryChar c = true := by
  simp only [readPath] at h
  split_ifs at h with hpath
  have hall : ∀ c ∈ (cs.takeWhile (· ≠ '#')).takeWhile (· ≠ '?'), isPathChar c = true := by
    simpa using hpath
  split at h
  · obtain rfl := Except.ok.inj h
    exact ⟨String.toList_ofList, by rwa [String.toList_ofList], nofun⟩
  · split_ifs at h with hquery
    obtain rfl := Except.ok.inj h
    refine ⟨String.toList_ofList, by rwa [String.toList_ofList], fun q hq => ?_⟩
    obtain rfl := Option.some.inj hq
    rw [String.toList_ofList]
    exact List.all_eq_true.mp hquery

theorem exists_tail (h : path.head? = some '/') : ∃ tail, path = '/' :: tail := by
  cases path with
  | nil => cases h
  | cons c tail => exact ⟨tail, by rw [Option.some.inj h]⟩

theorem takeWhile_absolute (h : ∀ c ∈ scheme, isSchemeChar c = true) :
    (absolute scheme authority path).takeWhile isSchemeChar = scheme := by
  rw [absolute, List.takeWhile_append_of_pos h]
  simp [isSchemeChar]

theorem dropWhile_absolute (h : ∀ c ∈ scheme, isSchemeChar c = true) :
    (absolute scheme authority path).dropWhile isSchemeChar =
      ':' :: '/' :: '/' :: (authority ++ path) := by
  rw [absolute, List.dropWhile_append_of_pos h]
  rfl

/-- A scheme that a target can have: one of the web, or a short one. -/
def SchemeFits (scheme : String) : Prop :=
  scheme = "http" ∨ scheme = "https" ∨ scheme.length ≤ 64

instance (scheme : String) : Decidable (SchemeFits scheme) :=
  inferInstanceAs (Decidable (_ ∨ _ ∨ _))

theorem readScheme_absolute_eq (h : ∀ c ∈ scheme, isSchemeChar c = true)
    (hlower : ∀ c ∈ scheme, c.toLower = c) (hpath : path ≠ []) :
    readScheme (absolute scheme authority path) =
      if SchemeFits (String.ofList scheme) then
        .ok (some (String.ofList scheme, authority ++ path))
      else .error .schemeTooLong := by
  have hmap : scheme.map Char.toLower = scheme :=
    (List.map_congr_left hlower).trans (List.map_id'' (fun _ => rfl) _)
  have hlength : (absolute scheme authority path).length > 3 := by
    have hpos := List.length_pos_of_ne_nil hpath
    simp only [absolute, List.length_append, List.length_cons]
    omega
  simp only [readScheme, takeWhile_absolute h, dropWhile_absolute h, hmap, if_pos hlength]
  by_cases hweb : String.ofList scheme = "http" ∨ String.ofList scheme = "https"
  · rw [if_pos hweb, if_pos (by rwa [SchemeFits, ← or_assoc, or_iff_left_of_imp fun _ => hweb])]
  · rw [if_neg hweb, ← ite_not]
    congr 1
    simp [SchemeFits, ← or_assoc, hweb]

theorem length_absolute (scheme authority path : List Char) :
    3 ≤ (absolute scheme authority path).length := by
  simp only [absolute, List.length_append, List.length_cons]
  omega

theorem head?_absolute (h : ∀ c ∈ scheme, isSchemeChar c = true) (authority path : List Char) :
    (absolute scheme authority path).head? ≠ some '/' := by
  cases scheme with
  | nil => simp [absolute]
  | cons c scheme =>
    intro hslash
    obtain rfl : c = '/' := Option.some.inj hslash
    exact absurd (h '/' List.mem_cons_self) (by decide)

/-- A text of this form is read as a full address, if it is not too long. -/
theorem parse_absolute_eq (h : ∀ c ∈ scheme, isSchemeChar c = true) :
    parse (String.ofList (absolute scheme authority path)) =
      if (String.ofList (absolute scheme authority path)).utf8ByteSize > maxLength then
        .error .tooLong
      else readFull (absolute scheme authority path) := by
  have hlength := length_absolute scheme authority path
  have hhead := head?_absolute h authority path
  unfold parse
  rw [String.toList_ofList]
  generalize absolute scheme authority path = cs at *
  split_ifs
  · rfl
  · split
    · simp at hlength
    · simp at hlength
    · exact absurd rfl hhead
    · simp at hlength
    · rfl

theorem readAuthority_eq_ok {cs : List Char} {read : List Char × List Char}
    (h : readAuthority cs = .ok read) :
    read = (cs.takeWhile fun c => !endsAuthority c, cs.dropWhile fun c => !endsAuthority c) := by
  unfold readAuthority at h
  simp only [bind, Except.bind] at h
  split at h
  · cases h
  · split_ifs at h
    exact (Except.ok.inj h).symm

theorem readAuthority_absolute (h : ∀ c ∈ authority, endsAuthority c = false)
    (hpath : path.head? = some '/') {read : List Char × List Char}
    (hread : readAuthority (authority ++ path) = .ok read) : read = (authority, path) := by
  have hgoes : ∀ c ∈ authority, (!endsAuthority c) = true := fun c hc => by rw [h c hc]; rfl
  obtain ⟨tail, rfl⟩ := exists_tail hpath
  rw [readAuthority_eq_ok hread, List.takeWhile_append_of_pos hgoes,
    List.dropWhile_append_of_pos hgoes]
  simp [endsAuthority]

/-- What can be read without a leading slash: an authority alone, or all parts of an address. -/
theorem readFull_eq_ok {cs : List Char} {u : Uri} (h : readFull cs = .ok u) :
    (readScheme cs = .ok none ∧ u.path = "" ∧ u.query = none) ∨
      ∃ scheme rest behind read, readScheme cs = .ok (some (scheme, rest)) ∧
        readAuthority rest = .ok behind ∧ behind.1 ≠ [] ∧ readPath behind.2 = .ok read ∧
        u = { scheme := some scheme
              authority := some (String.ofList behind.1)
              path := if read.1 = "" then "/" else read.1
              query := read.2 } := by
  unfold readFull at h
  simp only [bind, Except.bind] at h
  cases hscheme : readScheme cs with
  | error e =>
    rw [hscheme] at h
    cases h
  | ok given =>
    cases given with
    | none =>
      simp only [hscheme] at h
      split at h
      · cases h
      · split_ifs at h
        obtain rfl := Except.ok.inj h
        exact Or.inl ⟨rfl, rfl, rfl⟩
    | some given =>
      obtain ⟨scheme, rest⟩ := given
      simp only [hscheme] at h
      cases hauthority : readAuthority rest with
      | error e =>
        rw [hauthority] at h
        cases h
      | ok behind =>
        simp only [hauthority] at h
        split_ifs at h with hempty
        cases hpath : readPath behind.2 with
        | error e =>
          rw [hpath] at h
          cases h
        | ok read =>
          simp only [hpath] at h
          exact Or.inr ⟨scheme, rest, behind, read, rfl, hauthority, hempty, hpath,
            (Except.ok.inj h).symm⟩

theorem parse_absolute (hscheme : ∀ c ∈ scheme, isSchemeChar c = true)
    (hlower : ∀ c ∈ scheme, c.toLower = c) (hauthority : ∀ c ∈ authority, endsAuthority c = false)
    (hpath : path.head? = some '/') {u : Uri}
    (h : parse (String.ofList (absolute scheme authority path)) = .ok u) :
    u.scheme = some (String.ofList scheme) ∧ u.authority = some (String.ofList authority) ∧
      authority ≠ [] ∧ readPath path = .ok (u.path, u.query) := by
  obtain ⟨tail, rfl⟩ := exists_tail hpath
  rw [parse_absolute_eq hscheme] at h
  split_ifs at h
  rcases readFull_eq_ok h with ⟨hnone, -⟩ |
    ⟨scheme', rest, behind, read, hgiven, hbehind, hne, hread, rfl⟩
  · rw [readScheme_absolute_eq hscheme hlower (List.cons_ne_nil _ _)] at hnone
    split_ifs at hnone
    cases hnone
  · rw [readScheme_absolute_eq hscheme hlower (List.cons_ne_nil _ _)] at hgiven
    split_ifs at hgiven
    obtain ⟨rfl, rfl⟩ := Prod.mk.inj (Option.some.inj (Except.ok.inj hgiven))
    obtain rfl := readAuthority_absolute hauthority hpath hbehind
    have hslash : read.1 ≠ "" := by
      intro hnil
      have hfront := (readPath_eq_ok hread).1
      rw [hnil] at hfront
      cases hfront
    refine ⟨rfl, rfl, hne, ?_⟩
    rw [if_neg hslash]
    exact hread

/-! ## Characters of targets -/

theorem visible_of_isPathChar {c : Char} (h : isPathChar c = true) :
    0x20 < c.toNat ∧ c ≠ '?' ∧ c ≠ '#' := by
  have hsign : isPathChar '#' = false := by decide
  have hmark : isPathChar '?' = false := by decide
  refine ⟨?_, ?_, ?_⟩
  · simp only [isPathChar, Bool.or_eq_true, beq_iff_eq, Bool.and_eq_true, decide_eq_true_eq] at h
    omega
  · rintro rfl
    rw [hmark] at h
    cases h
  · rintro rfl
    rw [hsign] at h
    cases h

theorem visible_of_isQueryChar {c : Char} (h : isQueryChar c = true) : 0x20 < c.toNat ∧ c ≠ '#' := by
  have hsign : isQueryChar '#' = false := by decide
  constructor
  · simp only [isQueryChar, Bool.or_eq_true, beq_iff_eq, Bool.and_eq_true, decide_eq_true_eq] at h
    omega
  · rintro rfl
    rw [hsign] at h
    cases h

theorem chars_parse {s : String} {u : Uri} (h : parse s = .ok u) :
    (∀ c ∈ u.path.toList, isPathChar c = true) ∧
      ∀ q, u.query = some q → ∀ c ∈ q.toList, isQueryChar c = true := by
  unfold parse at h
  split_ifs at h
  split at h
  · cases h
  · obtain rfl := Except.ok.inj h
    exact ⟨List.all_eq_true.mp rfl, nofun⟩
  · simp only [bind, Except.bind] at h
    split at h
    · cases h
    · rename_i hpath
      obtain rfl := Except.ok.inj h
      exact (readPath_eq_ok hpath).2
  · simp only [bind, Except.bind] at h
    split at h
    · cases h
    · split_ifs at h
      obtain rfl := Except.ok.inj h
      exact ⟨List.forall_mem_nil _, nofun⟩
  · rcases readFull_eq_ok h with ⟨-, hempty, hnone⟩ | ⟨_, _, _, read, -, -, -, hpath, rfl⟩
    · exact ⟨by rw [hempty]; exact List.forall_mem_nil _, by rw [hnone]; exact nofun⟩
    · obtain ⟨-, hchars, hquery⟩ := readPath_eq_ok hpath
      refine ⟨?_, hquery⟩
      simp only
      split_ifs
      · exact List.all_eq_true.mp rfl
      · exact hchars

theorem queryChars_parse {s : String} {u : Uri} (h : parse s = .ok u) :
    ∀ c ∈ (u.query.getD "").toList, isQueryChar c = true := by
  cases hq : u.query with
  | none => exact List.forall_mem_nil _
  | some q => exact (chars_parse h).2 q hq

theorem head?_path_parse {s : String} {u : Uri} (h : parse s = .ok u)
    (hslash : s.toList.head? = some '/') : u.path.toList.head? = some '/' := by
  obtain ⟨rest, hrest⟩ := exists_tail hslash
  unfold parse at h
  rw [hrest] at h
  split_ifs at h
  simp only [bind, Except.bind] at h
  split at h
  · cases h
  · rename_i read hread
    obtain rfl := Except.ok.inj h
    rw [(readPath_eq_ok hread).1]
    rfl

/-- What is written with characters of paths, and after a question mark with characters of queries,
is read as it stands. -/
theorem readPath_append {query : List Char} (hpath : ∀ c ∈ path, isPathChar c = true)
    (hquery : ∀ c ∈ query, isQueryChar c = true) :
    readPath (path ++ '?' :: query) = .ok (String.ofList path, some (String.ofList query)) := by
  have hgoes : ∀ c ∈ path, decide (c ≠ '?') = true := fun c hc =>
    decide_eq_true (visible_of_isPathChar (hpath c hc)).2.1
  have hvisible : (path ++ '?' :: query).takeWhile (· ≠ '#') = path ++ '?' :: query := by
    refine List.takeWhile_eq_self_iff.mpr fun c hc => ?_
    rcases List.mem_append.mp hc with hc | hc
    · exact decide_eq_true (visible_of_isPathChar (hpath c hc)).2.2
    · rcases List.mem_cons.mp hc with rfl | hc
      · rfl
      · exact decide_eq_true (visible_of_isQueryChar (hquery c hc)).2
  have hfront : (path ++ '?' :: query).takeWhile (· ≠ '?') = path := by
    rw [List.takeWhile_append_of_pos hgoes, List.takeWhile_cons_of_neg (by decide), List.append_nil]
  have hbehind : (path ++ '?' :: query).dropWhile (· ≠ '?') = '?' :: query := by
    rw [List.dropWhile_append_of_pos hgoes, List.dropWhile_cons_of_neg (by decide)]
  simp only [readPath, hvisible, hfront, hbehind, List.all_eq_true.mpr hpath,
    List.all_eq_true.mpr hquery]
  rfl

theorem readPath_of_isPathChar (hpath : ∀ c ∈ path, isPathChar c = true) :
    readPath path = .ok (String.ofList path, none) := by
  have hvisible : path.takeWhile (· ≠ '#') = path :=
    List.takeWhile_eq_self_iff.mpr fun c hc => decide_eq_true (visible_of_isPathChar (hpath c hc)).2.2
  have hfront : path.takeWhile (· ≠ '?') = path :=
    List.takeWhile_eq_self_iff.mpr fun c hc => decide_eq_true (visible_of_isPathChar (hpath c hc)).2.1
  have hbehind : path.dropWhile (· ≠ '?') = [] :=
    List.dropWhile_eq_nil_iff.mpr fun c hc => decide_eq_true (visible_of_isPathChar (hpath c hc)).2.1
  simp only [readPath, hvisible, hfront, hbehind, List.all_eq_true.mpr hpath]
  rfl

end Gatehouse.Uri
