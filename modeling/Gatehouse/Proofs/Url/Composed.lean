import Gatehouse.Proofs.Http.Uri
import Gatehouse.Proofs.Url.Parse

/-!
# Addresses that were put together

An address of the web that was put together from a scheme, the characters of a host and a path is
read so that its path is what is read of that path alone: neither of the two runs into the other.
-/

namespace Gatehouse.Url

theorem significant_ofList {cs : List Char} (h : ∀ c ∈ cs, 0x20 < c.toNat) :
    significant (String.ofList cs) = cs := by
  have hdrop : ∀ {cs : List Char}, (∀ c ∈ cs, 0x20 < c.toNat) →
      cs.dropWhile (fun c => decide (c.toNat ≤ 0x20)) = cs := by
    intro cs h
    cases cs with
    | nil => rfl
    | cons c rest =>
      rw [List.dropWhile_cons_of_neg]
      simpa using h c List.mem_cons_self
  have hreverse : ∀ c ∈ cs.reverse, 0x20 < c.toNat := fun c hc => h c (List.mem_reverse.mp hc)
  simp only [significant, String.toList_ofList]
  rw [hdrop h, hdrop hreverse, List.reverse_reverse, List.filter_eq_self]
  intro c hc
  have hpos := h c hc
  have hblank : c ≠ '\t' ∧ c ≠ '\n' ∧ c ≠ '\r' := by
    refine ⟨?_, ?_, ?_⟩
    all_goals
      rintro rfl
      exact absurd hpos (by decide)
  simpa using hblank

theorem kind_web {scheme : String} (h : scheme = "http" ∨ scheme = "https") :
    SchemeKind.ofName scheme = .web := by
  rcases h with rfl | rfl
  · rfl
  · rfl

theorem readScheme_web {scheme : String} (h : scheme = "http" ∨ scheme = "https")
    (rest : List Char) : readScheme (scheme.toList ++ ':' :: rest) = some (scheme, rest) := by
  rcases h with rfl | rfl
  · rfl
  · rfl

section Authority

variable {authority : List Char} (h : ∀ c ∈ authority, isHostChar c = true) (tail : List Char)

include h

theorem endsAuthority_of_isHostChar : ∀ c ∈ authority, endsAuthority .web c = false := by
  intro c hc
  obtain ⟨-, hsign, hslash, hmark, -, hback⟩ := isHostChar_iff.mp (h c hc)
  simp [endsAuthority, hsign, hslash, hmark, hback]

theorem readUserinfo_append :
    readUserinfo .web (authority ++ '/' :: tail) = .ok ("", none, authority ++ '/' :: tail) := by
  have hgoes : ∀ c ∈ authority, (!endsAuthority .web c) = true :=
    fun c hc => by rw [endsAuthority_of_isHostChar h c hc]; rfl
  have htake :
      (authority ++ '/' :: tail).takeWhile (fun c => !endsAuthority .web c) = authority := by
    rw [List.takeWhile_append_of_pos hgoes]
    simp [endsAuthority]
  have hat : authority.contains '@' = false := by
    by_contra hmem
    obtain ⟨-, -, -, -, hne, -⟩ := isHostChar_iff.mp (h '@' (by simpa using hmem))
    exact hne rfl
  simp only [readUserinfo, htake, hat]
  rfl

/-- The host ends in front of a port or of the path. -/
theorem spanHost_append (bracket : Bool) :
    ∃ host port, authority = host ++ port ∧ (port = [] ∨ port.head? = some ':') ∧
      spanHost .web bracket (authority ++ '/' :: tail) = (host, port ++ '/' :: tail) := by
  induction authority generalizing bracket with
  | nil => exact ⟨[], [], rfl, Or.inl rfl, rfl⟩
  | cons c rest ih =>
    have hc : endsAuthority .web c = false := endsAuthority_of_isHostChar h c List.mem_cons_self
    rw [List.cons_append, spanHost]
    by_cases hcolon : c = ':' ∧ ¬ bracket = true
    · rw [if_pos (Or.inl hcolon), hcolon.1]
      exact ⟨[], ':' :: rest, rfl, Or.inr rfl, rfl⟩
    · have hgoes : ¬ ((c = ':' ∧ ¬ bracket = true) ∨ endsAuthority .web c = true) := by
        rw [hc, or_iff_left Bool.false_ne_true]
        exact hcolon
      rw [if_neg hgoes]
      obtain ⟨host, port, rfl, hport, hspan⟩ :=
        ih (fun c hc => h c (List.mem_cons_of_mem _ hc))
          (if c = '[' then true else if c = ']' then false else bracket)
      refine ⟨c :: host, port, rfl, hport, ?_⟩
      simp only [hspan]

theorem readPort_append {port : Nat} {digits : Bool} {read : Option Nat × List Char}
    (hread : readPort port digits (authority ++ '/' :: tail) = .ok read) :
    read.2 = '/' :: tail := by
  induction authority generalizing port digits with
  | nil =>
    obtain rfl := Except.ok.inj hread
    rfl
  | cons c rest ih =>
    obtain ⟨-, hsign, hslash, hmark, -, hback⟩ := isHostChar_iff.mp (h c List.mem_cons_self)
    rw [List.cons_append, readPort] at hread
    by_cases hdigit : c.isDigit = true
    · rw [if_pos hdigit] at hread
      dsimp only at hread
      split_ifs at hread
      exact ih (fun c hc => h c (List.mem_cons_of_mem _ hc)) hread
    · rw [if_neg hdigit, if_neg (by simp [hsign, hslash, hmark, hback])] at hread
      cases hread

/-- The path of an address begins behind its authority. -/
theorem path_of_readAuthority {scheme : String} {u : Url}
    (hread : readAuthority scheme .web (authority ++ '/' :: tail) = .ok u) :
    u.path.toList = ((Path.read .web true ⟨['/'], false⟩ [] tail).1.finish .web) := by
  obtain ⟨username, password, text, host, port, rest, huser, -, hport, rfl⟩ :=
    readAuthority_eq_ok hread
  rw [readUserinfo_append h tail] at huser
  obtain ⟨-, -, rfl⟩ : "" = username ∧ none = password ∧ authority ++ '/' :: tail = text := by
    simpa using huser
  obtain ⟨name, digits, rfl, hdigits, hspan⟩ := spanHost_append h tail false
  rw [hspan] at hport
  have hrest : rest = '/' :: tail := by
    rcases hdigits with rfl | hcolon
    · obtain ⟨-, rfl⟩ := Prod.mk.inj (Except.ok.inj hport)
      rfl
    · obtain _ | ⟨c, digits⟩ := digits
      · cases hcolon
      · obtain rfl : c = ':' := Option.some.inj hcolon
        exact readPort_append (fun c hc => h c (by simp [hc])) tail hport
  subst hrest
  obtain ⟨query, fragment, htail⟩ := readTail_eq .web _ _
  rw [htail]
  simp [readAuthorityPath, SchemeKind.isSpecial]

end Authority

/-- An address of the web, put together and read, has the path that is read of its path alone. -/
theorem path_of_parse_absolute {scheme : String} (hscheme : scheme = "http" ∨ scheme = "https")
    {authority tail : List Char} (hne : authority ≠ [])
    (hauthority : ∀ c ∈ authority, isHostChar c = true) (htail : ∀ c ∈ tail, 0x20 < c.toNat)
    {u : Url}
    (h : parse (String.ofList (Uri.absolute scheme.toList authority ('/' :: tail))) = .ok u) :
    u.path.toList = ((Path.read .web true ⟨['/'], false⟩ [] tail).1.finish .web) := by
  have hvisible : ∀ c ∈ Uri.absolute scheme.toList authority ('/' :: tail), 0x20 < c.toNat := by
    have hletters : scheme.toList.all (fun c => decide (0x20 < c.toNat)) = true := by
      rcases hscheme with rfl | rfl
      · rfl
      · rfl
    intro c hc
    simp only [Uri.absolute, List.mem_append, List.mem_cons] at hc
    rcases hc with hc | rfl | rfl | rfl | hc | rfl | hc
    · exact of_decide_eq_true (List.all_eq_true.mp hletters c hc)
    · decide
    · decide
    · decide
    · exact (isHostChar_iff.mp (hauthority c hc)).1.1
    · decide
    · exact htail c hc
  unfold parse at h
  rw [significant_ofList hvisible, Uri.absolute, readScheme_web hscheme] at h
  simp only [kind_web hscheme] at h
  have hdrop : ('/' :: '/' :: (authority ++ '/' :: tail)).dropWhile
      (fun c => decide (c = '/' ∨ c = '\\')) = authority ++ '/' :: tail := by
    cases authority with
    | nil => exact absurd rfl hne
    | cons c rest =>
      obtain ⟨-, -, hslash, -, -, hback⟩ := isHostChar_iff.mp (hauthority c List.mem_cons_self)
      simp [hslash, hback]
  rw [hdrop] at h
  exact path_of_readAuthority hauthority tail h

end Gatehouse.Url
