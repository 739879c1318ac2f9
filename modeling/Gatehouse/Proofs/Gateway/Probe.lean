import Gatehouse.Gateway.Probe
import Mathlib.Tactic

/-!
# What a probe asks

A gateway is asked for its health at the address that is given, with this host in place of the
unspecified one. What is replaced is the first place in the text where the unspecified address stands,
and not the host: a probe asks what it should exactly if the host is that address or the text holds
it nowhere. An address in which it is part of something longer becomes another one.
-/

namespace Gatehouse

/-- A text, and the same with new characters in the first place where the old ones stand, if there is
one. A place is the first if they do not stand in the text up to there, even with all of them but the
last behind it. -/
inductive ReplacedFirst (old new : List Char) : List Char → List Char → Prop
  | absent {cs : List Char} (h : ¬ old <:+: cs) : ReplacedFirst old new cs cs
  | found (front back : List Char) (h : ¬ old <:+: front ++ old.dropLast) :
      ReplacedFirst old new (front ++ old ++ back) (front ++ new ++ back)

namespace ReplacedFirst

variable {old new cs ds : List Char}

theorem eq_of_absent (h : ReplacedFirst old new cs ds) (habsent : ¬ old <:+: cs) : ds = cs := by
  cases h with
  | absent => rfl
  | found front back => exact absurd ⟨front, back, rfl⟩ habsent

theorem length_eq (h : ReplacedFirst old new cs ds) (hfound : old <:+: cs) :
    ds.length + old.length = cs.length + new.length := by
  cases h with
  | absent habsent => exact absurd hfound habsent
  | found front back =>
    simp only [List.length_append]
    omega

theorem cons (h : ReplacedFirst old new cs ds) {c : Char} (hc : ¬ old <+: c :: cs) :
    ReplacedFirst old new (c :: cs) (c :: ds) := by
  cases h with
  | absent habsent =>
    apply ReplacedFirst.absent
    rw [List.infix_cons_iff]
    exact not_or.mpr ⟨hc, habsent⟩
  | found front back habsent =>
    refine ReplacedFirst.found (c :: front) back ?_
    rw [List.cons_append, List.infix_cons_iff]
    rintro (hbegins | hwithin)
    · apply hc
      have hrest : front ++ old.dropLast <+: front ++ old ++ back :=
        ((List.prefix_append_right_inj front).mpr old.dropLast_prefix).trans (List.prefix_append _ _)
      exact hbegins.trans ((List.prefix_cons_inj c).mpr hrest)
    · exact habsent hwithin

end ReplacedFirst

namespace Probe

def thisHost : List Char := "127.0.0.1".toList

theorem toThisHost_append (rest : List Char) :
    toThisHost (unspecified ++ rest) = thisHost ++ rest := rfl

theorem replacedFirst_toThisHost (cs : List Char) :
    ReplacedFirst unspecified thisHost cs (toThisHost cs) := by
  induction cs with
  | nil => exact .absent (by decide)
  | cons c cs ih =>
    by_cases hbegins : unspecified <+: c :: cs
    · obtain ⟨back, hback⟩ := hbegins
      rw [← hback, toThisHost_append]
      exact .found [] back (by decide)
    · rw [toThisHost, if_neg (by rwa [List.isPrefixOf_iff_prefix])]
      exact ih.cons hbegins

def healthUrl (encrypted : Bool) (address : String) : String :=
  (if encrypted then "https://" else "http://") ++ address ++ Server.healthPath

theorem url_eq (address : String) (encrypted : Bool) :
    url ⟨address, encrypted⟩ = healthUrl encrypted (String.ofList (toThisHost address.toList)) := rfl

theorem healthUrl_inj {encrypted : Bool} {s t : String} :
    healthUrl encrypted s = healthUrl encrypted t ↔ s = t := by
  constructor
  · intro h
    have hchars := congrArg String.toList h
    simp only [healthUrl, String.toList_append, List.append_assoc] at hchars
    exact String.toList_inj.mp (List.append_cancel_right (List.append_cancel_left hchars))
  · exact congrArg _

/-- The host at which one that listens on a host can be asked. -/
def reached (host : String) : String := if host = "0.0.0.0" then "127.0.0.1" else host

/-- A probe asks for health at the host it is given, or at this one if that is unspecified, exactly if
the host is the unspecified address or the text holds that address nowhere. In any case this host
takes the first place of the unspecified address. -/
theorem probed_as_given_iff (host port : String) (encrypted : Bool) :
    let given := host ++ ":" ++ port
    (url ⟨given, encrypted⟩ = healthUrl encrypted (reached host ++ ":" ++ port) ↔
        host = "0.0.0.0" ∨ ¬ unspecified <:+: given.toList) ∧
      ∃ asked, ReplacedFirst unspecified thisHost given.toList asked ∧
        url ⟨given, encrypted⟩ = healthUrl encrypted (String.ofList asked) := by
  intro given
  have hreplaced := replacedFirst_toThisHost given.toList
  refine ⟨?_, toThisHost given.toList, hreplaced, rfl⟩
  rw [url_eq, healthUrl_inj, ← String.toList_inj, String.toList_ofList]
  by_cases hhost : host = "0.0.0.0"
  · subst hhost
    have hgiven : given.toList = unspecified ++ (":" ++ port).toList := by
      simp only [given, String.toList_append, List.append_assoc]
      rfl
    have hreached : (reached "0.0.0.0" ++ ":" ++ port).toList = thisHost ++ (":" ++ port).toList := by
      simp only [reached, if_pos, String.toList_append, List.append_assoc]
      rfl
    rw [hgiven, toThisHost_append, hreached]
    exact iff_of_true rfl (Or.inl rfl)
  · have hsame : reached host ++ ":" ++ port = given := by rw [reached, if_neg hhost]
    rw [hsame]
    simp only [hhost, false_or]
    constructor
    · intro heq hfound
      have hlength := hreplaced.length_eq hfound
      rw [heq] at hlength
      exact absurd (Nat.add_left_cancel hlength) (by decide)
    · exact hreplaced.eq_of_absent

/-- A probe of a private address asks at another place, as if the number in front had more digits. -/
theorem private_address_not_probed :
    let asked := "http://1127.0.0.1:9200/healthz"
    url ⟨"10.0.0.0" ++ ":" ++ "9200", false⟩ = asked ∧
      asked ≠ healthUrl false (reached "10.0.0.0" ++ ":" ++ "9200") := by
  intro asked
  have hasked : url ⟨"10.0.0.0" ++ ":" ++ "9200", false⟩ = asked := by decide +kernel
  have hfound : unspecified <:+: ("10.0.0.0" ++ ":" ++ "9200").toList := by decide +kernel
  obtain ⟨hgiven, -⟩ := probed_as_given_iff "10.0.0.0" "9200" false
  refine ⟨hasked, ?_⟩
  rw [← hasked, ne_eq, hgiven]
  rintro (hhost | habsent)
  · exact absurd hhost (by decide)
  · exact habsent hfound

end Probe

end Gatehouse
