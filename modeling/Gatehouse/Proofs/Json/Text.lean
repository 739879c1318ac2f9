import Gatehouse.Json.Printer
import Gatehouse.Json.Scan
import Gatehouse.Proofs.Text.Utf8
import Mathlib.Tactic

/-!
# Texts between quotes

A text that is written between quotes is read back, whatever its characters, and what follows the
closing quote is left.
-/

namespace Gatehouse

namespace Json

/-- How a character is written: by a letter, by its number, or as it is. -/
inductive Written : Char → List Char → Prop
  | letter {c d : Char} (h : Scan.shortEscape d = some c) (hd : d ≠ 'u') : Written c ['\\', d]
  | code {c : Char} (h : c.toNat < 0x20) :
      Written c ['\\', 'u', '0', '0', hexDigit (c.toNat / 16), hexDigit (c.toNat % 16)]
  | plain {c : Char} (h : 0x20 ≤ c.toNat) (hquote : c ≠ '"') (hslash : c ≠ '\\') : Written c [c]

theorem written_printChar (c : Char) : Written c (printChar c) := by
  unfold printChar
  split_ifs with hquote hslash hb hf hn hr ht hcontrol
  · exact .letter (by rw [hquote]; rfl) (by decide)
  · exact .letter (by rw [hslash]; rfl) (by decide)
  · exact .letter (by rw [hb]; rfl) (by decide)
  · exact .letter (by rw [hf]; rfl) (by decide)
  · exact .letter (by rw [hn]; rfl) (by decide)
  · exact .letter (by rw [hr]; rfl) (by decide)
  · exact .letter (by rw [ht]; rfl) (by decide)
  · exact .code hcontrol
  · exact .plain (Nat.le_of_not_lt hcontrol) hquote hslash

end Json

namespace Scan

theorem hexEscape_of_lt (n : Nat) (h : n < 0x20) (t : List Char) :
    hexEscape ('0' :: '0' :: Json.hexDigit (n / 16) :: Json.hexDigit (n % 16) :: t) = .ok n := by
  interval_cases n <;> rfl

theorem readText_code {n : Nat} (h : n < 0x20) (t : List Char) :
    readText ('\\' :: 'u' :: '0' :: '0' :: Json.hexDigit (n / 16) :: Json.hexDigit (n % 16) :: t) =
      (readText t).map fun (cs, r) => (Char.ofNat n :: cs, r) := by
  rw [readText.eq_def]
  simp only [hexEscape_of_lt n h t]
  rw [if_neg (by omega), if_neg (by omega)]

theorem readText_written {c : Char} {w : List Char} (h : Json.Written c w) (t : List Char) :
    readText (w ++ t) = (readText t).map fun (cs, r) => (c :: cs, r) := by
  cases h with
  | letter h hd =>
    rw [List.cons_append, List.cons_append, List.nil_append, readText]
    · rw [h]
    · exact hd
  | code h =>
    simp only [List.cons_append, List.nil_append]
    rw [readText_code h, Char.ofNat_toNat]
  | plain h hquote hslash =>
    rw [List.cons_append, List.nil_append, readText]
    · rw [if_neg (Nat.not_lt.mpr h)]
    · exact hquote
    · exact fun heq _ => hslash heq
    · exact fun _ heq _ => hslash heq
    · exact fun _ _ heq _ => hslash heq

theorem skipText_written {c : Char} {w : List Char} (h : Json.Written c w) (t : List Char) :
    skipText (w ++ t) = skipText t := by
  cases h with
  | letter h hd =>
    rw [List.cons_append, List.cons_append, List.nil_append, skipText]
    · rw [h]
      rfl
    · exact hd
  | code h =>
    simp only [List.cons_append, List.nil_append]
    rw [skipText.eq_def]
    simp only [hexEscape_of_lt c.toNat h t]
  | plain h hquote hslash =>
    rw [List.cons_append, List.nil_append, skipText]
    · rw [if_neg (Nat.not_lt.mpr h)]
    · exact hquote
    · exact fun heq _ => hslash heq
    · exact fun _ heq _ => hslash heq
    · exact fun _ _ heq _ => hslash heq

theorem readText_printed (cs t : List Char) :
    readText (cs.flatMap Json.printChar ++ '"' :: t) = .ok (cs, t) := by
  induction cs with
  | nil => rfl
  | cons c cs ih =>
    rw [List.flatMap_cons, List.append_assoc, readText_written (Json.written_printChar c), ih]
    rfl

theorem skipText_printed (cs t : List Char) :
    skipText (cs.flatMap Json.printChar ++ '"' :: t) = .ok t := by
  induction cs with
  | nil => rfl
  | cons c cs ih =>
    rw [List.flatMap_cons, List.append_assoc, skipText_written (Json.written_printChar c), ih]

theorem text?_printed (s : String) (t : List Char) :
    text? (s.toList.flatMap Json.printChar ++ '"' :: t) = .ok (.ok s, t) := by
  rw [text?, readText_printed, skipText_printed]
  simp only [Except.map, String.ofList_toList]

/-! ## Damaged bytes -/

theorem charsOf_of_decode? {body : Bytes} {s : String} (h : Utf8.decode? body = some s) :
    charsOf body = s.toList := by
  rw [charsOf, Utf8.decode?_eq_some_iff.mp h, List.flatMap_map]
  exact List.flatMap_singleton' _

/-- Damage in a text is a fault for one who reads. -/
theorem readText_damage (t : List Char) : readText (damage ++ t) = .error .loneSurrogate := by
  have hhex : hexEscape ('d' :: 'c' :: '0' :: '0' :: t) = .ok 0xDC00 := rfl
  have hhalf : readText ('\\' :: 'u' :: 'd' :: 'c' :: '0' :: '0' :: t) = .error .loneSurrogate := by
    rw [readText.eq_def]
    simp only [hhex]
    rfl
  have hshown : Json.Written Utf8.replacement [Utf8.replacement] :=
    .plain (by decide) (by decide) (by decide)
  have hstep := readText_written hshown ('\\' :: 'u' :: 'd' :: 'c' :: '0' :: '0' :: t)
  rw [hhalf] at hstep
  exact hstep

/-- Damage in a text is none for one who skips. -/
theorem skipText_damage (t : List Char) : skipText (damage ++ t) = skipText t := rfl

theorem skipText_escaped_damage (t : List Char) :
    skipText ('\\' :: (damage ++ t)) = .error .invalidEscape := rfl

theorem value_damage (fuel : Nat) (t : List Char) :
    value (fuel + 1) (damage ++ t) =
      (broken .expectedValue .expectedValue .expectedValue, none) := rfl

end Scan

end Gatehouse
