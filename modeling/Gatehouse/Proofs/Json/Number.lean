import Gatehouse.Json.Literal
import Gatehouse.Json.Printer
import Mathlib.Tactic

/-!
# Whole numbers in decimal digits

The digits of a whole number of 64 bits are read back as that number, wherever they end.
-/

namespace Gatehouse

inductive Number.Whole : Number → Prop
  | natural {n : Nat} (h : n < Nat.pow 2 64) : Whole (.natural n)
  | negative {n : Nat} (hpos : 0 < n) (h : n ≤ Nat.pow 2 63) : Whole (.negative n)

namespace Literal

/-- Nothing that would go on with a number. -/
def Ends (t : List Char) : Prop :=
  ∀ c ∈ t.head?, c.isDigit = false ∧ c ≠ '.' ∧ c ≠ 'e' ∧ c ≠ 'E'

variable {t : List Char} {ds : List Char}

theorem ends_nil : Ends [] := nofun

theorem ends_cons {c : Char} (h : c.isDigit = false ∧ c ≠ '.' ∧ c ≠ 'e' ∧ c ≠ 'E')
    (t : List Char) : Ends (c :: t) := by
  rintro _ ⟨⟩
  exact h

/-! ## Digits -/

/-- A number is not written with a zero in front. -/
theorem eq_nil_of_toDigits_eq {n : Nat} {cs : List Char} (h : Nat.toDigits 10 n = '0' :: cs) :
    cs = [] := by
  induction n using Nat.strong_induction_on generalizing cs with
  | _ n ih =>
    rw [Nat.toDigits_eq_if (by decide)] at h
    split_ifs at h with hsmall
    · exact (List.cons.inj h).2.symm
    · -- The digits of the tenth part begin with the zero, too, and so are that zero only.
      obtain ⟨d, ds, hds⟩ := List.exists_cons_of_ne_nil (Nat.toDigits_ne_nil (n := n / 10) (b := 10))
      rw [hds] at h
      obtain ⟨rfl, -⟩ := List.cons.inj h
      obtain rfl := ih (n / 10) (by omega) hds
      have hzero := Nat.ofDigitChars_toDigits (n := n / 10) (b := 10) (by decide) (by decide)
      rw [hds] at hzero
      have : n / 10 = 0 := hzero.symm
      omega

theorem le_ofDigitChars (cs : List Char) (n : Nat) : n ≤ Nat.ofDigitChars 10 cs n := by
  induction cs generalizing n with
  | nil => exact Nat.le_refl n
  | cons c cs ih =>
    rw [Nat.ofDigitChars_cons]
    have := ih (10 * n + (c.toNat - '0'.toNat))
    omega

theorem absorb_eq {cs : List Char} {n : Nat} (h : Nat.ofDigitChars 10 cs n < Nat.pow 2 64) :
    absorb n cs = (Nat.ofDigitChars 10 cs n, []) := by
  induction cs generalizing n with
  | nil => rfl
  | cons c cs ih =>
    rw [Nat.ofDigitChars_cons] at h ⊢
    have hstep : n * 10 + digitValue c = 10 * n + (c.toNat - '0'.toNat) := by
      rw [digitValue, Nat.mul_comm]
    rw [absorb, hstep, if_pos (Nat.lt_of_le_of_lt (le_ofDigitChars cs _) h), ih h]

theorem absorb_toDigits {n : Nat} (h : n < Nat.pow 2 64) :
    absorb 0 (Nat.toDigits 10 n) = (n, []) := by
  have hvalue := Nat.ofDigitChars_toDigits (n := n) (b := 10) (by decide) (by decide)
  rw [absorb_eq (by rw [hvalue]; exact h), hvalue]

/-! ## Reading -/

theorem spanDigits_append (hds : ∀ c ∈ ds, c.isDigit = true) (ht : Ends t) :
    spanDigits (ds ++ t) = (ds, t) := by
  have hnone : t.takeWhile Char.isDigit = [] ∧ t.dropWhile Char.isDigit = t := by
    cases t with
    | nil => exact ⟨rfl, rfl⟩
    | cons c t =>
      obtain ⟨hdigit, -⟩ := ht c rfl
      rw [List.takeWhile_cons_of_neg (by rw [hdigit]; decide),
        List.dropWhile_cons_of_neg (by rw [hdigit]; decide)]
      exact ⟨rfl, rfl⟩
  rw [spanDigits, List.takeWhile_append_of_pos hds, List.dropWhile_append_of_pos hds, hnone.1,
    hnone.2, List.append_nil]

theorem scanWhole_toDigits (n : Nat) (ht : Ends t) :
    scanWhole (Nat.toDigits 10 n ++ t) = .ok (Nat.toDigits 10 n, t) := by
  have hspan : spanDigits (Nat.toDigits 10 n ++ t) = (Nat.toDigits 10 n, t) :=
    spanDigits_append (fun c hc => Nat.isDigit_of_mem_toDigits (by decide) (by decide) hc) ht
  have hsome : someDigits (Nat.toDigits 10 n ++ t) = .ok (Nat.toDigits 10 n, t) := by
    rw [someDigits, hspan]
    split
    · next h => exact absurd (Prod.ext_iff.mp h).1 Nat.toDigits_ne_nil
    · next h => exact absurd (Prod.ext_iff.mp h).1 Nat.toDigits_ne_nil
    · rfl
  rw [scanWhole, hsome]
  split
  · next h =>
    have hzero := (Prod.ext_iff.mp (Except.ok.inj h)).1
    cases eq_nil_of_toDigits_eq hzero
  · rfl

theorem scanFraction_of_ends (ht : Ends t) : scanFraction t = .ok ([], t) := by
  unfold scanFraction
  split
  · exact absurd rfl (ht '.' rfl).2.1
  · rfl

theorem scanExponent_of_ends (ht : Ends t) : scanExponent t = .ok (none, t) := by
  unfold scanExponent
  split
  · next c t =>
    obtain ⟨-, -, he, hE⟩ := ht c rfl
    rw [if_neg (not_or.mpr ⟨he, hE⟩)]
  · rfl

theorem scan_toDigits (negative : Bool) (n : Nat) (ht : Ends t) :
    scan negative (Nat.toDigits 10 n ++ t) = .ok (⟨negative, Nat.toDigits 10 n, [], none⟩, t) := by
  simp only [scan, bind, Except.bind, scanWhole_toDigits n ht, scanFraction_of_ends ht,
    scanExponent_of_ends ht]
  rfl

theorem value_natural {n : Nat} (h : n < Nat.pow 2 64) :
    value ⟨false, Nat.toDigits 10 n, [], none⟩ = .ok (.natural n) := by
  simp [value, absorb_toDigits h]

theorem value_negative {n : Nat} (hpos : 0 < n) (h : n ≤ Nat.pow 2 63) :
    value ⟨true, Nat.toDigits 10 n, [], none⟩ = .ok (.negative n) := by
  have hlt : n < Nat.pow 2 64 := Nat.lt_of_le_of_lt h (by decide)
  simp [value, absorb_toDigits hlt, hpos, h]

end Literal

end Gatehouse
