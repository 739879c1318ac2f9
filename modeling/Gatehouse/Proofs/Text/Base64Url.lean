import Gatehouse.Http.Header
import Gatehouse.Text.Base64Url
import Mathlib.Tactic

/-!
# Bytes from digits

Whatever the length of a sequence of bytes, its digits are decoded to it again. Digits are letters,
decimal digits, the hyphen and the underscore, so that they may stand in a header as they are.
-/

namespace Gatehouse.Base64Url

def isDigit (c : Char) : Bool := c.isAlphanum || c == '-' || c == '_'

/-- What holds of the digits of all values holds of all digits that are written. -/
theorem forall_mem_encode {p : Char → Prop} (h : ∀ n < 64, p (digit n)) (bs : Bytes) :
    ∀ c ∈ encode bs, p c := by
  induction bs using encode.induct with
  | case1 a b c rest ih =>
    have ha := a.toNat_lt
    have hb := b.toNat_lt
    have hc := c.toNat_lt
    simp only [encode, List.forall_mem_cons]
    exact ⟨h _ (by omega), h _ (by omega), h _ (by omega), h _ (by omega), ih⟩
  | case2 a b =>
    have ha := a.toNat_lt
    have hb := b.toNat_lt
    simp only [encode, List.forall_mem_cons]
    exact ⟨h _ (by omega), h _ (by omega), h _ (by omega), nofun⟩
  | case3 a =>
    have ha := a.toNat_lt
    simp only [encode, List.forall_mem_cons]
    exact ⟨h _ (by omega), h _ (by omega), nofun⟩
  | case4 => exact nofun

theorem isDigit_of_mem_encode (bs : Bytes) : ∀ c ∈ encode bs, isDigit c = true :=
  forall_mem_encode (by decide) bs

theorem visible_of_mem_encode (bs : Bytes) : ∀ c ∈ encode bs, 32 ≤ c.toNat ∧ c.toNat < 127 :=
  forall_mem_encode (by decide) bs

theorem first_byte (a : UInt8) {n : Nat} (hn : n < 16) :
    UInt8.ofNat (a.toNat / 4 * 4 + (a.toNat % 4 * 16 + n) / 16) = a := by
  have h : a.toNat / 4 * 4 + (a.toNat % 4 * 16 + n) / 16 = a.toNat := by omega
  rw [h, UInt8.ofNat_toNat]

theorem second_byte (a b : UInt8) {n : Nat} (hn : n < 4) :
    UInt8.ofNat ((a.toNat % 4 * 16 + b.toNat / 16) % 16 * 16 + (b.toNat % 16 * 4 + n) / 4) = b := by
  have hb := b.toNat_lt
  have h : (a.toNat % 4 * 16 + b.toNat / 16) % 16 * 16 + (b.toNat % 16 * 4 + n) / 4 = b.toNat := by
    omega
  rw [h, UInt8.ofNat_toNat]

theorem third_byte (b c : UInt8) :
    UInt8.ofNat ((b.toNat % 16 * 4 + c.toNat / 64) % 4 * 64 + c.toNat % 64) = c := by
  have hc := c.toNat_lt
  have h : (b.toNat % 16 * 4 + c.toNat / 64) % 4 * 64 + c.toNat % 64 = c.toNat := by omega
  rw [h, UInt8.ofNat_toNat]

/-- Nothing is lost, whether the last group is full or not. -/
theorem decode?_encode (bs : Bytes) : decode? (encode bs) = some bs := by
  induction bs using encode.induct with
  | case1 a b c rest ih =>
    have ha := a.toNat_lt
    have hb := b.toNat_lt
    have hc := c.toNat_lt
    have h1 := value_digit (a.toNat / 4) (by omega)
    have h2 := value_digit (a.toNat % 4 * 16 + b.toNat / 16) (by omega)
    have h3 := value_digit (b.toNat % 16 * 4 + c.toNat / 64) (by omega)
    have h4 := value_digit (c.toNat % 64) (by omega)
    simp only [encode, decode?, h1, h2, h3, h4, ih, Option.bind_eq_bind, Option.bind_some,
      Option.pure_def, first_byte a (show b.toNat / 16 < 16 by omega),
      second_byte a b (show c.toNat / 64 < 4 by omega), third_byte]
  | case2 a b =>
    have ha := a.toNat_lt
    have hb := b.toNat_lt
    have h1 := value_digit (a.toNat / 4) (by omega)
    have h2 := value_digit (a.toNat % 4 * 16 + b.toNat / 16) (by omega)
    have h3 := value_digit (b.toNat % 16 * 4) (by omega)
    have hlast : b.toNat % 16 * 4 % 4 = 0 := by omega
    have hsecond := second_byte a b (n := 0) (by omega)
    rw [Nat.add_zero] at hsecond
    simp only [encode, decode?, h1, h2, h3, hlast, Option.bind_eq_bind, Option.bind_some,
      Option.pure_def, ↓reduceIte, first_byte a (show b.toNat / 16 < 16 by omega), hsecond]
  | case3 a =>
    have ha := a.toNat_lt
    have h1 := value_digit (a.toNat / 4) (by omega)
    have h2 := value_digit (a.toNat % 4 * 16) (by omega)
    have hlast : a.toNat % 4 * 16 % 16 = 0 := by omega
    have hfirst := first_byte a (n := 0) (by omega)
    rw [Nat.add_zero] at hfirst
    simp only [encode, decode?, h1, h2, hlast, Option.bind_eq_bind, Option.bind_some,
      Option.pure_def, ↓reduceIte, hfirst]
  | case4 => rfl

end Gatehouse.Base64Url
