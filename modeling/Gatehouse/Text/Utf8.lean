/-!
# UTF-8

A text is written as one to four bytes per character. Reading takes any bytes apart into characters
and damaged stretches: `Utf8.decode?` refuses damage, `Utf8.decodeLossy` shows each damaged stretch
as one replacement character.
-/

namespace Gatehouse

abbrev Bytes := List UInt8

namespace Utf8

def encodeChars (cs : List Char) : Bytes := cs.flatMap String.utf8EncodeChar

def encode (s : String) : Bytes := encodeChars s.toList

theorem encodeChars_nil : encodeChars [] = [] := rfl

theorem encodeChars_cons (c : Char) (cs : List Char) :
    encodeChars (c :: cs) = String.utf8EncodeChar c ++ encodeChars cs := rfl

/-- What the first byte of a character promises. -/
structure Lead where
  /-- The bits of the code point that the first byte holds. -/
  bits : Nat
  /-- The number of bytes that follow. -/
  more : Nat
  /-- The bounds of the next byte: they keep out overlong forms, surrogates and what lies beyond the
  last code point. -/
  low : Nat
  high : Nat

/-- The promise of a byte, unless no character begins with it. -/
def lead (b : Nat) : Option Lead :=
  if b < 0x80 then some ⟨b, 0, 0x80, 0xBF⟩
  else if b < 0xC2 then none
  else if b < 0xE0 then some ⟨b - 0xC0, 1, 0x80, 0xBF⟩
  else if b < 0xF0 then
    some ⟨b - 0xE0, 2, if b = 0xE0 then 0xA0 else 0x80, if b = 0xED then 0x9F else 0xBF⟩
  else if b < 0xF5 then
    some ⟨b - 0xF0, 3, if b = 0xF0 then 0x90 else 0x80, if b = 0xF4 then 0x8F else 0xBF⟩
  else none

/-- Reads `more` bytes that continue a character, the next one in `[low, high]`; `none` when the
character breaks off, and then what is left begins with the first byte that does not belong to it.
-/
def follow (bits low high : Nat) : (more : Nat) → Bytes → Option Char × Bytes
  | 0, rest => (some (Char.ofNat bits), rest)
  | _ + 1, [] => (none, [])
  | more + 1, b :: rest =>
    if low ≤ b.toNat ∧ b.toNat ≤ high then
      follow (bits * 64 + b.toNat % 64) 0x80 0xBF more rest
    else (none, b :: rest)

theorem follow_length (more : Nat) : ∀ (bits low high : Nat) (bs : Bytes),
    (follow bits low high more bs).2.length ≤ bs.length := by
  induction more with
  | zero => intros; simp [follow]
  | succ more ih =>
    intro bits low high bs
    cases bs with
    | nil => simp [follow]
    | cons b rest =>
      simp only [follow]
      split
      · exact Nat.le_trans (ih _ _ _ _) (by simp)
      · simp

/-- The characters of a sequence of bytes, with `none` for each damaged stretch. -/
def units : Bytes → List (Option Char)
  | [] => []
  | b :: rest =>
    match lead b.toNat with
    | none => none :: units rest
    | some l =>
      let r := follow l.bits l.low l.high l.more rest
      r.1 :: units r.2
termination_by bs => bs.length
decreasing_by
  · exact Nat.lt_succ_self _
  · exact Nat.lt_succ_of_le (follow_length ..)

/-- The text of bytes that are all in order. -/
def decode? (bs : Bytes) : Option String := ((units bs).mapM id).map String.ofList

/-- The character shown in the place of damaged bytes. -/
def replacement : Char := Char.ofNat 0xFFFD

/-- The text of any bytes. -/
def decodeLossy (bs : Bytes) : String := String.ofList ((units bs).map (·.getD replacement))

end Utf8

end Gatehouse
