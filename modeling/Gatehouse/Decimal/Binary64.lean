/-!
# Double-precision numbers

A finite number of the format is `m * 2 ^ q` with a sign. `roundRatio` gives the number nearest to a
quotient of naturals, ties going to the even `m`; `ofDecimal` that of decimal digits with an
exponent.
-/

namespace Gatehouse.Binary64

def isNegative (bits : UInt64) : Bool := bits.toNat ≥ Nat.pow 2 63

/-- The magnitude of a bit pattern, as `m` and `q`. -/
def magnitude (bits : UInt64) : Nat × Int :=
  let exponent : Nat := bits.toNat / Nat.pow 2 52 % Nat.pow 2 11
  let fraction : Nat := bits.toNat % Nat.pow 2 52
  if exponent = 0 then (fraction, -1074) else (fraction + Nat.pow 2 52, (exponent : Int) - 1075)

def negate (bits : UInt64) : UInt64 := UInt64.ofNat (bits.toNat + Nat.pow 2 63)

/-- The natural nearest to a quotient; a half goes to the even neighbour. -/
def roundDiv (num den : Nat) : Nat :=
  let q := num / den
  let r := num % den
  if 2 * r > den ∨ (2 * r = den ∧ q % 2 = 1) then q + 1 else q

/-- A quotient scaled by `2 ^ (-q)`. -/
def scale (num den : Nat) (q : Int) : Nat × Nat :=
  if q ≥ 0 then (num, den * Nat.pow 2 q.toNat) else (num * Nat.pow 2 (-q).toNat, den)

/-- The bit pattern of the number nearest to `num / den`, if it is in range. -/
def roundRatio (num den : Nat) : Option UInt64 :=
  if num = 0 then some 0
  else
    let guess : Int := (num.log2 : Int) - den.log2 - 53
    let (n, d) := scale num den guess
    let q := max (if n ≥ d * Nat.pow 2 53 then guess + 1 else guess) (-1074)
    let (n, d) := scale num den q
    let rounded := roundDiv n d
    let (m, q) := if rounded = Nat.pow 2 53 then (Nat.pow 2 52, q + 1) else (rounded, q)
    if q > 971 then none
    else if m < Nat.pow 2 52 then some (UInt64.ofNat m)
    else some (UInt64.ofNat ((q + 1075).toNat * Nat.pow 2 52 + (m - Nat.pow 2 52)))

/-- The exact product of two magnitudes, rounded. -/
def multiply (a b : UInt64) : Option UInt64 :=
  let (m, q) := magnitude a
  let (n, r) := magnitude b
  let (num, den) := scale (m * n) 1 (-(q + r))
  roundRatio num den

def divide (a b : UInt64) : Option UInt64 :=
  let (m, q) := magnitude a
  let (n, r) := magnitude b
  let (num, den) := scale m n (r - q)
  roundRatio num den

/-- The number nearest to `digits * 10 ^ exponent`, if it is in range. -/
def ofDecimal (digits : Nat) (exponent : Int) : Option UInt64 :=
  if exponent ≥ 0 then roundRatio (digits * Nat.pow 10 exponent.toNat) 1
  else roundRatio digits (Nat.pow 10 (-exponent).toNat)

end Gatehouse.Binary64
