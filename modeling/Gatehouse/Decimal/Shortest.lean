import Gatehouse.Decimal.Binary64

/-!
# The fewest digits that read back

A double-precision number is written with the fewest decimal digits that are nearer to it than to
any other number of the format; of two such, with the nearer one.
-/

namespace Gatehouse.Decimal

open Binary64

/-- Decimal digits and the power of ten of the last one. -/
structure Digits where
  digits : Nat
  exponent : Int
  deriving DecidableEq, Repr

def digitsOf (n : Nat) : List Char := Nat.toDigits 10 n

/-- Numbers that lie between `low` and `high`, all over one denominator; the ends belong to it if
`closed` is set. -/
structure Interval where
  low : Nat
  value : Nat
  high : Nat
  den : Nat
  closed : Bool

/-- The reals that round to `m * 2 ^ q`. Below a power of two the next number is only half as far.
-/
def Interval.around (m : Nat) (q : Int) : Interval :=
  let below := if m = Nat.pow 2 52 ∧ q > -1074 then 1 else 2
  let (unit, den) := scale 1 4 (-q)
  ⟨(4 * m - below) * unit, 4 * m * unit, (4 * m + 2) * unit, den, m % 2 == 0⟩

/-- Whether `d * 10 ^ k` lies in the interval. -/
def Interval.holds (i : Interval) (d : Nat) (k : Int) : Bool :=
  let (x, y) := if k ≥ 0 then (d * Nat.pow 10 k.toNat, 1) else (d, Nat.pow 10 (-k).toNat)
  let (l, v, h) := (i.low * y, x * i.den, i.high * y)
  if i.closed then l ≤ v && v ≤ h else l < v && v < h

/-- The multiple of `10 ^ k` in the interval that is nearest to its value. -/
def Interval.nearest (i : Interval) (k : Int) : Option Nat :=
  let (num, den) :=
    if k ≥ 0 then (i.value, i.den * Nat.pow 10 k.toNat)
    else (i.value * Nat.pow 10 (-k).toNat, i.den)
  let near := roundDiv num den
  let far := if near = num / den then near + 1 else num / den
  if i.holds near k then some near else if i.holds far k then some far else none

/-- The place of the first digit of `num / den`: the greatest `k` with `10 ^ k ≤ num / den`. -/
def leadingPlace (num den : Nat) : Int :=
  let guess : Int := ((digitsOf num).length : Int) - (digitsOf den).length
  let reached :=
    if guess ≥ 0 then num ≥ den * Nat.pow 10 guess.toNat
    else num * Nat.pow 10 (-guess).toNat ≥ den
  if reached then guess else guess - 1

/-- Tries ever finer grids, from `k` downward. -/
def Interval.search (i : Interval) : Nat → Int → Digits
  | 0, k => ⟨i.value / i.den, k⟩
  | fuel + 1, k =>
    match i.nearest k with
    | some d => ⟨d, k⟩
    | none => i.search fuel (k - 1)

/-- Moves trailing zeros of the digits into the exponent. -/
def Digits.trim : Nat → Digits → Digits
  | 0, d => d
  | fuel + 1, d =>
    if d.digits ≠ 0 ∧ d.digits % 10 = 0 then trim fuel ⟨d.digits / 10, d.exponent + 1⟩ else d

/-- The shortest digits of a positive magnitude. -/
def shortest (bits : UInt64) : Digits :=
  let (m, q) := magnitude bits
  let i := Interval.around m q
  (i.search 18 (leadingPlace i.value i.den)).trim 20

structure Layout where
  /-- The number is written without exponent if its point stands at most so far behind the first
  digit, -/
  wholeDigits : Int
  /-- and if at most so many zeros stand between the point and the first digit. -/
  leadingZeros : Int

/-- The text of a finite number. A point always has a digit on either side; an exponent has neither
plus sign nor leading zeros. -/
def Layout.write (layout : Layout) (bits : UInt64) : String :=
  let sign := if isNegative bits then ['-'] else []
  let body :=
    if (magnitude bits).1 = 0 then ['0', '.', '0']
    else
      let d := shortest bits
      let ds := digitsOf d.digits
      let point := (ds.length : Int) + d.exponent
      if 0 ≤ d.exponent ∧ point ≤ layout.wholeDigits then
        ds ++ List.replicate d.exponent.toNat '0' ++ ['.', '0']
      else if 0 < point ∧ point ≤ layout.wholeDigits then
        ds.take point.toNat ++ '.' :: ds.drop point.toNat
      else if -layout.leadingZeros ≤ point ∧ point ≤ 0 then
        '0' :: '.' :: List.replicate (-point).toNat '0' ++ ds
      else
        let fraction := match ds with
          | first :: second :: rest => first :: '.' :: second :: rest
          | ds => ds
        let e := point - 1
        fraction ++ 'e' :: (if e < 0 then ['-'] else []) ++ digitsOf e.natAbs
  String.ofList (sign ++ body)

end Gatehouse.Decimal
