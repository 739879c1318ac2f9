import Gatehouse.Json.Value
import Gatehouse.Json.SyntaxError
import Gatehouse.Decimal.Binary64

/-!
# Number literals

A literal is a whole part, a fraction and an exponent. Integers of 64 bits keep their exact value.
Any other literal becomes a double-precision number: as many digits as fit into 64 bits are scaled
by a power of ten, with one rounding for the digits, one for the power and one for the result.
-/

namespace Gatehouse

/-- The parts of a number literal; the digits are decimal digits. -/
structure Literal where
  negative : Bool
  whole : List Char
  /-- Empty without a point. -/
  fraction : List Char
  /-- The sign and the digits of the exponent. -/
  exponent : Option (Bool × List Char)

namespace Literal

def digitValue (c : Char) : Nat := c.toNat - '0'.toNat

/-- Appends digits to a number as long as it stays below `2 ^ 64`; yields what is left too. -/
def absorb : Nat → List Char → Nat × List Char
  | n, [] => (n, [])
  | n, c :: rest =>
    if n * 10 + digitValue c < Nat.pow 2 64 then absorb (n * 10 + digitValue c) rest
    else (n, c :: rest)

def natOf (digits : List Char) : Nat := digits.foldl (fun n c => n * 10 + digitValue c) 0

/-- Scales by a power of ten, in steps of at most `10 ^ 308`. -/
def scale10 : Nat → UInt64 → Int → Except SyntaxError UInt64
  | 0, f, _ => .ok f
  | fuel + 1, f, e =>
    if e.natAbs ≤ 308 then
      let power := (Binary64.roundRatio (Nat.pow 10 e.natAbs) 1).getD 0
      match if e ≥ 0 then Binary64.multiply f power else Binary64.divide f power with
      | some g => .ok g
      | none => .error .numberOutOfRange
    else if f = 0 then .ok f
    else if e ≥ 0 then .error .numberOutOfRange
    else
      let power := (Binary64.roundRatio (Nat.pow 10 308) 1).getD 0
      scale10 fuel ((Binary64.divide f power).getD 0) (e + 308)

/-- The signed number with the given significant digits and power of ten. -/
def real (negative : Bool) (significand : Nat) (exponent : Int) : Except SyntaxError Number := do
  let f ← scale10 8 ((Binary64.roundRatio significand 1).getD 0) exponent
  return .real (if negative then Binary64.negate f else f)

/-- The greatest exponent that is taken at its value; a greater one stands for zero or for too much.
-/
def exponentLimit : Nat := 2147483647

def value (l : Literal) : Except SyntaxError Number :=
  let (significand, surplus) := absorb 0 l.whole
  if l.fraction = [] ∧ l.exponent = none ∧ surplus = [] then
    if ¬ l.negative then .ok (.natural significand)
    else if 0 < significand ∧ significand ≤ Nat.pow 2 63 then .ok (.negative significand)
    else real true significand 0
  else
    let (significand, ignored) := absorb significand l.fraction
    let start : Int := (surplus.length : Int) - (l.fraction.length - ignored.length : Nat)
    match l.exponent with
    | none => real l.negative significand start
    | some (down, digits) =>
      let e := natOf digits
      if e > exponentLimit then
        if significand ≠ 0 ∧ ¬ down then .error .numberOutOfRange else real l.negative 0 0
      else real l.negative significand (if down then start - e else start + e)

def spanDigits (s : List Char) : List Char × List Char :=
  (s.takeWhile Char.isDigit, s.dropWhile Char.isDigit)

inductive Malformed
  /-- The text ends where a digit is needed. -/
  | atEnd
  /-- Something else stands where a digit is needed, or a digit behind a leading zero. -/
  | within

def someDigits (s : List Char) : Except Malformed (List Char × List Char) :=
  match spanDigits s with
  | ([], []) => .error .atEnd
  | ([], _) => .error .within
  | ds => .ok ds

/-- A whole part: zero, or digits that do not begin with zero. -/
def scanWhole (s : List Char) : Except Malformed (List Char × List Char) :=
  match someDigits s with
  | .ok ('0' :: _ :: _, _) => .error .within
  | r => r

def scanFraction : List Char → Except Malformed (List Char × List Char)
  | '.' :: rest => someDigits rest
  | s => .ok ([], s)

def scanSign : List Char → Bool × List Char
  | '+' :: rest => (false, rest)
  | '-' :: rest => (true, rest)
  | s => (false, s)

def scanExponent (s : List Char) : Except Malformed (Option (Bool × List Char) × List Char) :=
  match s with
  | c :: rest =>
    if c = 'e' ∨ c = 'E' then do
      let (down, rest) := scanSign rest
      let (digits, rest) ← someDigits rest
      return (some (down, digits), rest)
    else .ok (none, s)
  | [] => .ok (none, s)

/-- Reads a literal behind its sign. -/
def scan (negative : Bool) (s : List Char) : Except Malformed (Literal × List Char) := do
  let (whole, s) ← scanWhole s
  let (fraction, s) ← scanFraction s
  let (exponent, s) ← scanExponent s
  return (⟨negative, whole, fraction, exponent⟩, s)

end Literal

end Gatehouse
