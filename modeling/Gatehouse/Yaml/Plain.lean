import Gatehouse.Decimal.Binary64
import Gatehouse.Json.Value

/-!
# The values of plain scalars

A plain scalar may be null, a boolean, an integer or a floating-point number; everything else is a
text. Digits with a zero in front of them are a text too.
-/

namespace Gatehouse.Yaml.Resolve

def isNull (s : String) : Bool := ["null", "Null", "NULL", "~"].contains s

def bool? (s : String) : Option Bool :=
  if ["true", "True", "TRUE"].contains s then some true
  else if ["false", "False", "FALSE"].contains s then some false
  else none

def digitValue? (base : Nat) (c : Char) : Option Nat :=
  let n :=
    if c.isDigit then c.toNat - '0'.toNat
    else if c.isAlpha then c.toLower.toNat - 'a'.toNat + 10
    else base
  if n < base then some n else none

/-- The number that digits stand for, of which there must be one. -/
def digits? (base : Nat) (cs : List Char) : Option Nat :=
  if cs = [] then none
  else (cs.mapM (digitValue? base)).map fun ds => ds.foldl (fun n d => n * base + d) 0

def marked? : List Char → Option Nat
  | '0' :: 'x' :: cs => digits? 16 cs
  | '0' :: 'o' :: cs => digits? 8 cs
  | '0' :: 'b' :: cs => digits? 2 cs
  | _ => none

/-- A text without its sign. -/
def unsigned (cs : List Char) : List Char :=
  match cs with
  | '+' :: rest | '-' :: rest => rest
  | cs => cs

/-- Whether a text is digits with a zero in front of them, after a sign or none. -/
def isPadded (cs : List Char) : Bool :=
  match unsigned cs with
  | '0' :: c :: rest => (c :: rest).all Char.isDigit
  | _ => false

/-- A number without a minus sign. -/
def natural? (s : String) : Option Nat :=
  let cs := s.toList
  let digits := if cs.head? = some '+' then cs.drop 1 else cs
  (marked? digits).or (if isPadded cs then none else digits? 10 digits)

def negative? (s : String) : Option Nat :=
  match s.toList with
  | '-' :: digits => (marked? digits).or (if isPadded digits then none else digits? 10 digits)
  | _ => none

/-- The parts of a floating-point number: digits before and behind the point, and the exponent. -/
def float? (cs : List Char) : Option (List Char × List Char × Int) :=
  let whole := cs.takeWhile Char.isDigit
  let rest := cs.dropWhile Char.isDigit
  let (fraction, rest) := match rest with
    | '.' :: rest => (rest.takeWhile Char.isDigit, rest.dropWhile Char.isDigit)
    | rest => ([], rest)
  if whole = [] ∧ fraction = [] then none
  else
    match rest with
    | [] => some (whole, fraction, 0)
    | e :: rest =>
      if e = 'e' ∨ e = 'E' then
        let magnitude := (digits? 10 (unsigned rest)).map Int.ofNat
        (if rest.head? = some '-' then magnitude.map (- ·) else magnitude).map (whole, fraction, ·)
      else none

/-- A number with more places than this before its point is out of range. -/
def largestPlace : Int := 400

def nearest? (whole fraction : List Char) (exponent : Int) : Option UInt64 :=
  let n := (digits? 10 (whole ++ fraction)).getD 0
  let e := exponent - fraction.length
  let places := ((whole ++ fraction).dropWhile (· = '0')).length
  if n = 0 then some 0
  else if e + places > largestPlace then none
  else if e + places < - largestPlace then some 0
  else Binary64.ofDecimal n e

/-- The infinities, and what is no number. -/
def special : List String :=
  [".inf", ".Inf", ".INF", "+.inf", "+.Inf", "+.INF", "-.inf", "-.Inf", "-.INF", ".nan", ".NaN",
   ".NAN"]

/-- The floating-point number that a scalar is. Those that are not finite count as null. -/
def floatValue? (s : String) : Option Json :=
  if special.contains s then some .null
  else
    let cs := s.toList
    ((float? (unsigned cs)).bind fun (w, f, e) => nearest? w f e).map fun bits =>
      .number (.real (if cs.head? = some '-' then Binary64.negate bits else bits))

/-- An integer of 64 bits, or a larger one that has no value. -/
inductive Integer
  | value (j : Json)
  | tooLarge

/-- The integer of at most 128 bits that a scalar is. -/
def integer? (s : String) : Option Integer :=
  match natural? s, negative? s with
  | some n, _ =>
    if n < Nat.pow 2 64 then some (.value (.nat n))
    else if n < Nat.pow 2 128 then some .tooLarge
    else none
  | none, some n =>
    if n ≤ Nat.pow 2 63 then some (.value (.int (-(n : Int))))
    else if n ≤ Nat.pow 2 127 then some .tooLarge
    else none
  | none, none => none

def plain (s : String) : Option Json :=
  if s = "" ∨ isNull s then some .null
  else
    match bool? s with
    | some b => some (.bool b)
    | none =>
      match integer? s with
      | some (.value j) => some j
      | some .tooLarge => none
      | none => if isPadded s.toList then some (.text s) else some ((floatValue? s).getD (.text s))

end Gatehouse.Yaml.Resolve
