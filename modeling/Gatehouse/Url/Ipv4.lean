/-!
# Addresses of four bytes

A host whose last label looks like a number is an address. Numbers may be decimal, octal behind a
zero or hexadecimal behind `0x`, and the last one covers all bytes that are left.
-/

namespace Gatehouse.Ipv4

/-- The value of a digit in a base of at most sixteen. -/
def digitValue (base : Nat) (c : Char) : Option Nat :=
  let v :=
    if '0' ≤ c ∧ c ≤ '9' then some (c.toNat - '0'.toNat)
    else if 'a' ≤ c ∧ c ≤ 'f' then some (c.toNat - 'a'.toNat + 10)
    else if 'A' ≤ c ∧ c ≤ 'F' then some (c.toNat - 'A'.toNat + 10)
    else none
  v.filter (· < base)

def natIn (base : Nat) (cs : List Char) : Option Nat :=
  cs.foldl (fun acc c => acc.bind fun n => (digitValue base c).map (n * base + ·)) (some 0)

/-- One number of an address. Nothing but the sign of a base stands for zero. -/
def number? : List Char → Option Nat
  | [] => none
  | '0' :: 'x' :: rest => natIn 16 rest
  | '0' :: 'X' :: rest => natIn 16 rest
  | '0' :: c :: rest => natIn 8 (c :: rest)
  | cs => natIn 10 cs

/-- The labels of a host; a dot at the end does not count. -/
def labels (host : List Char) : List (List Char) :=
  let parts := host.splitOn '.'
  if parts.length > 1 ∧ parts.getLast? = some [] then parts.dropLast else parts

/-- Whether the last label looks like a number. -/
def endsInNumber (host : List Char) : Bool :=
  match (labels host).getLast? with
  | some last => (last != [] && last.all Char.isDigit) || (number? last).isSome
  | none => false

/-- The address of a list of numbers: one byte each, and what is left for the last one. -/
def combine (numbers : List Nat) : Option Nat :=
  match numbers.reverse with
  | [] => none
  | last :: before =>
    let k := before.length
    if last < Nat.pow 256 (4 - k) ∧ before.all (· < 256) then
      some (before.foldr (fun n acc => acc * 256 + n) 0 * Nat.pow 256 (4 - k) + last)
    else none

def parse? (host : List Char) : Option Nat := do
  let parts := labels host
  if parts.length > 4 then none
  else
    let numbers ← parts.mapM number?
    combine numbers

def print (address : Nat) : String :=
  let byte (k : Nat) := toString (address / Nat.pow 256 k % 256)
  byte 3 ++ "." ++ byte 2 ++ "." ++ byte 1 ++ "." ++ byte 0

end Gatehouse.Ipv4
