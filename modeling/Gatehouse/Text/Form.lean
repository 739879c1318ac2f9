import Gatehouse.Text.Utf8

/-!
# Form fields

A query holds fields `name=value` between ampersands. Plus signs stand for blanks and `%` with two
hexadecimal digits for a byte; empty fields do not count.
-/

namespace Gatehouse.Form

def hexValue (c : Char) : Option Nat :=
  if '0' ≤ c ∧ c ≤ '9' then some (c.toNat - '0'.toNat)
  else if 'a' ≤ c ∧ c ≤ 'f' then some (c.toNat - 'a'.toNat + 10)
  else if 'A' ≤ c ∧ c ≤ 'F' then some (c.toNat - 'A'.toNat + 10)
  else none

/-- The bytes that a text with percent escapes stands for; a `%` that no two digits follow stands
for itself. -/
def percentDecode : List Char → Bytes
  | '%' :: a :: b :: rest =>
    match hexValue a, hexValue b with
    | some x, some y => UInt8.ofNat (x * 16 + y) :: percentDecode rest
    | _, _ => UInt8.ofNat '%'.toNat :: percentDecode (a :: b :: rest)
  | c :: rest => String.utf8EncodeChar c ++ percentDecode rest
  | [] => []

/-- The text of a name or of a value. -/
def decodePart (cs : List Char) : String :=
  Utf8.decodeLossy (percentDecode (cs.map fun c => if c = '+' then ' ' else c))

/-- The stretch before the first `=` and the stretch behind it; the latter is empty without one. -/
def splitField (field : List Char) : List Char × List Char :=
  (field.takeWhile (· ≠ '='), (field.dropWhile (· ≠ '=')).drop 1)

/-- The non-empty stretches between ampersands. -/
def fields (query : List Char) : List (List Char) :=
  (query.splitOn '&').filter (· ≠ [])

/-- The names and values of a query, in order. -/
def parameters (query : String) : List (String × String) :=
  (fields query.toList).map fun f => (decodePart (splitField f).1, decodePart (splitField f).2)

end Gatehouse.Form
