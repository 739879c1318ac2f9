import Gatehouse.Json.Value
import Gatehouse.Decimal.Shortest

/-!
# The compact text of a JSON value

No blanks, members in the order of the value, and only those characters escaped that must be.
-/

namespace Gatehouse

namespace Number

/-- JSON numbers stand without exponent from `0.00001` up to sixteen digits. -/
def layout : Decimal.Layout := ⟨16, 4⟩

def print : Number → List Char
  | natural n => Nat.toDigits 10 n
  | negative n => '-' :: Nat.toDigits 10 n
  | real bits => (layout.write bits).toList

end Number

namespace Json

def hexDigit (n : Nat) : Char := Nat.digitChar n

def printChar (c : Char) : List Char :=
  if c = '"' then ['\\', '"']
  else if c = '\\' then ['\\', '\\']
  else if c = '\x08' then ['\\', 'b']
  else if c = '\x0c' then ['\\', 'f']
  else if c = '\n' then ['\\', 'n']
  else if c = '\r' then ['\\', 'r']
  else if c = '\t' then ['\\', 't']
  else if c.toNat < 0x20 then
    ['\\', 'u', '0', '0', hexDigit (c.toNat / 16), hexDigit (c.toNat % 16)]
  else [c]

def printText (s : String) : List Char := '"' :: s.toList.flatMap printChar ++ ['"']

mutual

def printChars : Json → List Char
  | null => ['n', 'u', 'l', 'l']
  | bool true => ['t', 'r', 'u', 'e']
  | bool false => ['f', 'a', 'l', 's', 'e']
  | number n => n.print
  | text s => printText s
  | array items => '[' :: printItems items ++ [']']
  | object members => '\x7b' :: printMembers members ++ ['\x7d']

def printItems : List Json → List Char
  | [] => []
  | [item] => printChars item
  | item :: rest => printChars item ++ ',' :: printItems rest

def printMembers : List (String × Json) → List Char
  | [] => []
  | [(name, value)] => printText name ++ ':' :: printChars value
  | (name, value) :: rest => printText name ++ ':' :: printChars value ++ ',' :: printMembers rest

end

/-- The compact text of a value. -/
def print (j : Json) : String := String.ofList j.printChars

end Json

end Gatehouse
