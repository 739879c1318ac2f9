import Gatehouse.Unicode.Category

/-!
# Quoted texts

A text inside a message stands between double quotes, with everything that would not show on a page
spelled out.
-/

namespace Gatehouse.Quoted

open Unicode

def hex (n : Nat) : List Char := Nat.toDigits 16 n

/-- One character between double quotes: five escapes of their own, the quote and the backslash
behind a backslash, and a number in braces for characters that do not print or that would be drawn
upon their neighbour. -/
def char (c : Char) : List Char :=
  match c with
  | '\x00' => ['\\', '0']
  | '\t' => ['\\', 't']
  | '\n' => ['\\', 'n']
  | '\r' => ['\\', 'r']
  | '"' => ['\\', '"']
  | '\\' => ['\\', '\\']
  | c =>
    if extendsPrevious c || !isPrintable c then '\\' :: 'u' :: '\x7b' :: hex c.toNat ++ ['\x7d']
    else [c]

def text (s : String) : String := String.ofList ('"' :: s.toList.flatMap char ++ ['"'])

end Gatehouse.Quoted
