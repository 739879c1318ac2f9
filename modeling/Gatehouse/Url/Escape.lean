import Gatehouse.Text.Utf8

/-!
# Escapes in addresses

Each part of an address has its set of characters that must be written as `%` and two digits.
Characters beyond ASCII and controls are always written so, byte by byte.
-/

namespace Gatehouse.Url.Escape

/-- Controls and everything beyond ASCII. -/
def control (c : Char) : Bool := c.toNat < 0x20 || c.toNat ≥ 0x7F

def fragment (c : Char) : Bool := control c || [' ', '"', '<', '>', '\x60'].contains c

def path (c : Char) : Bool := fragment c || ['#', '?', '\x7b', '\x7d'].contains c

def userinfo (c : Char) : Bool :=
  path c || ['/', ':', ';', '=', '@', '[', '\\', ']', '^', '|'].contains c

def query (c : Char) : Bool := control c || [' ', '"', '#', '<', '>'].contains c

/-- In the schemes of the web the apostrophe is escaped too. -/
def specialQuery (c : Char) : Bool := query c || c == '\''

def hexDigit (n : Nat) : Char := (Nat.digitChar n).toUpper

def byte (b : UInt8) : List Char := ['%', hexDigit (b.toNat / 16), hexDigit (b.toNat % 16)]

/-- One character, escaped if it is in the set. -/
def char (set : Char → Bool) (c : Char) : List Char :=
  if set c then (String.utf8EncodeChar c).flatMap byte else [c]

def chars (set : Char → Bool) (cs : List Char) : List Char := cs.flatMap (char set)

end Gatehouse.Url.Escape
