import Gatehouse.Unicode.Category

/-!
# Places in a YAML text

A cursor is a place in a text: what lies ahead, and how far it is from the start of the text and of
its line. Line breaks are those of the format, of which a carriage return with a line feed is one.
-/

namespace Gatehouse.Yaml

def isAllowed (c : Char) : Bool :=
  let n := c.toNat
  n == 0x09 || n == 0x0A || n == 0x0D || (0x20 ≤ n && n ≤ 0x7E) || n == 0x85 ||
  (0xA0 ≤ n && n ≤ 0xFFFD) || 0x10000 ≤ n

def isBreak (c : Char) : Bool :=
  c == '\n' || c == '\r' || c == '\x85' || c == '\u2028' || c == '\u2029'

def isBlank (c : Char) : Bool := c == ' ' || c == '\t'

def isNameChar (c : Char) : Bool := c.isAlphanum || c == '_' || c == '-'

structure Cursor where
  rest : List Char
  index : Nat := 0
  line : Nat := 0
  column : Nat := 0
  deriving Inhabited, Repr

namespace Cursor

def peek (c : Cursor) : Option Char := c.rest.head?

def peekAt (c : Cursor) (i : Nat) : Option Char := c.rest[i]?

def sees (c : Cursor) (x : Char) : Bool := c.peek == some x

def seesAll (c : Cursor) (xs : List Char) : Bool := xs.isPrefixOf c.rest

def atEnd (c : Cursor) : Bool := c.rest.isEmpty

def atBlank (c : Cursor) : Bool := c.peek.any isBlank

def atBreak (c : Cursor) : Bool := c.peek.any isBreak

/-- Whether what stands so many places ahead is a blank, a break or the end. -/
def endsWordAt (c : Cursor) (i : Nat) : Bool := (c.peekAt i).all fun x => isBlank x || isBreak x

def endsWord (c : Cursor) : Bool := c.endsWordAt 0

/-- Whether a break or the end is ahead. -/
def atLineEnd (c : Cursor) : Bool := c.peek.all isBreak

/-- Goes on by some characters of a line. -/
def skip (c : Cursor) (n : Nat) : Cursor :=
  let passed := (c.rest.take n).length
  { c with rest := c.rest.drop n, index := c.index + passed, column := c.column + passed }

/-- The characters ahead as long as they pass a test, none of them a break, and the place behind. -/
def span (c : Cursor) (p : Char → Bool) : List Char × Cursor :=
  let taken := c.rest.takeWhile fun x => p x && !isBreak x
  (taken, c.skip taken.length)

def skipWhile (c : Cursor) (p : Char → Bool) : Cursor := (c.span p).2

/-- Goes on to the next line. The break that was passed counts as a line feed unless it is one of
the two separators, which stand for themselves. -/
def nextLine (c : Cursor) : List Char × Cursor :=
  match c.rest with
  | '\r' :: '\n' :: rest =>
    (['\n'], { c with rest, index := c.index + 2, line := c.line + 1, column := 0 })
  | x :: rest =>
    if isBreak x then
      (if x = '\u2028' ∨ x = '\u2029' then [x] else ['\n'],
        { c with rest, index := c.index + 1, line := c.line + 1, column := 0 })
    else ([], c)
  | [] => ([], c)

/-- Whether a marker of the start or the end of a document is ahead, at the start of a line. -/
def atMarker (c : Cursor) : Bool :=
  c.column == 0 && (c.seesAll ['-', '-', '-'] || c.seesAll ['.', '.', '.']) && c.endsWordAt 3

/-- Goes on to the end of the line over blanks and a comment; there may be nothing else. -/
def skipComment? (c : Cursor) : Option Cursor :=
  let c := c.skipWhile isBlank
  let c := if c.sees '#' then c.skipWhile fun _ => true else c
  if c.atLineEnd then some c.nextLine.2 else none

end Cursor

end Gatehouse.Yaml
