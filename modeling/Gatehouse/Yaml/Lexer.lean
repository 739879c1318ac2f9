import Gatehouse.Text.Utf8
import Gatehouse.Yaml.Scalar
import Gatehouse.Yaml.Token

/-!
# From texts to tokens

Indentation opens and closes blocks. A word that may be the key of a mapping is remembered until it
is seen whether a colon follows on the same line; if so, the key token goes before it.
-/

namespace Gatehouse.Yaml

/-- A word that may turn out to be a key. -/
structure Candidate where
  /-- How many tokens came before it. -/
  place : Nat
  /-- Whether nothing but a key can stand there. -/
  required : Bool
  index : Nat
  line : Nat
  column : Nat

namespace Candidate

def maxLength : Nat := 1024

/-- Whether a colon at a place makes it a key. -/
def isNear (k : Candidate) (c : Cursor) : Bool :=
  k.line == c.line && c.index ≤ k.index + maxLength

end Candidate

structure Lexer where
  cursor : Cursor
  tokens : Array Token := #[]
  /-- The column of the block at hand; `-1` outside of all blocks. -/
  indent : Int := -1
  /-- The columns of the blocks around it. -/
  outer : List Int := []
  /-- The candidate outside of brackets. -/
  candidate : Option Candidate := none
  /-- The candidates inside of each pair of brackets that is open, the innermost first. -/
  inner : List (Option Candidate) := []
  /-- Whether a key may begin here. -/
  keyAllowed : Bool := true

namespace Lexer

def inFlow (l : Lexer) : Bool := !l.inner.isEmpty

def push (l : Lexer) (t : Token) : Lexer := { l with tokens := l.tokens.push t }

def column (l : Lexer) : Nat := l.cursor.column

def take (l : Lexer) (n : Nat) (t : Token) : Lexer :=
  { l with cursor := l.cursor.skip n }.push t

/-! ### Candidates for keys -/

def top (l : Lexer) : Option Candidate :=
  match l.inner with
  | [] => l.candidate
  | k :: _ => k

def setTop (l : Lexer) (k : Option Candidate) : Lexer :=
  match l.inner with
  | [] => { l with candidate := k }
  | _ :: rest => { l with inner := k :: rest }

/-- Forgets the innermost candidate, unless it had to be a key. -/
def dropCandidate (l : Lexer) : Option Lexer :=
  if l.top.any Candidate.required then none else some (l.setTop none)

/-- Remembers that a key may begin here. -/
def saveCandidate (l : Lexer) : Option Lexer :=
  if l.keyAllowed then do
    let c := l.cursor
    let required := !l.inFlow && l.indent == c.column
    let l ← l.dropCandidate
    return l.setTop (some ⟨l.tokens.size, required, c.index, c.line, c.column⟩)
  else some l

/-! ### Blocks -/

/-- Opens a block at a column if it is further right than the block at hand. Its first token goes to
a place among the tokens. -/
def openBlock (l : Lexer) (column place : Nat) (t : Token) : Lexer :=
  if l.inFlow ∨ l.indent ≥ column then l
  else
    { l with
      outer := l.indent :: l.outer
      indent := column
      tokens := l.tokens.insertIdxIfInBounds place t }

/-- Closes the blocks right of a column. -/
def closeBlocks (column : Int) : List Int → Lexer → Lexer
  | [], l => l
  | i :: outer, l =>
    if l.inFlow ∨ l.indent ≤ column then l
    else closeBlocks column outer { (l.push .blockEnd) with indent := i, outer }

def unroll (l : Lexer) (column : Int) : Lexer := closeBlocks column l.outer l

/-! ### Indicators -/

/-- A directive or a marker ends all blocks. -/
def endBlocks (l : Lexer) : Option Lexer := do
  let l ← (l.unroll (-1)).dropCandidate
  return { l with keyAllowed := false }

def marker (l : Lexer) (t : Token) : Option Lexer := do
  return (← l.endBlocks).take 3 t

def openFlow (l : Lexer) (t : Token) : Option Lexer := do
  let l ← l.saveCandidate
  return { (l.take 1 t) with inner := none :: l.inner, keyAllowed := true }

def closeFlow (l : Lexer) (t : Token) : Option Lexer := do
  let l ← l.dropCandidate
  return { (l.take 1 t) with inner := l.inner.drop 1, keyAllowed := false }

def flowEntry (l : Lexer) : Option Lexer := do
  let l ← l.dropCandidate
  return { (l.take 1 .flowEntry) with keyAllowed := true }

def blockEntry (l : Lexer) : Option Lexer := do
  if !l.inFlow && !l.keyAllowed then none
  let l ← (l.openBlock l.column l.tokens.size .blockSequenceStart).dropCandidate
  return { (l.take 1 .blockEntry) with keyAllowed := true }

def keyMark (l : Lexer) : Option Lexer := do
  if !l.inFlow && !l.keyAllowed then none
  let l ← (l.openBlock l.column l.tokens.size .blockMappingStart).dropCandidate
  return { (l.take 1 .key) with keyAllowed := !l.inFlow }

def valueMark (l : Lexer) : Option Lexer :=
  match l.top.filter (·.isNear l.cursor) with
  | some k =>
    let l := { l with tokens := l.tokens.insertIdxIfInBounds k.place .key }
    let l := (l.openBlock k.column k.place .blockMappingStart).setTop none
    some { (l.take 1 .value) with keyAllowed := false }
  | none =>
    if l.top.any Candidate.required then none
    else if !l.inFlow && !l.keyAllowed then none
    else
      let l := (l.setTop none).openBlock l.column l.tokens.size .blockMappingStart
      some { (l.take 1 .value) with keyAllowed := !l.inFlow }

/-! ### Words -/

/-- A word that may be a key. -/
def word (l : Lexer) (read : Cursor → Option (Token × Cursor)) : Option Lexer := do
  let l ← l.saveCandidate
  let (t, cursor) ← read l.cursor
  return { (l.push t) with cursor, keyAllowed := false }

def readName (make : String → Token) (c : Cursor) : Option (Token × Cursor) :=
  let (name, c) := (c.skip 1).span isNameChar
  let ends := c.endsWord || c.peek.any ['?', ':', ',', ']', '\x7d', '%', '@', '\x60'].contains
  if name ≠ [] ∧ ends then some (make (String.ofList name), c) else none

def isTagChar (verbatim : Bool) (c : Char) : Bool :=
  isNameChar c ||
  [';', '/', '?', ':', '@', '&', '=', '+', '$', '.', '%', '!', '~', '*', '\'', '(',
   ')'].contains c ||
  (verbatim && [',', '[', ']'].contains c)

/-- How many bytes a character has that begins with a certain one. -/
def widthOf (b : Nat) : Option Nat :=
  if b < 0x80 then some 1
  else if b / 0x20 = 6 then some 2
  else if b / 0x10 = 14 then some 3
  else if b / 8 = 30 then some 4
  else none

/-- The bytes of a tag, with its escapes decoded; `due` bytes of a character are to come. -/
def tagBytes : (due : Nat) → List Char → Option Bytes
  | due, '%' :: a :: b :: rest => do
    let n := (← Quoted.hexValue? a) * 16 + (← Quoted.hexValue? b)
    match due with
    | 0 => return UInt8.ofNat n :: (← tagBytes ((← widthOf n) - 1) rest)
    | due + 1 => if n / 0x40 = 2 then return UInt8.ofNat n :: (← tagBytes due rest) else none
  | 0, c :: rest => if c = '%' then none else return String.utf8EncodeChar c ++ (← tagBytes 0 rest)
  | 0, [] => some []
  | _ + 1, _ => none

def readTagRest (verbatim : Bool) (c : Cursor) : Option (String × Cursor) := do
  let (chars, c) := c.span (isTagChar verbatim)
  return (Utf8.decodeLossy (← tagBytes 0 chars), c)

/-- The handle of a tag: name characters between exclamation marks, or one such mark alone. The
second part tells whether the closing mark is there. -/
def readHandle (c : Cursor) : List Char × Bool × Cursor :=
  let (name, c) := (c.skip 1).span isNameChar
  if c.sees '!' then ('!' :: name ++ ['!'], true, c.skip 1) else ('!' :: name, false, c)

def readTag (inFlow : Bool) (c : Cursor) : Option (Token × Cursor) := do
  let (t, c) ←
    if c.peekAt 1 = some '<' then do
      let (rest, d) ← readTagRest true (c.skip 2)
      if rest = "" ∨ ¬ d.sees '>' then none
      pure (Token.tag "" rest, d.skip 1)
    else
      match readHandle c with
      | (handle, true, d) => do
        let (rest, d) ← readTagRest false d
        if rest = "" then none
        pure (Token.tag (String.ofList handle) rest, d)
      | (name, false, d) => do
        let (rest, d) ← readTagRest false d
        let rest := String.ofList (name.drop 1) ++ rest
        pure (if rest = "" then Token.tag "" "!" else Token.tag "!" rest, d)
  if c.endsWord || (inFlow && c.sees ',') then return (t, c) else none

def readQuoted (quote : Char) (style : Style) (c : Cursor) : Option (Token × Cursor) := do
  let (text, c) ← Quoted.read quote (c.rest.length + 1) [] (c.skip 1)
  return (.scalar (String.ofList text) style, c)

def block (l : Lexer) (style : Style) : Option Lexer := do
  let l ← l.dropCandidate
  let (text, cursor) ← Block.read (style == .literal) l.indent (l.cursor.skip 1)
  return { (l.push (.scalar (String.ofList text) style)) with cursor, keyAllowed := true }

/-- A plain scalar. A key may begin behind it if it ended with a break. -/
def plain (l : Lexer) : Option Lexer := do
  let l ← l.saveCandidate
  let fuel := l.cursor.rest.length + 1
  let (text, broken, cursor) ← Plain.read l.inFlow (l.indent + 1).toNat fuel [] {} l.cursor
  return { (l.push (.scalar (String.ofList text) .plain)) with cursor, keyAllowed := broken }

/-! ### Directives -/

/-- A number of at most nine digits. -/
def readVersionPart (c : Cursor) : Option (Nat × Cursor) :=
  let (digits, c) := c.span Char.isDigit
  if digits ≠ [] ∧ digits.length ≤ 9 then
    some (digits.foldl (fun n d => n * 10 + (d.toNat - '0'.toNat)) 0, c)
  else none

def readVersion (c : Cursor) : Option (Token × Cursor) := do
  let (major, c) ← readVersionPart (c.skipWhile isBlank)
  if ¬ c.sees '.' then none
  let (minor, c) ← readVersionPart (c.skip 1)
  return (.version major minor, c)

/-- The value of a directive that declares a handle. -/
def readHandleDirective (c : Cursor) : Option (Token × Cursor) := do
  let c := c.skipWhile isBlank
  if ¬ c.sees '!' then none
  let (handle, closed, c) := readHandle c
  if (¬ closed ∧ handle ≠ ['!']) ∨ ¬ c.atBlank then none
  let (start, c) ← readTagRest true (c.skipWhile isBlank)
  if start = "" ∨ ¬ c.endsWord then none
  return (.handle (String.ofList handle) start, c)

def directive (l : Lexer) : Option Lexer := do
  let l ← l.endBlocks
  let (name, c) := (l.cursor.skip 1).span isNameChar
  if name = [] ∨ ¬ c.endsWord then none
  let (t, c) ←
    if name = ['Y', 'A', 'M', 'L'] then readVersion c
    else if name = ['T', 'A', 'G'] then readHandleDirective c
    else none
  let cursor ← c.skipComment?
  return { (l.push t) with cursor }

/-! ### The loop -/

/-- Goes on to the next token over blanks, comments and breaks. Tabs do not count as blanks where a
key may begin. A mark of the byte order at the start of a line is passed over, but takes up a
column. -/
def toNext : (fuel : Nat) → Lexer → Lexer
  | 0, l => l
  | fuel + 1, l =>
    let tabs := l.inFlow || !l.keyAllowed
    let c := l.cursor
    let c := if c.column = 0 ∧ c.sees '\ufeff' then c.skip 1 else c
    let c := c.skipWhile fun x => x == ' ' || (tabs && x == '\t')
    let c := if c.sees '#' then c.skipWhile fun _ => true else c
    if c.atBreak then
      toNext fuel { l with cursor := c.nextLine.2, keyAllowed := l.keyAllowed || !l.inFlow }
    else { l with cursor := c }

/-- Whether a plain scalar may begin with a character, whatever follows. -/
def startsPlain (c : Char) : Bool :=
  !(isBlank c || isBreak c ||
    ['-', '?', ':', ',', '[', ']', '\x7b', '\x7d', '#', '&', '*', '!', '|', '>', '\'', '"', '%',
     '@', '\x60'].contains c)

def token (l : Lexer) (x : Char) : Option Lexer :=
  let c := l.cursor
  let endsAfter := c.endsWordAt 1
  if c.column = 0 ∧ x = '%' then l.directive
  else if c.atMarker then l.marker (if x = '-' then .documentStart else .documentEnd)
  else if x = '[' then l.openFlow .flowSequenceStart
  else if x = '\x7b' then l.openFlow .flowMappingStart
  else if x = ']' then l.closeFlow .flowSequenceEnd
  else if x = '\x7d' then l.closeFlow .flowMappingEnd
  else if x = ',' then l.flowEntry
  else if x = '-' ∧ endsAfter then l.blockEntry
  else if x = '?' ∧ (l.inFlow ∨ endsAfter) then l.keyMark
  else if x = ':' ∧ (l.inFlow ∨ endsAfter) then l.valueMark
  else if x = '*' then l.word (readName .alias)
  else if x = '&' then l.word (readName .anchor)
  else if x = '!' then l.word (readTag l.inFlow)
  else if x = '|' ∧ ¬ l.inFlow then l.block .literal
  else if x = '>' ∧ ¬ l.inFlow then l.block .folded
  else if x = '\'' then l.word (readQuoted '\'' .singleQuoted)
  else if x = '"' then l.word (readQuoted '"' .doubleQuoted)
  else if startsPlain x ∨ (x = '-' ∧ ¬ (c.peekAt 1).any isBlank) ∨
      (¬ l.inFlow ∧ (x = '?' ∨ x = ':') ∧ ¬ endsAfter) then l.plain
  else none

def run : (fuel : Nat) → Lexer → Option (List Token)
  | 0, _ => none
  | fuel + 1, l =>
    let l := l.toNext (l.cursor.rest.length + 1)
    let l := l.unroll l.column
    match l.cursor.peek with
    | some x => (l.token x).bind (run fuel)
    | none => (l.unroll (-1)).dropCandidate.map fun l => l.tokens.toList

def tokens? (text : List Char) : Option (List Token) :=
  if text.all isAllowed then run (text.length + 2) { cursor := { rest := text } } else none

end Lexer

end Gatehouse.Yaml
