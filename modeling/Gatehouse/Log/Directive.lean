import Gatehouse.Log.Level
import Gatehouse.Pattern.Basic
import Gatehouse.Text.Utf8

/-!
# Directives of a log filter

A directive names a level for the messages of a target, and may ask for a span around them and for
fields: `target[span\x7bfield=value\x7d]=level`. The target alone stands for the finest level; a
level alone is for all targets.

The parts are told apart in the text without the blanks around it, but they are cut at the same
places out of the text with the blanks.
-/

namespace Gatehouse

structure Directive where
  target : Option String := none
  span : Option String := none
  /-- The names of fields, with a mark on those whose value counts. -/
  fields : List (String × Bool) := []
  level : LogLevel := .trace
  deriving DecidableEq, Repr

namespace Directive

/-- A text in which places are counted in bytes. -/
abbrev Source := Bytes

def Source.cut (s : Source) (start stop : Nat) : String :=
  Utf8.decodeLossy ((s.take stop).drop start)

def Source.rest (s : Source) (start : Nat) : String := Utf8.decodeLossy (s.drop start)

def places : (start : Nat) → List Char → List (Char × Nat)
  | _, [] => []
  | i, c :: rest => (c, i) :: places (i + c.utf8Size) rest

def startsTarget (c : Char) : Bool := Unicode.isAlphanumeric c || ['-', ':', '_'].contains c

/-- The level behind an equals sign; nothing stands for the finest. -/
def levelOf (d : Directive) (text : String) : Option Directive :=
  if text = "" then some d else (LogLevel.ofText? text).map fun level => { d with level }

/-- A word that stands alone: a level or a target. -/
def ofWord (word : String) : Directive :=
  match LogLevel.ofText? word with
  | some level => { level }
  | none => { target := some word }

/-- Whether a value can be compared with: a pattern or a plain value. -/
def isValue (s : String) : Bool := (Pattern.compile s).isOk

/-- A field with or without a value. -/
def field? (text : String) : Option (String × Bool) :=
  if text = "" then none
  else
    match text.toList.splitOn '=' with
    | name :: value :: _ =>
      if isValue (String.ofList value) then some (String.ofList name, true) else none
    | _ => some (text, false)

def readLevel (s : Source) (d : Directive) : List (Char × Nat) → Option Directive
  | [] => some d
  | ('=', i) :: _ => d.levelOf (s.rest (i + 1))
  | _ => none

def readField (s : Source) (d : Directive) (start : Nat) (cs : List (Char × Nat)) :
    Option Directive :=
  match cs.dropWhile (·.1 ≠ '\x7d') with
  | (_, i) :: (']', _) :: rest => do
    let field ← field? (s.cut start i)
    readLevel s { d with fields := [field] } rest
  | _ => none

def readSpan (s : Source) (d : Directive) (start : Nat) (cs : List (Char × Nat)) :
    Option Directive :=
  match cs.dropWhile fun c => c.1 ≠ ']' && c.1 ≠ '\x7b' with
  | (']', i) :: rest => readLevel s { d with span := some (s.cut start i) } rest
  | (_, i) :: rest =>
    let name := s.cut start i
    readField s { d with span := if name = "" then none else some name } (i + 1) rest
  | [] => none

def readWord (s : Source) (start : Nat) (cs : List (Char × Nat)) : Option Directive :=
  match cs.dropWhile fun c => c.1 ≠ '=' && c.1 ≠ '[' with
  | ('=', i) :: _ => levelOf { target := some (s.cut start i) } (s.rest (i + 1))
  | (_, i) :: rest => readSpan s { target := some (s.cut start i) } (i + 1) rest
  | [] => some (ofWord (s.rest start))

/-- The directive that a text without commas is. -/
def ofText? (text : String) : Option Directive :=
  let s := Utf8.encode text
  match places 0 (Unicode.trim text.toList) with
  | ('[', i) :: rest => readSpan s {} (i + 1) rest
  | (c, i) :: rest => if startsTarget c then readWord s i rest else none
  | [] => none

end Directive

end Gatehouse
