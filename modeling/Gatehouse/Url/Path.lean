import Gatehouse.Url.Escape
import Gatehouse.Url.Scheme

/-!
# Paths of addresses

A path is read segment by segment. A segment of one dot stands for nothing and one of two dots takes
the segment before it away, also where dots are written as `%2e`. In addresses of files a drive
letter at the front is never taken away.
-/

namespace Gatehouse.Url.Path

/-- A drive letter: a letter and a colon or a bar. -/
def isDrive : List Char → Bool
  | [a, b] => a.isAlpha && (b == ':' || b == '|')
  | _ => false

/-- Whether a text begins with a drive letter that ends there or before a separator. -/
def beginsWithDrive : List Char → Bool
  | [a, b] => isDrive [a, b]
  | a :: b :: c :: _ => isDrive [a, b] && (c == '/' || c == '\\' || c == '?' || c == '#')
  | _ => false

/-- The dots of a segment, some of which may be escaped. -/
def dots : List Char → Option Nat
  | [] => some 0
  | '.' :: rest => (dots rest).map (· + 1)
  | '%' :: '2' :: e :: rest => if e == 'e' || e == 'E' then (dots rest).map (· + 1) else none
  | _ => none

/-- A path under construction, written backwards. -/
structure Draft where
  reversed : List Char
  /-- Whether a drive letter at the front did away with the host. -/
  dropsHost : Bool := false

namespace Draft

def endsInSlash (d : Draft) : Bool := d.reversed.head? == some '/'

/-- A slash at the end, if there is none. -/
def closeSlash (d : Draft) : Draft :=
  if d.endsInSlash then d else { d with reversed := '/' :: d.reversed }

/-- Whether the slash at the end may go: there is another one before it, and no drive letter between
them. -/
def slashMayGo : List Char → Bool
  | '/' :: rest =>
    rest.contains '/' && !beginsWithDrive ((rest.takeWhile (· ≠ '/')).reverse ++ ['/'])
  | _ => false

/-- The path without its last segment. -/
def shorten (kind : SchemeKind) (d : Draft) : Draft :=
  let d := if slashMayGo d.reversed then { d with reversed := d.reversed.drop 1 } else d
  let last := (d.reversed.takeWhile (· ≠ '/')).reverse
  if kind = .file ∧ isDrive last ∧ last.getLast? = some ':' then d
  else { d with reversed := d.reversed.dropWhile (· ≠ '/') }

/-- Adds a segment, given backwards; `slash` tells whether a slash follows it. -/
def addSegment (kind : SchemeKind) (hasHost : Bool) (d : Draft) (segment : List Char)
    (slash : Bool) : Draft :=
  let close (reversed : List Char) := if slash then '/' :: reversed else reversed
  match dots segment.reverse with
  | some 2 =>
    let d := d.shorten kind
    if slash then d.closeSlash else d
  | some 1 => d.closeSlash
  | _ =>
    if kind = .file ∧ d.reversed = ['/'] ∧ isDrive segment.reverse then
      { reversed := close (':' :: segment.drop 1 ++ d.reversed)
        dropsHost := d.dropsHost || hasHost }
    else { d with reversed := close (segment ++ d.reversed) }

end Draft

/-- Reads a path up to a question mark or a number sign; `segment` is what was read of the current
segment, backwards. Yields the path and what follows it. -/
def read (kind : SchemeKind) (hasHost : Bool) :
    (d : Draft) → (segment : List Char) → List Char → Draft × List Char
  | d, segment, [] => (d.addSegment kind hasHost segment false, [])
  | d, segment, c :: rest =>
    if c = '/' ∨ (c = '\\' ∧ kind.isSpecial) then
      read kind hasHost (d.addSegment kind hasHost segment true) [] rest
    else if c = '?' ∨ c = '#' then (d.addSegment kind hasHost segment false, c :: rest)
    else
      let added := (Escape.char Escape.path c).reverse
      if kind = .file ∧ d.reversed = ['/'] ∧ isDrive segment.reverse ∧ segment.head? = some ':' then
        read kind hasHost { d with reversed := '/' :: segment ++ d.reversed } added rest
      else read kind hasHost d (added ++ segment) rest

/-- The path of a draft. In an address of a file it begins with exactly one slash. -/
def Draft.finish (kind : SchemeKind) (d : Draft) : List Char :=
  let p := d.reversed.reverse
  if kind = .file then '/' :: p.dropWhile (· = '/') else p

end Gatehouse.Url.Path
