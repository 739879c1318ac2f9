import Gatehouse.Url.Ipv4

/-!
# Addresses of eight pieces

Pieces are hexadecimal numbers of at most four digits with colons between them. One double colon
stands for any number of zero pieces, and the last two pieces may be written as four bytes.
-/

namespace Gatehouse.Ipv6

/-- A byte in decimal, without leading zeros. -/
def byte? (cs : List Char) : Option Nat :=
  match cs with
  | [] => none
  | '0' :: _ :: _ => none
  | cs => (Ipv4.natIn 10 cs).filter (· < 256)

/-- Four bytes, as two pieces. -/
def tail? (cs : List Char) : Option (List Nat) :=
  match (cs.splitOn '.').mapM byte? with
  | some [a, b, c, d] => some [a * 256 + b, c * 256 + d]
  | _ => none

/-- A piece of one to four digits. -/
def piece? (cs : List Char) : Option Nat :=
  if cs = [] ∨ cs.length > 4 then none else Ipv4.natIn 16 cs

/-- The pieces of a text without double colon; `last` tells whether it ends the address. -/
def pieces? (last : Bool) (cs : List Char) : Option (List Nat) :=
  if cs = [] then some []
  else
    let parts := cs.splitOn ':'
    let final := parts.getLast?.getD []
    if last && final.contains '.' then do
      let front ← parts.dropLast.mapM piece?
      return front ++ (← tail? final)
    else parts.mapM piece?

/-- The parts of a text before and behind its first double colon. -/
def splitGap : List Char → Option (List Char × List Char)
  | ':' :: ':' :: rest => some ([], rest)
  | c :: rest => (splitGap rest).map fun (a, b) => (c :: a, b)
  | [] => none

def parse? (cs : List Char) : Option (List Nat) :=
  match splitGap cs with
  | none => (pieces? true cs).filter (·.length = 8)
  | some (front, back) => do
    let before ← pieces? false front
    let after ← pieces? true back
    let n := before.length + after.length
    if n < 8 then some (before ++ List.replicate (8 - n) 0 ++ after) else none

def zeros (ps : List Nat) : Nat := (ps.takeWhile (· = 0)).length

/-- The first of the longest runs of zeros: where it begins and how long it is. -/
def longestGap (ps : List Nat) : Nat × Nat :=
  (List.range ps.length).foldl (fun (best : Nat × Nat) i =>
    let n := zeros (ps.drop i)
    if n > best.2 then (i, n) else best) (0, 0)

def printPieces (ps : List Nat) : List Char :=
  List.intercalate [':'] (ps.map (Nat.toDigits 16))

/-- The usual form: the longest run of at least two zeros is left out. -/
def print (ps : List Nat) : String :=
  let (start, n) := longestGap ps
  String.ofList <|
    if n < 2 then printPieces ps
    else printPieces (ps.take start) ++ [':', ':'] ++ printPieces (ps.drop (start + n))

end Gatehouse.Ipv6
