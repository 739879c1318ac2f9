import Gatehouse.Text.Utf8
import Gatehouse.Unicode.Category
import Gatehouse.Unicode.Direction
import Gatehouse.Unicode.HostTable
import Gatehouse.Unicode.Punycode

/-!
# International host names

A host name is mapped to a normal form character by character, composed, and cut at its dots; each
label with characters beyond ASCII is then written in plain form behind `xn--`. A label that already
has that form must be the plain form of a valid label.
-/

namespace Gatehouse.HostName

open Unicode

inductive Mapping
  | kept
  | dropped
  | refused
  | replaced (cs : List Nat)
  deriving DecidableEq, Repr

/-- Reads the packed runs: where each begins and what becomes of its characters. -/
def readMappings : (fuel next : Nat) → List Nat → List (Nat × Mapping)
  | 0, _, _ => []
  | _, _, [] => []
  | fuel + 1, next, w :: rest =>
    let after := next + w / 6
    match w % 6, rest with
    | 2, _ => (next, .dropped) :: readMappings fuel after rest
    | 3, _ => (next, .refused) :: readMappings fuel after rest
    | 4, c :: rest => (next, .replaced [c]) :: readMappings fuel after rest
    | 5, n :: rest => (next, .replaced (rest.take n)) :: readMappings fuel after (rest.drop n)
    | _, _ => (next, .kept) :: readMappings fuel after rest

def mappings : Array (Nat × Mapping) :=
  let numbers := (unpack hostRuns).toList
  (readMappings numbers.length 0 numbers).toArray

def mappingStarts : Array Nat := mappings.map Prod.fst

def mapping (c : Nat) : Mapping :=
  match mappings[Runs.bisect mappingStarts c 0 mappingStarts.size]? with
  | some (_, m) => m
  | none => .refused

/-- Plain characters that no host name may hold. -/
def isForbidden (c : Nat) : Bool :=
  c ≤ 0x20 || c == 0x7F ||
  (['%', '#', '/', ':', '<', '>', '?', '@', '[', '\\', ']', '^', '|'].map Char.toNat).contains c

def mapAll : List Nat → Option (List Nat)
  | [] => some []
  | c :: rest =>
    match mapping c with
    | .refused => none
    | .dropped => mapAll rest
    | .kept => (mapAll rest).map (c :: ·)
    | .replaced cs => (mapAll rest).map (cs ++ ·)

/-- Whether a label with characters beyond ASCII may stand in a host name. -/
def isValidLabel (label : List Nat) : Bool :=
  (match label.head? with
    | some c => !(category (Char.ofNat c)).isMark
    | none => true) &&
  label.all (fun c => mapping c == .kept && !isForbidden c) &&
  composedForm label == label &&
  joinersAllowed [] label

/-- What a plain form begins with. -/
def marker : List Nat := ['x', 'n', '-', '-'].map Char.toNat

/-- A label as it is checked and as it is written. -/
structure Label where
  checked : List Nat
  written : List Char

def readLabel (label : List Nat) : Option Label :=
  match marker.isPrefixOf? label with
  | some rest => do
    if rest.all (· < 128) then
      let decoded ← Punycode.decode? (rest.map Char.ofNat)
      if decoded.all (· < 128) || decoded.contains '.'.toNat then none
      else if isValidLabel decoded then some ⟨decoded, label.map Char.ofNat⟩
      else none
    else none
  | none =>
    if label.all (· < 128) then
      if label.any isForbidden then none else some ⟨label, label.map Char.ofNat⟩
    else if isValidLabel label then
      some ⟨label, (marker.map Char.ofNat) ++ Punycode.encode label⟩
    else none

def toAscii? (host : Bytes) : Option String := do
  let text ← Utf8.decode? host
  let mapped ← mapAll (text.toList.map Char.toNat)
  let labels ← ((composedForm mapped).splitOn '.'.toNat).mapM readLabel
  let rightward := labels.any fun l => l.checked.any isRightward
  if rightward && !(labels.all fun l => keepsDirection l.checked) then none
  else some (String.ofList (List.intercalate ['.'] (labels.map Label.written)))

end Gatehouse.HostName
