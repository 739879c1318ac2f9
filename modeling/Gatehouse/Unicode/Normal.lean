import Gatehouse.Unicode.Runs
import Gatehouse.Unicode.NormalTable

/-!
# Composed normal form

Canonical decomposition, ordering of marks by combining class, and composition. Two texts that show
the same letters with the same marks have one composed form.
-/

namespace Gatehouse.Unicode

/-- What a character decomposes into, and whether the pair composes again. -/
structure Decomposition where
  whole : Nat
  parts : List Nat
  recomposes : Bool

def readDecompositions : Nat → Nat → List Nat → List Decomposition
  | _, _, [] => []
  | 0, _, _ => []
  | fuel + 1, last, w :: rest =>
    let whole := last + w / 3
    if w % 3 = 0 then ⟨whole, rest.take 1, false⟩ :: readDecompositions fuel whole (rest.drop 1)
    else ⟨whole, rest.take 2, w % 3 == 2⟩ :: readDecompositions fuel whole (rest.drop 2)

/-- All decompositions, in increasing order of the whole. -/
def decompositionTable : Array Decomposition :=
  let numbers := (unpack decompositions).toList
  (readDecompositions numbers.length 0 numbers).toArray

def decompositionStarts : Array Nat := decompositionTable.map Decomposition.whole

/-- The pairs that compose, in increasing order of the pair. -/
def compositionTable : Array (Nat × Nat) :=
  let pairs := decompositionTable.toList.filterMap fun d =>
    match d.parts, d.recomposes with
    | [a, b], true => some (a * 0x110000 + b, d.whole)
    | _, _ => none
  (pairs.mergeSort fun a b => a.1 ≤ b.1).toArray

def compositionStarts : Array Nat := compositionTable.map Prod.fst

def combiningClasses : Runs := Runs.ofPacked 256 combiningRuns

/-- The combining class of a code point; zero for characters that start a cluster. -/
def combiningClass (c : Nat) : Nat := combiningClasses.value c

namespace Hangul

/-! Syllables of the Korean script compose by arithmetic. -/

def syllables : Nat := 0xAC00
def leads : Nat := 0x1100
def vowels : Nat := 0x1161
def tails : Nat := 0x11A7

/-- The letters of a syllable. -/
def split (c : Nat) : Option (List Nat) :=
  if syllables ≤ c ∧ c < syllables + 11172 then
    let k := c - syllables
    let letters := [leads + k / 588, vowels + k % 588 / 28]
    some (if k % 28 = 0 then letters else letters ++ [tails + k % 28])
  else none

/-- The syllable of a lead and a vowel, or of an open syllable and a tail. -/
def join (a b : Nat) : Option Nat :=
  if leads ≤ a ∧ a < leads + 19 ∧ vowels ≤ b ∧ b < vowels + 21 then
    some (syllables + (a - leads) * 588 + (b - vowels) * 28)
  else if syllables ≤ a ∧ a < syllables + 11172 ∧ (a - syllables) % 28 = 0 ∧
      tails < b ∧ b < tails + 28 then
    some (a + (b - tails))
  else none

end Hangul

/-- The full decomposition of a code point; no chain in the table is longer than the fuel. -/
def decompose : Nat → Nat → List Nat
  | 0, c => [c]
  | fuel + 1, c =>
    match Hangul.split c with
    | some letters => letters
    | none =>
      match decompositionTable[Runs.bisect decompositionStarts c 0 decompositionStarts.size]? with
      | some d => if d.whole = c then d.parts.flatMap (decompose fuel) else [c]
      | none => [c]

/-- The pair's composition, if it has one. -/
def compose (a b : Nat) : Option Nat :=
  (Hangul.join a b).or <|
    let key := a * 0x110000 + b
    match compositionTable[Runs.bisect compositionStarts key 0 compositionStarts.size]? with
    | some (k, whole) => if k = key then some whole else none
    | none => none

/-- Puts each mark behind the marks of no greater class: `pending` is a run of marks in order. -/
def insertMark (c : Nat) : List Nat → List Nat
  | [] => [c]
  | d :: rest =>
    if combiningClass d ≤ combiningClass c then d :: insertMark c rest else c :: d :: rest

/-- Orders every run of marks by combining class; marks of equal class keep their order. -/
def orderMarks : List Nat → List Nat → List Nat
  | pending, [] => pending
  | pending, c :: rest =>
    if combiningClass c = 0 then pending ++ c :: orderMarks [] rest
    else orderMarks (insertMark c pending) rest

/-- Composes a sequence. `starter` is the last character of class zero, `kept` the marks behind it
that did not compose, newest first. -/
def composeMarks : Option Nat → List Nat → List Nat → List Nat
  | starter, kept, [] => starter.toList ++ kept.reverse
  | none, _, c :: rest =>
    if combiningClass c = 0 then composeMarks (some c) [] rest else c :: composeMarks none [] rest
  | some s, kept, c :: rest =>
    let blocked := match kept with
      | [] => false
      | k :: _ => combiningClass k == 0 || combiningClass k ≥ combiningClass c
    match if blocked then none else compose s c with
    | some whole => composeMarks (some whole) kept rest
    | none =>
      if combiningClass c = 0 then s :: kept.reverse ++ composeMarks (some c) [] rest
      else composeMarks (some s) (c :: kept) rest

def composedForm (cs : List Nat) : List Nat :=
  composeMarks none [] (orderMarks [] (cs.flatMap (decompose 8)))

end Gatehouse.Unicode
