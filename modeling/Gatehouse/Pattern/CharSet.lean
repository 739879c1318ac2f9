import Gatehouse.Unicode.CaseFold
import Gatehouse.Unicode.Category
import Gatehouse.Unicode.Script

/-!
# Sets of characters

The sets that patterns name, built from ranges and properties by the operations on sets.
-/

namespace Gatehouse.Pattern

open Unicode

inductive Property
  | inCategory (k : Category)
  | inScript (s : Script)
  | alphabetic
  | lowercase
  | uppercase
  | blank
  | word
  | assigned
  deriving DecidableEq, Repr

/-- Letters and signs that count as lower case although they are no lower-case letters. -/
def otherLowercase : List (Nat × Nat) :=
  [(0xAA, 0xAA), (0xBA, 0xBA), (0x2B0, 0x2B8), (0x2C0, 0x2C1), (0x2E0, 0x2E4), (0x345, 0x345),
   (0x37A, 0x37A), (0x10FC, 0x10FC), (0x1D2C, 0x1D6A), (0x1D78, 0x1D78), (0x1D9B, 0x1DBF),
   (0x2071, 0x2071), (0x207F, 0x207F), (0x2090, 0x209C), (0x2170, 0x217F), (0x24D0, 0x24E9),
   (0x2C7C, 0x2C7D), (0xA69C, 0xA69D), (0xA770, 0xA770), (0xA7F2, 0xA7F4), (0xA7F8, 0xA7F9),
   (0xAB5C, 0xAB5F), (0xAB69, 0xAB69), (0x10780, 0x10780), (0x10783, 0x10785), (0x10787, 0x107B0),
   (0x107B2, 0x107BA), (0x1E030, 0x1E06D)]

/-- Signs that count as upper case although they are no letters. -/
def otherUppercase : List (Nat × Nat) :=
  [(0x2160, 0x216F), (0x24B6, 0x24CF), (0x1F130, 0x1F149), (0x1F150, 0x1F169), (0x1F170, 0x1F189)]

def inRanges (ranges : List (Nat × Nat)) (c : Nat) : Bool :=
  ranges.any fun (low, high) => low ≤ c && c ≤ high

def Property.holds (p : Property) (c : Nat) : Bool :=
  let k := Category.ofNumber (categories.value c)
  match p with
  | inCategory j => k == j
  | inScript s => script c == s
  | alphabetic => isAlphabetic (Char.ofNat c)
  | lowercase => k == .lowerLetter || inRanges otherLowercase c
  | uppercase => k == .upperLetter || inRanges otherUppercase c
  | blank => isBlank (Char.ofNat c)
  | word => isWord (Char.ofNat c)
  | assigned => k != .unassigned

inductive CharSet
  | nothing
  | range (low high : Nat)
  | having (p : Property)
  | complement (a : CharSet)
  | union (a b : CharSet)
  | intersection (a b : CharSet)
  | difference (a b : CharSet)
  | symmetricDifference (a b : CharSet)
  /-- All characters that differ in case only from one of the set. -/
  | anyCase (a : CharSet)
  deriving DecidableEq, Repr

namespace CharSet

def has : CharSet → Nat → Bool
  | nothing, _ => false
  | range low high, c => low ≤ c && c ≤ high
  | having p, c => p.holds c
  | complement a, c => !a.has c
  | union a b, c => a.has c || b.has c
  | intersection a b, c => a.has c && b.has c
  | difference a b, c => a.has c && !b.has c
  | symmetricDifference a b, c => a.has c != b.has c
  | anyCase a, c => (caseVariants c).any a.has

def single (c : Nat) : CharSet := range c c

def unions : List CharSet → CharSet
  | [] => nothing
  | [a] => a
  | a :: rest => union a (unions rest)

def ofRanges (ranges : List (Nat × Nat)) : CharSet := unions (ranges.map fun (a, b) => range a b)

def ofCategories (ks : List Category) : CharSet := unions (ks.map fun k => having (.inCategory k))

/-- Decimal digits of all scripts. -/
def digits : CharSet := having (.inCategory .decimalNumber)

def blanks : CharSet := having .blank

def wordChars : CharSet := having .word

def asciiDigits : CharSet := range 0x30 0x39
def asciiBlanks : CharSet := ofRanges [(9, 13), (0x20, 0x20)]
def asciiWordChars : CharSet := ofRanges [(0x30, 0x39), (0x41, 0x5A), (0x5F, 0x5F), (0x61, 0x7A)]

def isAscii (s : CharSet) : Bool :=
  match s with
  | nothing => true
  | range low high => high < 128 || low > high
  | having _ => false
  | complement _ => false
  | union a b => a.isAscii && b.isAscii
  | intersection a b => a.isAscii || b.isAscii
  | difference a _ => a.isAscii
  | symmetricDifference a b => a.isAscii && b.isAscii
  | anyCase a => a.isAscii

def weight : CharSet → Nat
  | nothing => 32
  | range low high => if high < 128 then 32 else if low = high then 64 else 160
  | having p =>
    match p with
    | .word | .alphabetic => 60000
    | .inCategory .decimalNumber => 6000
    | .blank => 600
    | _ => 20000
  | complement a => a.weight + 300
  | union a b | intersection a b | difference a b | symmetricDifference a b => a.weight + b.weight
  | anyCase a => 2 * a.weight

end CharSet

end Gatehouse.Pattern
