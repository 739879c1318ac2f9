import Gatehouse.Unicode.Runs
import Gatehouse.Unicode.CategoryTable

/-!
# General categories

Every character has one of thirty general categories. The classes that the gateway asks for are
derived from them: blanks that are trimmed, word characters and digits of patterns, marks, and the
characters that a quoted text shows as they are.
-/

namespace Gatehouse.Unicode

/-- The general categories, in the order of their packed numbers. -/
inductive Category
  | upperLetter | lowerLetter | titleLetter | modifierLetter | otherLetter
  | nonspacingMark | spacingMark | enclosingMark
  | decimalNumber | letterNumber | otherNumber
  | connectorPunctuation | dashPunctuation | openPunctuation | closePunctuation
  | initialPunctuation | finalPunctuation | otherPunctuation
  | mathSymbol | currencySymbol | modifierSymbol | otherSymbol
  | spaceSeparator | lineSeparator | paragraphSeparator
  | control | format | surrogate | privateUse | unassigned
  deriving DecidableEq, Repr

namespace Category

/-- All categories, so that the `k`-th has number `k`. -/
def all : List Category :=
  [upperLetter, lowerLetter, titleLetter, modifierLetter, otherLetter,
   nonspacingMark, spacingMark, enclosingMark, decimalNumber, letterNumber, otherNumber,
   connectorPunctuation, dashPunctuation, openPunctuation, closePunctuation,
   initialPunctuation, finalPunctuation, otherPunctuation,
   mathSymbol, currencySymbol, modifierSymbol, otherSymbol,
   spaceSeparator, lineSeparator, paragraphSeparator,
   control, format, surrogate, privateUse, unassigned]

def ofNumber (k : Nat) : Category := all.getD k unassigned

def isLetter : Category → Bool
  | upperLetter | lowerLetter | titleLetter | modifierLetter | otherLetter => true
  | _ => false

def isMark : Category → Bool
  | nonspacingMark | spacingMark | enclosingMark => true
  | _ => false

def isNumber : Category → Bool
  | decimalNumber | letterNumber | otherNumber => true
  | _ => false

def isSeparator : Category → Bool
  | spaceSeparator | lineSeparator | paragraphSeparator => true
  | _ => false

def isOther : Category → Bool
  | control | format | surrogate | privateUse | unassigned => true
  | _ => false

end Category

def categories : Runs := Runs.ofPacked 30 categoryRuns

def category (c : Char) : Category := Category.ofNumber (categories.value c.toNat)

/-- White space: what trimming removes. -/
def isBlank (c : Char) : Bool :=
  let n := c.toNat
  (9 ≤ n && n ≤ 13) || n == 0x20 || n == 0x85 || n == 0xA0 || n == 0x1680 ||
  (0x2000 ≤ n && n ≤ 0x200A) || n == 0x2028 || n == 0x2029 || n == 0x202F || n == 0x205F ||
  n == 0x3000

def trim (cs : List Char) : List Char :=
  ((cs.dropWhile isBlank).reverse.dropWhile isBlank).reverse

/-- Letters in the wide sense: letters, letter numbers, and the circled and squared letters. -/
def isAlphabetic (c : Char) : Bool :=
  let k := category c
  let n := c.toNat
  k.isLetter || k == .letterNumber || (0x24B6 ≤ n && n ≤ 0x24E9) ||
  (0x1F130 ≤ n && n ≤ 0x1F149) || (0x1F150 ≤ n && n ≤ 0x1F169) || (0x1F170 ≤ n && n ≤ 0x1F189)

/-- Letters, numbers of any kind. -/
def isAlphanumeric (c : Char) : Bool := isAlphabetic c || (category c).isNumber

/-- Characters of words: letters, marks, decimal digits, connectors and the two joiners. -/
def isWord (c : Char) : Bool :=
  let k := category c
  isAlphabetic c || k.isMark || k == .decimalNumber || k == .connectorPunctuation ||
  c.toNat == 0x200C || c.toNat == 0x200D

/-- Spacing characters that nevertheless extend the character before them. -/
def extendingExceptions : List (Nat × Nat) :=
  [(0x09BE, 0x09BE), (0x09D7, 0x09D7), (0x0B3E, 0x0B3E), (0x0B57, 0x0B57), (0x0BBE, 0x0BBE),
   (0x0BD7, 0x0BD7), (0x0CC0, 0x0CC0), (0x0CC2, 0x0CC2), (0x0CC7, 0x0CC8), (0x0CCA, 0x0CCB),
   (0x0CD5, 0x0CD6), (0x0D3E, 0x0D3E), (0x0D57, 0x0D57), (0x0DCF, 0x0DCF), (0x0DDF, 0x0DDF),
   (0x1715, 0x1715), (0x1734, 0x1734), (0x1B35, 0x1B35), (0x1B3B, 0x1B3B), (0x1B3D, 0x1B3D),
   (0x1B43, 0x1B44), (0x1BAA, 0x1BAA), (0x1BF2, 0x1BF3), (0x200C, 0x200C), (0x302E, 0x302F),
   (0xA953, 0xA953), (0xA9C0, 0xA9C0), (0xFF9E, 0xFF9F), (0x111C0, 0x111C0), (0x11235, 0x11235),
   (0x1133E, 0x1133E), (0x1134D, 0x1134D), (0x11357, 0x11357), (0x114B0, 0x114B0),
   (0x114BD, 0x114BD), (0x115AF, 0x115AF), (0x116B6, 0x116B6), (0x11930, 0x11930),
   (0x1193D, 0x1193D), (0x16FF0, 0x16FF1), (0x1D165, 0x1D166), (0x1D16D, 0x1D172),
   (0xE0020, 0xE007F)]

/-- Characters that are drawn upon the character before them. -/
def extendsPrevious (c : Char) : Bool :=
  let k := category c
  k == .nonspacingMark || k == .enclosingMark ||
  extendingExceptions.any fun (low, high) => low ≤ c.toNat && c.toNat ≤ high

/-- Characters that stand for themselves on a page: neither separators other than the space, nor
controls, formats, private or unassigned ones. -/
def isPrintable (c : Char) : Bool :=
  c == ' ' || !((category c).isSeparator || (category c).isOther)

end Gatehouse.Unicode
