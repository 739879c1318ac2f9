import Gatehouse.Pattern.CharSet

/-!
# Names of properties

A property may be named in several ways; blanks, hyphens, underscores, case and a leading `is` make
no difference.
-/

namespace Gatehouse.Pattern

open Unicode

def looseName (name : List Char) : String :=
  let plain := (name.filter fun c => c.toNat < 128 && c != ' ' && c != '_' && c != '-' &&
    !isBlank c).map Char.toLower
  String.ofList <| match plain with
    | 'i' :: 's' :: rest => if rest = ['c'] ∨ rest = [] then plain else rest
    | cs => cs

/-- The general categories that a loose name stands for. -/
def categoriesNamed (name : String) : Option (List Category) :=
  let table : List (List String × List Category) :=
    [(["lu", "uppercaseletter"], [.upperLetter]), (["ll", "lowercaseletter"], [.lowerLetter]),
     (["lt", "titlecaseletter"], [.titleLetter]), (["lm", "modifierletter"], [.modifierLetter]),
     (["lo", "otherletter"], [.otherLetter]),
     (["lc", "casedletter"], [.upperLetter, .lowerLetter, .titleLetter]),
     (["l", "letter"], [.upperLetter, .lowerLetter, .titleLetter, .modifierLetter, .otherLetter]),
     (["mn", "nonspacingmark"], [.nonspacingMark]), (["mc", "spacingmark"], [.spacingMark]),
     (["me", "enclosingmark"], [.enclosingMark]),
     (["m", "mark", "combiningmark"], [.nonspacingMark, .spacingMark, .enclosingMark]),
     (["nd", "decimalnumber", "digit"], [.decimalNumber]),
     (["nl", "letternumber"], [.letterNumber]),
     (["no", "othernumber"], [.otherNumber]),
     (["n", "number"], [.decimalNumber, .letterNumber, .otherNumber]),
     (["pc", "connectorpunctuation"], [.connectorPunctuation]),
     (["pd", "dashpunctuation"], [.dashPunctuation]),
     (["ps", "openpunctuation"], [.openPunctuation]),
     (["pe", "closepunctuation"], [.closePunctuation]),
     (["pi", "initialpunctuation"], [.initialPunctuation]),
     (["pf", "finalpunctuation"], [.finalPunctuation]),
     (["po", "otherpunctuation"], [.otherPunctuation]),
     (["p", "punctuation", "punct"],
      [.connectorPunctuation, .dashPunctuation, .openPunctuation, .closePunctuation,
       .initialPunctuation, .finalPunctuation, .otherPunctuation]),
     (["sm", "mathsymbol"], [.mathSymbol]), (["sc", "currencysymbol"], [.currencySymbol]),
     (["sk", "modifiersymbol"], [.modifierSymbol]), (["so", "othersymbol"], [.otherSymbol]),
     (["s", "symbol"], [.mathSymbol, .currencySymbol, .modifierSymbol, .otherSymbol]),
     (["zs", "spaceseparator"], [.spaceSeparator]), (["zl", "lineseparator"], [.lineSeparator]),
     (["zp", "paragraphseparator"], [.paragraphSeparator]),
     (["z", "separator"], [.spaceSeparator, .lineSeparator, .paragraphSeparator]),
     (["cc", "control", "cntrl"], [.control]), (["cf", "format"], [.format]),
     (["cs", "surrogate"], [.surrogate]), (["co", "privateuse"], [.privateUse]),
     (["cn", "unassigned"], [.unassigned]),
     (["c", "other"], [.control, .format, .surrogate, .privateUse, .unassigned])]
  (table.find? fun e => e.1.contains name).map Prod.snd

def categorySet (name : String) : Option CharSet :=
  if name = "any" then some (.range 0 0x10FFFF)
  else if name = "assigned" then some (.having .assigned)
  else if name = "ascii" then some (.range 0 0x7F)
  else (categoriesNamed name).map .ofCategories

def scriptSet (name : String) : Option CharSet :=
  ((Script.all.drop 1).find? fun s => s.name == name || s.code == name).map fun s =>
    .having (.inScript s)

def binarySet (name : String) : Option CharSet :=
  if name = "alphabetic" ∨ name = "alpha" then some (.having .alphabetic)
  else if name = "lowercase" ∨ name = "lower" then some (.having .lowercase)
  else if name = "uppercase" ∨ name = "upper" then some (.having .uppercase)
  else if name = "whitespace" ∨ name = "wspace" ∨ name = "space" then some (.having .blank)
  else if name = "asciihexdigit" ∨ name = "ahex" then
    some (.ofRanges [(0x30, 0x39), (0x41, 0x46), (0x61, 0x66)])
  else if name = "hexdigit" ∨ name = "hex" then
    some (.ofRanges [(0x30, 0x39), (0x41, 0x46), (0x61, 0x66), (0xFF10, 0xFF19), (0xFF21, 0xFF26),
      (0xFF41, 0xFF46)])
  else none

def namedSet (name : List Char) : Option CharSet :=
  let n := looseName name
  (binarySet n).or ((categorySet n).or (scriptSet n))

def valuedSet (name value : List Char) : Option CharSet :=
  let n := looseName name
  let v := looseName value
  if n = "gc" ∨ n = "generalcategory" then categorySet v
  else if n = "sc" ∨ n = "script" ∨ n = "scx" ∨ n = "scriptextensions" then scriptSet v
  else none

def asciiClass (name : List Char) : Option CharSet :=
  match String.ofList name with
  | "alnum" => some (.ofRanges [(0x30, 0x39), (0x41, 0x5A), (0x61, 0x7A)])
  | "alpha" => some (.ofRanges [(0x41, 0x5A), (0x61, 0x7A)])
  | "ascii" => some (.range 0 0x7F)
  | "blank" => some (.ofRanges [(9, 9), (0x20, 0x20)])
  | "cntrl" => some (.ofRanges [(0, 0x1F), (0x7F, 0x7F)])
  | "digit" => some .asciiDigits
  | "graph" => some (.range 0x21 0x7E)
  | "lower" => some (.range 0x61 0x7A)
  | "print" => some (.range 0x20 0x7E)
  | "punct" => some (.ofRanges [(0x21, 0x2F), (0x3A, 0x40), (0x5B, 0x60), (0x7B, 0x7E)])
  | "space" => some .asciiBlanks
  | "upper" => some (.range 0x41 0x5A)
  | "word" => some .asciiWordChars
  | "xdigit" => some (.ofRanges [(0x30, 0x39), (0x41, 0x46), (0x61, 0x66)])
  | _ => none

end Gatehouse.Pattern
