import Gatehouse.Pattern.Properties
import Gatehouse.Pattern.Syntax

/-!
# Reading patterns

A pattern is read from left to right. Options in parentheses count from where they stand to the end
of their group; with the verbose option blanks and comments between the parts do not count.
-/

namespace Gatehouse.Pattern

open Unicode

/-- What is left to read, and what was read before it. -/
structure Reader where
  rest : List Char
  verbose : Bool := false
  /-- The names of groups so far. -/
  names : List (List Char) := []

abbrev Read (α : Type) := StateT Reader (Except PatternError) α

namespace Read

def fail {α : Type} (reason : String) : Read α := throw (.malformed reason)

/-- Drops blanks and comments; a comment runs from a number sign to the end of the line. -/
def dropComments : (inComment : Bool) → List Char → List Char
  | _, [] => []
  | true, c :: rest => dropComments (c != '\n') rest
  | false, c :: rest =>
    if isBlank c then dropComments false rest
    else if c = '#' then dropComments true rest
    else c :: rest

/-- Drops what does not count between the parts of a pattern. -/
def space : Read Unit := modify fun r =>
  if r.verbose then { r with rest := dropComments false r.rest } else r

def rest : Read (List Char) := return (← get).rest

def setRest (cs : List Char) : Read Unit := modify fun r => { r with rest := cs }

def peek : Read (Option Char) := return (← rest).head?

def skip : Read Unit := modify fun r => { r with rest := r.rest.drop 1 }

def skipAndSpace : Read Unit := do skip; space

end Read

open Read

def isHexDigit (c : Char) : Bool :=
  c.isDigit || ('a' ≤ c && c ≤ 'f') || ('A' ≤ c && c ≤ 'F')

def charOfHex (digits : List Char) : Option Char :=
  let n := digits.foldl (fun n c =>
    n * 16 + (if c.isDigit then c.toNat - 48 else c.toLower.toNat - 87)) 0
  if n < 0xD800 ∨ (0xE000 ≤ n ∧ n ≤ 0x10FFFF) then some (Char.ofNat n) else none

def readDigits : Nat → Read (List Char)
  | 0 => return []
  | n + 1 => do
    match ← peek with
    | none => fail "incomplete escape sequence"
    | some c =>
      if isHexDigit c then
        skipAndSpace
        return c :: (← readDigits n)
      else fail "invalid hexadecimal digit"

/-- The characters up to a closing brace, which is dropped; there are at most `fuel`. -/
def readBraced : (fuel : Nat) → Read (List Char)
  | 0 => fail "incomplete escape sequence"
  | fuel + 1 => do
    match ← peek with
    | none => fail "incomplete escape sequence"
    | some c =>
      skipAndSpace
      if c = '\x7d' then return [] else return c :: (← readBraced fuel)

/-- A character by its number: two, four or eight digits, or any number of them in braces. -/
def readHex (count : Nat) : Read Atom := do
  let (digits, fixed) ← match ← peek with
    | none => fail "incomplete escape sequence"
    | some '\x7b' => do
      skipAndSpace
      let digits ← readBraced ((← rest).length + 1)
      if digits = [] then fail "hexadecimal literal empty"
      else if digits.all isHexDigit then pure (digits, false)
      else fail "invalid hexadecimal digit"
    | some _ => do pure (← readDigits count, true)
  match charOfHex digits with
  | some c => return .literal c (fixed && count == 2)
  | none => fail "hexadecimal literal is not a Unicode scalar value"

def cutAt (mark : List Char) : List Char → Option (List Char × List Char)
  | [] => none
  | c :: rest =>
    match mark.isPrefixOf? (c :: rest) with
    | some after => some ([], after)
    | none => (cutAt mark rest).map fun (a, b) => (c :: a, b)

/-- A class by a property: one letter, or a name or a name with a value in braces. -/
def readProperty (negated : Bool) : Read Atom := do
  match ← peek with
  | none => fail "incomplete escape sequence"
  | some '\x7b' =>
    skipAndSpace
    let name ← readBraced ((← rest).length + 1)
    match cutAt ['!', '='] name with
    | some (n, v) => return .property n (some v) (!negated)
    | none =>
      match (cutAt [':'] name).or (cutAt ['='] name) with
      | some (n, v) => return .property n (some v) negated
      | none => return .property name none negated
  | some c =>
    if c = '\\' then fail "invalid Unicode character class"
    else
      skipAndSpace
      return .property [c] none negated

inductive Escape
  | atom (a : Atom)
  | assertion (a : Assertion)

def readBoundaryName : Read Assertion := do
  let start ← rest
  let isNameChar (c : Char) : Bool := c.isAlpha || c == '-'
  match start with
  | '\x7b' :: _ =>
    skipAndSpace
    match ← rest with
    | [] => fail "special word boundary or repetition without end"
    | c :: cs =>
      if !isNameChar c then
        setRest start
        return .wordBoundary
      else
        let verbose := (← get).verbose
        let body := if verbose then (c :: cs).filter (!isBlank ·) else c :: cs
        let name := body.takeWhile isNameChar
        match body.dropWhile isNameChar with
        | '\x7d' :: _ =>
          setRest (((c :: cs).dropWhile (· ≠ '\x7d')).drop 1)
          match String.ofList name with
          | "start" => return .wordStart
          | "end" => return .wordEnd
          | "start-half" => return .wordStartHalf
          | "end-half" => return .wordEndHalf
          | _ => fail "unrecognized special word boundary assertion"
        | _ => fail "special word boundary assertion is unclosed"
  | _ => return .wordBoundary

def isMeta (c : Char) : Bool :=
  ['\\', '.', '+', '*', '?', '(', ')', '|', '[', ']', '\x7b', '\x7d', '^', '$', '#', '&', '-',
   '~'].contains c

/-- Whether a backslash may stand before a character that then stands for itself. -/
def isEscapable (c : Char) : Bool :=
  isMeta c || (c.toNat < 128 && !c.isAlphanum && c != '<' && c != '>')

def readEscape : Read Escape := do
  skip
  match ← peek with
  | none => fail "incomplete escape sequence"
  | some c =>
    skip
    let literal (c : Char) : Read Escape := return .atom (.literal c false)
    let short (k : ShortClass) (negated : Bool) : Read Escape := return .atom (.short k negated)
    if c.isDigit then fail "backreferences are not supported"
    else if isEscapable c then literal c
    else
      match c with
      | 'x' => do space; return .atom (← readHex 2)
      | 'u' => do space; return .atom (← readHex 4)
      | 'U' => do space; return .atom (← readHex 8)
      | 'p' => do space; return .atom (← readProperty false)
      | 'P' => do space; return .atom (← readProperty true)
      | 'd' => short .digit false
      | 'D' => short .digit true
      | 's' => short .blank false
      | 'S' => short .blank true
      | 'w' => short .word false
      | 'W' => short .word true
      | 'a' => literal '\x07'
      | 'f' => literal '\x0c'
      | 't' => literal '\t'
      | 'n' => literal '\n'
      | 'r' => literal '\r'
      | 'v' => literal '\x0b'
      | 'A' => return .assertion .textStart
      | 'z' => return .assertion .textEnd
      | 'B' => return .assertion .notWordBoundary
      | '<' => return .assertion .wordStart
      | '>' => return .assertion .wordEnd
      | 'b' => return .assertion (← readBoundaryName)
      | _ => fail "unrecognized escape sequence"

/-! ## Classes between brackets -/

/-- One end of a range, or an item of its own. -/
def readClassAtom : Read Escape := do
  match ← peek with
  | none => fail "unclosed character class"
  | some '\\' => readEscape
  | some c =>
    skip
    return .atom (.literal c false)

def itemOf : Escape → Read ClassItem
  | .atom a => return .atom a
  | .assertion _ => fail "invalid escape sequence found in character class"

def rangeEnd : Escape → Read (Atom × Char)
  | .atom (.literal c b) => return (.literal c b, c)
  | _ => fail "invalid range boundary, must be a literal"

/-- An item or a range. A hyphen before a closing bracket or another hyphen makes no range. -/
def readClassRange : Read ClassItem := do
  let first ← readClassAtom
  space
  let verbose := (← get).verbose
  match ← rest with
  | [] => fail "unclosed character class"
  | c :: after =>
    let next := (if verbose then dropComments false after else after).head?
    if c ≠ '-' ∨ next = some ']' ∨ next = some '-' then itemOf first
    else
      skipAndSpace
      if (← peek).isNone then fail "unclosed character class"
      let last ← readClassAtom
      let (low, a) ← rangeEnd first
      let (high, b) ← rangeEnd last
      if a ≤ b then return .range low high
      else fail "invalid character class range, the start must be less than or equal to the end"

/-- A class such as `[:alpha:]`, if there is one. -/
def asciiClass? (cs : List Char) : Option (ClassItem × List Char) := do
  let inside ← ['[', ':'].isPrefixOf? cs
  let (negated, inside) := match inside with
    | '^' :: r => (true, r)
    | r => (false, r)
  let s ← asciiClass (inside.takeWhile (· ≠ ':'))
  let after ← [':', ']'].isPrefixOf? (inside.dropWhile (· ≠ ':'))
  return (.ascii s negated, after)

/-- Hyphens at the front of a class, which stand for themselves. -/
def readHyphens : (fuel : Nat) → Read (List ClassItem)
  | 0 => return []
  | fuel + 1 => do
    match ← peek with
    | none => fail "unclosed character class"
    | some '-' =>
      skipAndSpace
      return .atom (.literal '-' false) :: (← readHyphens fuel)
    | some _ => return []

def closeBody (before : Option (ClassBody × SetOperation)) (items : List ClassItem) : ClassBody :=
  match before with
  | none => .union items.reverse
  | some (a, op) => .operation op a (.union items.reverse)

mutual

def readClass : (fuel : Nat) → Read (Bool × ClassBody)
  | 0 => fail "unclosed character class"
  | fuel + 1 => do
    skipAndSpace
    let negated := (← peek) == some '^'
    if negated then skipAndSpace
    let hyphens ← readHyphens fuel
    let first ← match hyphens, ← peek with
      | _, none => fail "unclosed character class"
      | [], some ']' => do
        skipAndSpace
        if (← peek).isNone then fail "unclosed character class"
        pure [ClassItem.atom (.literal ']' false)]
      | hs, some _ => pure hs
    return (negated, ← readClassBody fuel none first.reverse)

/-- What is left of a class; `before` is what stood before the last operator and `items` the items
after it, backwards. -/
def readClassBody : (fuel : Nat) → Option (ClassBody × SetOperation) → List ClassItem →
    Read ClassBody
  | 0, _, _ => fail "unclosed character class"
  | fuel + 1, before, items => do
    space
    match ← rest with
    | [] => fail "unclosed character class"
    | ']' :: _ =>
      skip
      return closeBody before items
    | '[' :: after =>
      match asciiClass? ('[' :: after) with
      | some (item, after) =>
        setRest after
        readClassBody fuel before (item :: items)
      | none =>
        let (negated, c) ← readClass fuel
        readClassBody fuel before (.bracketed negated c :: items)
    | '&' :: '&' :: after =>
      setRest after
      readClassBody fuel (some (closeBody before items, .intersection)) []
    | '-' :: '-' :: after =>
      setRest after
      readClassBody fuel (some (closeBody before items, .difference)) []
    | '~' :: '~' :: after =>
      setRest after
      readClassBody fuel (some (closeBody before items, .symmetricDifference)) []
    | _ => do
      let item ← readClassRange
      readClassBody fuel before (item :: items)

end

/-! ## Groups, options and repetitions -/

def flagOf : Char → Option Flag
  | 'i' => some .anyCase
  | 'm' => some .multiLine
  | 's' => some .dotAll
  | 'U' => some .swapGreed
  | 'u' => some .unicode
  | 'R' => some .crlf
  | 'x' => some .verbose
  | _ => none

/-- Options up to a colon or a closing parenthesis, which is dropped; yields also whether it was a
colon. -/
def readFlags : List Char → (negated dangling : Bool) → FlagChanges →
    Except PatternError (FlagChanges × Bool × List Char)
  | [], _, _, _ => .error (.malformed "expected flag but got end of regex")
  | c :: rest, negated, dangling, seen =>
    if c = ':' ∨ c = ')' then
      if dangling then .error (.malformed "dangling flag negation operator")
      else .ok (seen.reverse, c == ':', rest)
    else if c = '-' then
      if negated then .error (.malformed "flag negation operator repeated")
      else readFlags rest true true seen
    else
      match flagOf c with
      | none => .error (.malformed "unrecognized flag")
      | some f =>
        if seen.any (·.1 == f) then .error (.malformed "duplicate flag")
        else readFlags rest negated false ((f, !negated) :: seen)

def readName : Read Unit := do
  let r ← get
  let name := r.rest.takeWhile (· ≠ '>')
  let isFirst (c : Char) : Bool := c == '_' || isAlphabetic c
  let isLater (c : Char) : Bool :=
    c == '_' || c == '.' || c == '[' || c == ']' || isAlphanumeric c
  let valid := match name with
    | [] => false
    | c :: cs => isFirst c && cs.all isLater
  if !valid then fail "invalid capture group name"
  else if name.length = r.rest.length then fail "unclosed capture group name"
  else if r.names.contains name then fail "duplicate capture group name"
  else set { r with rest := r.rest.drop (name.length + 1), names := name :: r.names }

/-- What opens with a parenthesis: options for what follows, or a group with its options. -/
inductive Opening
  | flags (changes : FlagChanges)
  | group (changes : FlagChanges) (capturing : Bool)

def readOpening : Read Opening := do
  skipAndSpace
  match ← rest with
  | '?' :: '=' :: _ | '?' :: '!' :: _ | '?' :: '<' :: '=' :: _ | '?' :: '<' :: '!' :: _ =>
    fail "look-around, including look-ahead and look-behind, is not supported"
  | '?' :: 'P' :: '<' :: after | '?' :: '<' :: after =>
    setRest after
    readName
    return .group [] true
  | '?' :: after =>
    if after = [] then fail "unclosed group"
    else
      let (changes, isGroup, after') ← liftM (readFlags after false false [])
      setRest after'
      if isGroup then return .group changes false
      else if after.head? = some ')' then fail "repetition operator missing expression"
      else return .flags changes
  | _ => return .group [] true

def flagAfter (changes : FlagChanges) (f : Flag) (old : Bool) : Bool :=
  ((changes.find? (·.1 == f)).map Prod.snd).getD old

/-- Drops blanks of any kind, whether or not they count. -/
def dropBlanks : Read Unit := modify fun r => { r with rest := r.rest.dropWhile isBlank }

/-- The digits at the front of a text; between them stands nothing that counts. -/
def readCountDigits : (fuel : Nat) → Read (List Char)
  | 0 => return []
  | fuel + 1 => do
    match ← peek with
    | some c =>
      if c.isDigit then
        skipAndSpace
        return c :: (← readCountDigits fuel)
      else return []
    | none => return []

def readCount : Read (Option Nat) := do
  dropBlanks
  let digits ← readCountDigits (← rest).length
  dropBlanks
  match digits with
  | [] => return none
  | ds =>
    let n := ds.foldl (fun n c => n * 10 + (c.toNat - 48)) 0
    if n < Nat.pow 2 32 then return some n else fail "decimal literal invalid"

def readCounts : Read (Nat × Option Nat) := do
  skipAndSpace
  if (← peek).isNone then fail "unclosed counted repetition"
  let low ← readCount
  let counts : Nat × Option Nat ← match ← peek with
    | none => fail "unclosed counted repetition"
    | some ',' => do
      skipAndSpace
      match ← peek, low with
      | none, _ => fail "unclosed counted repetition"
      | _, none => fail "repetition quantifier expects a valid decimal"
      | some '\x7d', some n => pure (n, none)
      | some _, some n => do
        match ← readCount with
        | none => fail "repetition quantifier expects a valid decimal"
        | some m => pure (n, some m)
    | some _ =>
      match low with
      | none => fail "repetition quantifier expects a valid decimal"
      | some n => pure (n, some n)
  if (← peek) ≠ some '\x7d' then fail "unclosed counted repetition"
  skipAndSpace
  if (← peek) = some '?' then skip
  match counts with
  | (n, some m) => if n ≤ m then return counts else fail "invalid repetition count range"
  | _ => return counts

/-- Puts a repetition upon the last part; `parts` are the parts so far, backwards. -/
def repeatLast (low : Nat) (high : Option Nat) : List Ast → Read (List Ast)
  | [] | .flags _ :: _ => fail "repetition operator missing expression"
  | a :: before => return .repetition low high a :: before

/-- The pattern of branches and of the parts of the last one, all backwards. -/
def closeBranches (branches parts : List Ast) : Ast :=
  match branches with
  | [] => .ofParts parts.reverse
  | bs => .alternation (.ofParts parts.reverse :: bs).reverse

/-- Reads a pattern up to its end, or up to the closing parenthesis of a group, which is dropped. -/
def readBranches : (fuel : Nat) → (grouped : Bool) → (branches parts : List Ast) → Read Ast
  | 0, _, _, _ => fail "unclosed group"
  | fuel + 1, grouped, branches, parts => do
    space
    match ← rest with
    | [] => if grouped then fail "unclosed group" else return closeBranches branches parts
    | ')' :: _ =>
      if grouped then
        skip
        return closeBranches branches parts
      else fail "unopened group"
    | '|' :: _ =>
      skip
      readBranches fuel grouped (.ofParts parts.reverse :: branches) []
    | '(' :: _ =>
      let verbose := (← get).verbose
      match ← readOpening with
      | .flags changes =>
        modify fun r => { r with verbose := flagAfter changes .verbose r.verbose }
        readBranches fuel grouped branches (.flags changes :: parts)
      | .group changes capturing =>
        modify fun r => { r with verbose := flagAfter changes .verbose verbose }
        let inner ← readBranches fuel true [] []
        modify fun r => { r with verbose }
        readBranches fuel grouped branches (.group changes capturing inner :: parts)
    | '[' :: _ =>
      let (negated, c) ← readClass fuel
      readBranches fuel grouped branches (.bracketed negated c :: parts)
    | '\x7b' :: _ =>
      let _ ← repeatLast 0 none parts
      let (low, high) ← readCounts
      readBranches fuel grouped branches (← repeatLast low high parts)
    | c :: _ =>
      if c = '?' ∨ c = '*' ∨ c = '+' then
        skip
        if (← peek) = some '?' then skip
        let (low, high) := if c = '?' then (0, some 1) else if c = '*' then (0, none) else (1, none)
        readBranches fuel grouped branches (← repeatLast low high parts)
      else
        let part ← match c with
          | '\\' => do
            match ← readEscape with
            | .atom a => pure (Ast.atom a)
            | .assertion a => pure (.assertion a)
          | '.' => do skip; pure .dot
          | '^' => do skip; pure (.assertion .caret)
          | '$' => do skip; pure (.assertion .dollar)
          | c => do skip; pure (.atom (.literal c false))
        readBranches fuel grouped branches (part :: parts)

/-- The written form of a pattern. No step of reading takes more than the characters there are. -/
def Ast.parse (s : String) : Except PatternError Ast := do
  let cs := s.toList
  let (ast, _) ← (readBranches (2 * cs.length + 2) false [] []).run { rest := cs }
  if ast.depth > nestLimit then throw (.malformed "exceeds the nest limit") else return ast

end Gatehouse.Pattern
