import Gatehouse.Pattern.CharSet

/-!
# Written patterns

The parts of a pattern as they are written, before options such as case are applied.
-/

namespace Gatehouse.Pattern

inductive Flag
  | anyCase
  | multiLine
  | dotAll
  | swapGreed
  | unicode
  | crlf
  | verbose
  deriving DecidableEq, Repr

abbrev FlagChanges := List (Flag × Bool)

inductive Look
  | textStart | textEnd
  | lineStart | lineEnd
  | lineStartCrlf | lineEndCrlf
  | wordBoundary | notWordBoundary
  | wordStart | wordEnd | wordStartHalf | wordEndHalf
  | asciiWordBoundary | asciiNotWordBoundary
  | asciiWordStart | asciiWordEnd | asciiWordStartHalf | asciiWordEndHalf
  deriving DecidableEq, Repr

/-- Places as they are written; what they mean depends on the options. -/
inductive Assertion
  | caret | dollar
  | textStart | textEnd
  | wordBoundary | notWordBoundary
  | wordStart | wordEnd | wordStartHalf | wordEndHalf
  deriving DecidableEq, Repr

inductive ShortClass
  | digit | blank | word
  deriving DecidableEq, Repr

inductive Atom
  /-- A character; `asByte` if it is written as two hexadecimal digits. -/
  | literal (c : Char) (asByte : Bool)
  | short (k : ShortClass) (negated : Bool)
  | property (name : List Char) (value : Option (List Char)) (negated : Bool)
  deriving DecidableEq, Repr

inductive SetOperation
  | intersection | difference | symmetricDifference
  deriving DecidableEq, Repr

mutual

inductive ClassItem
  | atom (a : Atom)
  | range (low high : Atom)
  | ascii (s : CharSet) (negated : Bool)
  | bracketed (negated : Bool) (c : ClassBody)

inductive ClassBody
  | union (items : List ClassItem)
  | operation (op : SetOperation) (a b : ClassBody)

end

inductive Ast
  | empty
  | flags (changes : FlagChanges)
  | atom (a : Atom)
  | dot
  | assertion (a : Assertion)
  | bracketed (negated : Bool) (c : ClassBody)
  /-- At least `low` and at most `high` times. -/
  | repetition (low : Nat) (high : Option Nat) (a : Ast)
  | group (changes : FlagChanges) (capturing : Bool) (a : Ast)
  | alternation (branches : List Ast)
  | concat (parts : List Ast)

/-- Patterns may be nested this deep. -/
def nestLimit : Nat := 250

mutual

def ClassBody.depth : ClassBody → Nat
  | .union items => ClassBody.itemsDepth items + (if items.length = 1 then 0 else 1)
  | .operation _ a b => max a.depth b.depth + 1

def ClassItem.depth : ClassItem → Nat
  | .bracketed _ c => c.depth + 1
  | _ => 0

def ClassBody.itemsDepth : List ClassItem → Nat
  | [] => 0
  | i :: rest => max i.depth (ClassBody.itemsDepth rest)

end

mutual

def Ast.depth : Ast → Nat
  | .bracketed _ c => c.depth + 1
  | .repetition _ _ a => a.depth + 1
  | .group _ _ a => a.depth + 1
  | .alternation branches => Ast.listDepth branches + 1
  | .concat parts => Ast.listDepth parts + 1
  | _ => 0

def Ast.listDepth : List Ast → Nat
  | [] => 0
  | a :: rest => max a.depth (Ast.listDepth rest)

end

def Ast.ofParts : List Ast → Ast
  | [] => empty
  | [a] => a
  | parts => concat parts

inductive PatternError
  | malformed (reason : String)
  /-- The compiled form takes more room than it may. -/
  | tooLarge
  deriving DecidableEq, Repr

/-- The greatest size of a compiled pattern, in bytes. -/
def sizeLimit : Nat := 10485760

def PatternError.message : PatternError → String
  | malformed reason => "regex parse error: " ++ reason
  | tooLarge => "Compiled regex exceeds size limit of " ++ toString sizeLimit ++ " bytes."

end Gatehouse.Pattern
