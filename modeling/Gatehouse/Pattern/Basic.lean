import Gatehouse.Pattern.Parse

/-!
# Patterns

A compiled pattern describes stretches of a text. Options are gone: case is part of the sets, and
each place says exactly what it asks of the characters around it.
-/

namespace Gatehouse

inductive Pattern
  | empty
  /-- One character of a set. -/
  | char (s : Pattern.CharSet)
  | look (l : Pattern.Look)
  | concat (a b : Pattern)
  | either (a b : Pattern)
  /-- At least `low` and at most `high` times. -/
  | repetition (low : Nat) (high : Option Nat) (a : Pattern)
  /-- A group that remembers what it stands for. -/
  | capture (a : Pattern)

namespace Pattern

/-- The options in force. -/
structure Options where
  anyCase : Bool := false
  multiLine : Bool := false
  dotAll : Bool := false
  unicode : Bool := true
  crlf : Bool := false

def Options.apply (o : Options) (changes : FlagChanges) : Options where
  anyCase := flagAfter changes .anyCase o.anyCase
  multiLine := flagAfter changes .multiLine o.multiLine
  dotAll := flagAfter changes .dotAll o.dotAll
  unicode := flagAfter changes .unicode o.unicode
  crlf := flagAfter changes .crlf o.crlf

/-- Without the Unicode option a set must not have members beyond ASCII: it would match bytes. -/
def Options.checked (o : Options) (s : CharSet) : Except PatternError CharSet :=
  if o.unicode || s.isAscii then .ok s
  else .error (.malformed "pattern can match invalid UTF-8")

/-- A set under the option for case, and negated if asked for. -/
def Options.fold (o : Options) (negated : Bool) (s : CharSet) : CharSet :=
  let s := if o.anyCase then
    (if o.unicode then .anyCase s else .intersection (.anyCase s) (.range 0 0x7F)) else s
  if negated then .complement s else s

def shortSet (o : Options) : ShortClass → CharSet
  | .digit => if o.unicode then .digits else .asciiDigits
  | .blank => if o.unicode then .blanks else .asciiBlanks
  | .word => if o.unicode then .wordChars else .asciiWordChars

def atomSet (o : Options) : Atom → Except PatternError CharSet
  | .literal c asByte =>
    if o.unicode || c.toNat < 128 then .ok (.single c.toNat)
    else if asByte then .error (.malformed "pattern can match invalid UTF-8")
    else .error (.malformed "Unicode not allowed here")
  | .short k negated =>
    let s := shortSet o k
    o.checked (if negated then .complement s else s)
  | .property name value negated =>
    if !o.unicode then .error (.malformed "Unicode not allowed here")
    else
      match value.elim (namedSet name) (valuedSet name) with
      | some s => .ok (o.fold negated s)
      | none => .error (.malformed "Unicode property not found")

mutual

def itemSet (o : Options) : ClassItem → Except PatternError CharSet
  | .atom a => atomSet o a
  | .range low high => do
    let _ ← atomSet o low
    let _ ← atomSet o high
    match low, high with
    | .literal a _, .literal b _ => .ok (.range a.toNat b.toNat)
    | _, _ => .ok .nothing
  | .ascii s negated => o.checked (o.fold negated s)
  | .bracketed negated c => do o.checked (o.fold negated (← bodySet o c))

def bodySet (o : Options) : ClassBody → Except PatternError CharSet
  | .union items => itemsSet o items
  | .operation op a b => do
    let a := o.fold false (← bodySet o a)
    let b := o.fold false (← bodySet o b)
    match op with
    | .intersection => return .intersection a b
    | .difference => return .difference a b
    | .symmetricDifference => return .symmetricDifference a b

def itemsSet (o : Options) : List ClassItem → Except PatternError CharSet
  | [] => .ok .nothing
  | i :: rest => do return .union (← itemSet o i) (← itemsSet o rest)

end

def atomPattern (o : Options) : Atom → Except PatternError Pattern
  | .literal c asByte => do
    if o.unicode then return .char (o.fold false (.single c.toNat))
    else if asByte && c.toNat ≥ 128 then throw (.malformed "pattern can match invalid UTF-8")
    else if c.toNat ≥ 128 && o.anyCase then throw (.malformed "Unicode not allowed here")
    else return .char (o.fold false (.single c.toNat))
  | a => do return .char (← atomSet o a)

def lookOf (o : Options) : Assertion → Look
  | .caret => if !o.multiLine then .textStart else if o.crlf then .lineStartCrlf else .lineStart
  | .dollar => if !o.multiLine then .textEnd else if o.crlf then .lineEndCrlf else .lineEnd
  | .textStart => .textStart
  | .textEnd => .textEnd
  | .wordBoundary => if o.unicode then .wordBoundary else .asciiWordBoundary
  | .notWordBoundary => if o.unicode then .notWordBoundary else .asciiNotWordBoundary
  | .wordStart => if o.unicode then .wordStart else .asciiWordStart
  | .wordEnd => if o.unicode then .wordEnd else .asciiWordEnd
  | .wordStartHalf => if o.unicode then .wordStartHalf else .asciiWordStartHalf
  | .wordEndHalf => if o.unicode then .wordEndHalf else .asciiWordEndHalf

def dotSet (o : Options) : CharSet :=
  if o.dotAll then .range 0 0x10FFFF
  else if o.crlf then .complement (.ofRanges [(10, 10), (13, 13)])
  else .complement (.single 10)

mutual

/-- Applies the options to a written pattern; yields the options in force behind it too. -/
def ofAst (o : Options) : Ast → Except PatternError (Pattern × Options)
  | .empty => .ok (empty, o)
  | .flags changes => .ok (empty, o.apply changes)
  | .atom a => do return (← atomPattern o a, o)
  | .dot => do return (char (← o.checked (dotSet o)), o)
  | .assertion a => .ok (look (lookOf o a), o)
  | .bracketed negated c => do return (char (← o.checked (o.fold negated (← bodySet o c))), o)
  | .repetition low high a => do
    let (p, o) ← ofAst o a
    return (repetition low high p, o)
  | .group changes capturing a => do
    let (p, _) ← ofAst (o.apply changes) a
    return (if capturing then capture p else p, o)
  | .alternation branches => ofBranches o branches
  | .concat parts => ofParts o parts

def ofParts (o : Options) : List Ast → Except PatternError (Pattern × Options)
  | [] => .ok (empty, o)
  | a :: rest => do
    let (p, o) ← ofAst o a
    let (q, o) ← ofParts o rest
    return (concat p q, o)

def ofBranches (o : Options) : List Ast → Except PatternError (Pattern × Options)
  | [] => .ok (char .nothing, o)
  | a :: rest => do
    let (p, o) ← ofAst o a
    let (q, o) ← ofBranches o rest
    return (either p q, o)

end

/-- Roughly how much room the compiled form of a pattern takes, in bytes. -/
def weight : Pattern → Nat
  | empty => 0
  | char s => s.weight
  | look _ => 32
  | concat a b => a.weight + b.weight
  | either a b => a.weight + b.weight + 48
  | repetition low high a =>
    match high with
    | none => max low 1 * a.weight + 64
    | some n => n * a.weight + (n - low) * 40
  | capture a => a.weight + 64

def compile (s : String) : Except PatternError Pattern := do
  let (p, _) ← ofAst {} (← Ast.parse s)
  if p.weight > sizeLimit then throw .tooLarge else return p

end Pattern

end Gatehouse
