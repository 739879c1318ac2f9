/-!
# Levels of logging

A level lets through messages up to its own weight; `off` lets nothing through.
-/

namespace Gatehouse

inductive LogLevel
  | off | error | warn | info | debug | trace
  deriving DecidableEq, Repr

namespace LogLevel

def name : LogLevel → String
  | off => "off"
  | error => "error"
  | warn => "warn"
  | info => "info"
  | debug => "debug"
  | trace => "trace"

def all : List LogLevel := [off, error, warn, info, debug, trace]

/-- The value of a text of decimal digits with or without a plus sign in front. -/
def number? (cs : List Char) : Option Nat :=
  let digits := if cs.head? = some '+' then cs.drop 1 else cs
  if digits ≠ [] ∧ digits.all Char.isDigit then
    some (digits.foldl (fun n c => n * 10 + (c.toNat - '0'.toNat)) 0)
  else none

/-- The level that a text names, in letters of either case or as a number from 0 to 5. -/
def ofText? (s : String) : Option LogLevel :=
  match number? s.toList with
  | some n => all[n]?
  | none => all.find? fun l => l.name.toList == s.toList.map Char.toLower

end LogLevel

end Gatehouse
