import Gatehouse.Config.Basic
import Gatehouse.Log.Directive

/-!
# Log filters

A filter is a list of directives between commas. The level of a message is that of the most specific
directive whose target is the beginning of the message's target; of two equally specific ones for
the same messages the later counts. Directives that ask for a span or for fields never concern a
message that stands alone.
-/

namespace Gatehouse

structure LogFilter where
  directives : List Directive
  deriving DecidableEq, Repr

namespace LogFilter

def ofText? (text : String) : Option LogFilter :=
  let pieces := (text.toList.splitOn ',').filter (· ≠ [])
  (pieces.mapM fun p => Directive.ofText? (String.ofList p)).map LogFilter.mk

def concerns (target : String) (d : Directive) : Bool :=
  d.span.isNone && d.fields.isEmpty &&
    match d.target with
    | none => true
    | some t => t.toList.isPrefixOf target.toList

/-- How specific a directive is: the longer its target the more. -/
def weight (d : Directive) : Nat :=
  match d.target with
  | none => 0
  | some t => t.utf8ByteSize + 1

/-- The more specific of two directives, the later one if they are equally specific. -/
def moreSpecific (a b : Directive) : Directive := if weight a ≤ weight b then b else a

/-- The level that is in force for a target. A filter without any directives lets through errors. -/
def levelFor (f : LogFilter) (target : String) : LogLevel :=
  match f.directives.filter (concerns target) with
  | [] => if f.directives = [] then .error else .off
  | d :: rest => (rest.foldl moreSpecific d).level

/-- What is always in force for the libraries beneath. -/
def quietLibraries : String := ",hyper=warn,reqwest=warn,tower=warn"

/-- The filter of a configuration, unless the environment has one that is in order. -/
def ofConfig? (environment : Option String) (c : LogConfig) : Option LogFilter :=
  (environment.bind ofText?).or (ofText? (c.level ++ quietLibraries))

end LogFilter

end Gatehouse
