import Gatehouse.Unicode.Runs
import Gatehouse.Unicode.DirectionTable
import Gatehouse.Unicode.Normal

/-!
# Directions and joins in labels

A label of a host name that is read from right to left must not mix directions, and the invisible
joiners may stand only where they change how letters join.
-/

namespace Gatehouse.Unicode

/-- The directional classes that matter for labels. -/
inductive Direction
  | left | right | arabic | arabicNumber | europeanNumber | europeanSeparator | commonSeparator
  | europeanTerminator | neutral | boundary | mark | other
  deriving DecidableEq, Repr

def Direction.all : List Direction :=
  [.left, .right, .arabic, .arabicNumber, .europeanNumber, .europeanSeparator, .commonSeparator,
   .europeanTerminator, .neutral, .boundary, .mark, .other]

/-- How a letter joins its neighbours. -/
inductive Joining
  | none | transparent | both | left | right | causing
  deriving DecidableEq, Repr

def Joining.all : List Joining := [.none, .transparent, .both, .left, .right, .causing]

def directions : Runs := Runs.ofPacked 12 directionRuns

def joinings : Runs := Runs.ofPacked 6 joiningRuns

def direction (c : Nat) : Direction := Direction.all.getD (directions.value c) .other

def joining (c : Nat) : Joining := Joining.all.getD (joinings.value c) .none

/-- Whether a code point makes its host name one that is read from right to left. -/
def isRightward (c : Nat) : Bool :=
  match direction c with
  | .right | .arabic | .arabicNumber => true
  | _ => false

/-- Classes that may stand in any label. -/
def Direction.isWeak : Direction → Bool
  | .europeanNumber | .europeanSeparator | .commonSeparator | .europeanTerminator | .neutral
  | .boundary | .mark => true
  | _ => false

/-- Whether a label keeps to one direction. -/
def keepsDirection (label : List Nat) : Bool :=
  let ds := label.map direction
  let last := (ds.reverse.dropWhile (· == .mark)).head?
  match ds with
  | [] => true
  | first :: _ =>
    if first == .left then
      ds.all (fun d => d == .left || d.isWeak) &&
        (last == some .left || last == some .europeanNumber)
    else if first == .right || first == .arabic then
      ds.all (fun d => d == .right || d == .arabic || d == .arabicNumber || d.isWeak) &&
      (last == some .right || last == some .arabic || last == some .europeanNumber ||
        last == some .arabicNumber) &&
      !(ds.contains .europeanNumber && ds.contains .arabicNumber)
    else false

/-- The combining class of signs that suppress a vowel. -/
def viramaClass : Nat := 9

/-- Whether every invisible joiner stands where it may; `before` is the label so far, backwards. -/
def joinersAllowed : (before : List Nat) → List Nat → Bool
  | _, [] => true
  | before, c :: rest =>
    let afterVirama := match before with
      | b :: _ => combiningClass b == viramaClass
      | [] => false
    let joins (cs : List Nat) (side : Joining) : Bool :=
      match (cs.dropWhile fun d => joining d == .transparent).head? with
      | some d => joining d == side || joining d == .both
      | none => false
    let allowed :=
      if c = 0x200D then afterVirama
      else if c = 0x200C then afterVirama || (joins before .left && joins rest .right)
      else true
    allowed && joinersAllowed (c :: before) rest

end Gatehouse.Unicode
