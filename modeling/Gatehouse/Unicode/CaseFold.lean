import Gatehouse.Unicode.Runs
import Gatehouse.Unicode.CaseTable

/-!
# Characters that differ in case only

Case-insensitive matching treats a small set of characters as one: `k`, `K` and the Kelvin sign, for
instance. Most characters are alone in their set.
-/

namespace Gatehouse.Unicode

/-- The sets of more than one character, each in increasing order. -/
def readCaseSets : Nat → List Nat → List (List Nat)
  | 0, _ => []
  | _, [] => []
  | fuel + 1, size :: rest => rest.take size :: readCaseSets fuel (rest.drop size)

/-- The members of all case sets, each with its set, in increasing order of the member. -/
def caseMembers : Array (Nat × List Nat) :=
  let numbers := (unpack caseSets).toList
  let sets := readCaseSets numbers.length numbers
  let members := sets.flatMap fun s => s.map fun c => (c, s)
  (members.mergeSort fun a b => a.1 ≤ b.1).toArray

/-- The first code points of `caseMembers`, for bisection. -/
def caseStarts : Array Nat := caseMembers.map Prod.fst

/-- The characters that differ from `c` in case only, `c` among them. -/
def caseVariants (c : Nat) : List Nat :=
  match caseMembers[Runs.bisect caseStarts c 0 caseStarts.size]? with
  | some (member, set) => if member = c then set else [c]
  | none => [c]

end Gatehouse.Unicode
