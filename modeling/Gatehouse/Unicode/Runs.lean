/-!
# Tables over all code points

A property of characters is given by runs: neighbouring code points that share a value. `Runs.value`
finds the run of a code point by bisection, so a table answers for every character, and a table that
was packed into text is unpacked once, when the program starts.
-/

namespace Gatehouse.Unicode

def digit36 (c : Char) : Nat :=
  if c.isDigit then c.toNat - '0'.toNat else c.toNat - 'a'.toNat + 10

/-- The numbers of a packed line, with blanks between them, behind those of the lines before. -/
def unpackLine (before : Array Nat) (line : String) : Array Nat :=
  let (done, last) := line.foldl (fun (acc : Array Nat × Nat) c =>
    if c = ' ' then (acc.1.push acc.2, 0) else (acc.1, acc.2 * 36 + digit36 c)) (before, 0)
  done.push last

def unpack (packed : List String) : Array Nat := packed.foldl unpackLine #[]

/-- Runs of code points: `starts[i]` begins the run whose value is `values[i]`. -/
structure Runs where
  starts : Array Nat
  values : Array Nat

namespace Runs

/-- Runs packed as `base * length + value`, from code point zero on. -/
def ofPacked (base : Nat) (packed : List String) : Runs :=
  let (_, starts, values) := (unpack packed).foldl
    (fun (next, starts, values) w => (next + w / base, starts.push next, values.push (w % base)))
    (0, #[], #[])
  ⟨starts, values⟩

/-- The last index in `[low, high)` whose start is at most `c`, if `low` has one. -/
def bisect (starts : Array Nat) (c low high : Nat) : Nat :=
  if low + 1 < high then
    let middle := (low + high) / 2
    if starts.getD middle 0 ≤ c then bisect starts c middle high else bisect starts c low middle
  else low
termination_by high - low

def index (r : Runs) (c : Nat) : Nat := bisect r.starts c 0 r.starts.size

def value (r : Runs) (c : Nat) : Nat := r.values.getD (r.index c) 0

end Runs

end Gatehouse.Unicode
