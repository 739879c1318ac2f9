import Gatehouse.Yaml.Cursor

/-!
# Scalars

Plain and quoted scalars may go over several lines: a single break between two lines counts as a
blank, of several breaks the first does not count. In literal blocks every break counts.
-/

namespace Gatehouse.Yaml

structure Gap where
  blanks : List Char := []
  /-- The first break, if there is one. -/
  first : Option (List Char) := none
  /-- The breaks behind the first. -/
  others : List Char := []

namespace Gap

/-- What a gap counts as. -/
def text (g : Gap) : List Char :=
  match g.first with
  | none => g.blanks
  | some ['\n'] => if g.others = [] then [' '] else g.others
  | some b => b ++ g.others

/-- The blanks and breaks ahead. Behind the first break no tab may stand left of a column. -/
def read (least : Option Nat) : (fuel : Nat) → Gap → Cursor → Option (Gap × Cursor)
  | 0, g, c => some (g, c)
  | fuel + 1, g, c =>
    if c.atBlank then
      match g.first with
      | none =>
        let (blanks, c) := c.span isBlank
        read least fuel { g with blanks := g.blanks ++ blanks } c
      | some _ =>
        if c.sees '\t' && least.any (c.column < ·) then none else read least fuel g (c.skip 1)
    else if c.atBreak then
      let (b, c) := c.nextLine
      match g.first with
      | none => read least fuel { first := some b } c
      | some _ => read least fuel { g with others := g.others ++ b } c
    else some (g, c)

end Gap

/-! ## Plain scalars -/

namespace Plain

/-- Characters that end a plain scalar inside of brackets. -/
def endsFlow (c : Char) : Bool := [',', '[', ']', '\x7b', '\x7d'].contains c

/-- The stretch ahead without blanks. None if a colon stands inside of brackets before something
that belongs to them. -/
def stretch (inFlow : Bool) : List Char → Option (List Char)
  | [] => some []
  | c :: rest =>
    if isBlank c || isBreak c then some []
    else if c = ':' ∧ inFlow ∧ rest.head?.any (fun x => x == '?' || endsFlow x) then none
    else if c = ':' ∧ rest.head?.all (fun x => isBlank x || isBreak x) then some []
    else if inFlow && endsFlow c then some []
    else (stretch inFlow rest).map (c :: ·)

/-- A plain scalar: its text, whether it ended behind a break, and the place behind. -/
def read (inFlow : Bool) (indent : Nat) :
    (fuel : Nat) → (text : List Char) → Gap → Cursor → Option (List Char × Bool × Cursor)
  | 0, _, _, _ => none
  | fuel + 1, text, gap, c =>
    if c.atMarker || c.sees '#' then some (text, gap.first.isSome, c)
    else do
      let part ← stretch inFlow c.rest
      let c := c.skip part.length
      let text := if part = [] then text else text ++ gap.text ++ part
      let gap := if part = [] then gap else {}
      if !c.atBlank && !c.atBreak then return (text, gap.first.isSome, c)
      let (gap, c) ← Gap.read (some indent) (c.rest.length + 1) gap c
      if !inFlow && c.column < indent then return (text, gap.first.isSome, c)
      read inFlow indent fuel text gap c

end Plain

/-! ## Quoted scalars -/

namespace Quoted

/-- The characters that a letter behind a backslash stands for. -/
def escapes : List (Char × Char) :=
  [('0', '\x00'), ('a', '\x07'), ('b', '\x08'), ('t', '\t'), ('\t', '\t'), ('n', '\n'),
   ('v', '\x0b'), ('f', '\x0c'), ('r', '\r'), ('e', '\x1b'), (' ', ' '), ('"', '"'),
   ('/', '/'), ('\\', '\\'), ('N', '\x85'), ('_', '\xa0'), ('L', '\u2028'), ('P', '\u2029')]

/-- How many hexadecimal digits follow a letter behind a backslash. -/
def codeLengths : List (Char × Nat) := [('x', 2), ('u', 4), ('U', 8)]

def hexValue? (c : Char) : Option Nat :=
  if c.isDigit then some (c.toNat - '0'.toNat)
  else if ('a' ≤ c ∧ c ≤ 'f') ∨ ('A' ≤ c ∧ c ≤ 'F') then some (c.toLower.toNat - 'a'.toNat + 10)
  else none

def codePoint? (digits : List Char) : Option Char := do
  let values ← digits.mapM hexValue?
  let n := values.foldl (fun n d => n * 16 + d) 0
  if n < 0xD800 ∨ (0xDFFF < n ∧ n ≤ 0x10FFFF) then some (Char.ofNat n) else none

/-- The character that an escape behind its backslash stands for, and how long the escape is. -/
def escape? : List Char → Option (Char × Nat)
  | [] => none
  | c :: rest =>
    match escapes.lookup c with
    | some x => some (x, 1)
    | none => do
      let n ← codeLengths.lookup c
      if rest.length < n then none
      let x ← codePoint? (rest.take n)
      return (x, n + 1)

/-- A stretch without blanks: its text, whether it ended with an escaped break, and the place
behind. -/
def stretch (quote : Char) : (fuel : Nat) → Cursor → Option (List Char × Bool × Cursor)
  | 0, _ => none
  | fuel + 1, c =>
    match c.rest with
    | [] => some ([], false, c)
    | x :: rest =>
      let more (chars : List Char) (n : Nat) : Option (List Char × Bool × Cursor) :=
        (stretch quote fuel (c.skip n)).map fun (text, b, c) => (chars ++ text, b, c)
      if isBlank x || isBreak x then some ([], false, c)
      else if x = quote then
        if quote = '\'' ∧ rest.head? = some '\'' then more ['\''] 2 else some ([], false, c)
      else if quote = '"' ∧ x = '\\' then
        if rest.head?.any isBreak then some ([], true, (c.skip 1).nextLine.2)
        else
          match escape? rest with
          | none => none
          | some (y, n) => more [y] (n + 1)
      else more [x] 1

def read (quote : Char) : (fuel : Nat) → (text : List Char) → Cursor → Option (List Char × Cursor)
  | 0, _, _ => none
  | fuel + 1, text, c =>
    if c.atMarker || c.atEnd then none
    else do
      let (part, broken, c) ← stretch quote (c.rest.length + 1) c
      let text := text ++ part
      if c.sees quote then return (text, c.skip 1)
      let gap : Gap := if broken then { first := some [] } else {}
      let (gap, c) ← Gap.read none (c.rest.length + 1) gap c
      read quote fuel (text ++ gap.text) c

end Quoted

/-! ## Blocks -/

namespace Block

/-- What becomes of the breaks at the end of a block. -/
inductive Chomping
  | strip | clip | keep
  deriving DecidableEq, Repr

def chomping? (c : Cursor) : Option Chomping × Cursor :=
  if c.sees '+' then (some .keep, c.skip 1)
  else if c.sees '-' then (some .strip, c.skip 1)
  else (none, c)

/-- The indentation that a digit asks for; zero is none. -/
def increment? (c : Cursor) : Option (Option Nat × Cursor) :=
  match c.peek with
  | some d =>
    if d = '0' then none
    else if d.isDigit then some (some (d.toNat - '0'.toNat), c.skip 1)
    else some (none, c)
  | none => some (none, c)

/-- The indicators behind the sign of a block, in either order. -/
def header? (c : Cursor) : Option (Chomping × Option Nat × Cursor) :=
  match chomping? c with
  | (some chomping, c) => (increment? c).map fun (n, c) => (chomping, n, c)
  | (none, c) =>
    match increment? c with
    | none => none
    | some (none, c) => some (.clip, none, c)
    | some (some n, c) =>
      let (chomping, c) := chomping? c
      some (chomping.getD .clip, some n, c)

/-- Blank lines ahead: their breaks, the greatest indentation seen, and the place behind the spaces
of the next line. No tab may stand for indentation. -/
def breaks (indent : Option Nat) :
    (fuel : Nat) → (most : Nat) → (seen : List Char) → Cursor → Option (List Char × Nat × Cursor)
  | 0, most, seen, c => some (seen, most, c)
  | fuel + 1, most, seen, c =>
    let spaces := (c.rest.takeWhile (· = ' ')).length
    let c := c.skip (match indent with | none => spaces | some n => min spaces (n - c.column))
    let most := max most c.column
    if c.sees '\t' && indent.all (c.column < ·) then none
    else if c.atBreak then
      let (b, c) := c.nextLine
      breaks indent fuel most (seen ++ b) c
    else some (seen, most, c)

/-- The lines of a block. `first` is the break of the last line, `others` are those behind it. -/
def lines (isLiteral : Bool) (indent : Nat) : (fuel : Nat) → (text first others : List Char) →
    (afterBlank : Bool) → Cursor → Option (List Char × List Char × List Char × Cursor)
  | 0, _, _, _, _, _ => none
  | fuel + 1, text, first, others, afterBlank, c =>
    if c.column = indent ∧ ¬ c.atEnd then do
      let blank := c.atBlank
      let folds := !isLiteral && first == ['\n'] && !afterBlank && !blank
      let joint := if folds then (if others = [] then [' '] else []) else first
      let (line, c) := c.span fun _ => true
      let (first, c) := c.nextLine
      let text := text ++ joint ++ others ++ line
      let (others, _, c) ← breaks (some indent) (c.rest.length + 1) 0 [] c
      lines isLiteral indent fuel text first others blank c
    else some (text, first, others, c)

/-- A block behind its sign, inside of a node at an indentation; `-1` is that of the outermost. -/
def read (isLiteral : Bool) (parent : Int) (c : Cursor) : Option (List Char × Cursor) := do
  let (chomping, increment, c) ← header? c
  let c ← c.skipComment?
  let given := increment.map fun n => (if parent ≥ 0 then parent.toNat + n else n)
  let fuel := c.rest.length + 1
  let (others, most, c) ← breaks given fuel 0 [] c
  let indent := given.getD (max most (max (parent + 1).toNat 1))
  let (text, first, others, c) ← lines isLiteral indent fuel [] [] others false c
  let tail := match chomping with
    | .strip => []
    | .clip => first
    | .keep => first ++ others
  return (text ++ tail, c)

end Block

end Gatehouse.Yaml
