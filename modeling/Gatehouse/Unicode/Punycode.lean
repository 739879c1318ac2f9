/-!
# Punycode

Host names carry other characters in letters, digits and hyphens: first the plain characters of a
label, then, for each other character in increasing order, how far it is from the one before.
Distances are written with digits whose weights adapt to the distances seen so far.
-/

namespace Gatehouse.Punycode

def digit (n : Nat) : Char :=
  if n < 26 then Char.ofNat ('a'.toNat + n) else Char.ofNat ('0'.toNat + (n - 26))

def value (c : Char) : Option Nat :=
  if 'a' ≤ c ∧ c ≤ 'z' then some (c.toNat - 'a'.toNat)
  else if 'A' ≤ c ∧ c ≤ 'Z' then some (c.toNat - 'A'.toNat)
  else if '0' ≤ c ∧ c ≤ '9' then some (c.toNat - '0'.toNat + 26)
  else none

/-- The digit at place `k` ends a number if it is below this. -/
def threshold (k bias : Nat) : Nat := min 26 (max 1 (k - bias))

/-- Divides until the rest is small; yields the weight of the divisions and the rest. -/
def settle (k delta : Nat) : Nat × Nat :=
  if delta > 455 then settle (k + 36) (delta / 35) else (k, delta)
termination_by delta

/-- The bias after a distance, when `count` characters are placed. -/
def adapt (delta count : Nat) (first : Bool) : Nat :=
  let d := if first then delta / 700 else delta / 2
  let (k, d) := settle 0 (d + d / count)
  k + 36 * d / (d + 38)

theorem threshold_pos (k bias : Nat) : 1 ≤ threshold k bias := by
  unfold threshold; omega

/-- The digits of a distance from place `k` on. -/
def digits (bias k n : Nat) : List Char :=
  let t := threshold k bias
  if n < t then [digit n]
  else digit (t + (n - t) % (36 - t)) :: digits bias (k + 36) ((n - t) / (36 - t))
termination_by n
decreasing_by
  have := threshold_pos k bias
  exact Nat.lt_of_le_of_lt (Nat.div_le_self _ _) (by omega)

structure Progress where
  output : List Char
  delta : Nat
  bias : Nat
  placed : Nat

/-- Passes one character of the label while the characters `n` are placed. -/
def passOne (basic n : Nat) (p : Progress) (c : Nat) : Progress :=
  if c < n then { p with delta := p.delta + 1 }
  else if c = n then
    { output := p.output ++ digits p.bias 36 p.delta
      delta := 0
      bias := adapt p.delta (p.placed + 1) (p.placed == basic)
      placed := p.placed + 1 }
  else p

/-- Places all characters of each kind, in increasing order; `next` is the least one not placed. -/
def placeAll (label : List Nat) (basic : Nat) : Nat → List Nat → Progress → Progress
  | _, [], p => p
  | next, n :: rest, p =>
    let p := { p with delta := p.delta + (n - next) * (p.placed + 1) }
    let p := label.foldl (passOne basic n) p
    placeAll label basic (n + 1) rest { p with delta := p.delta + 1 }

def encode (label : List Nat) : List Char :=
  let plain := label.filter (· < 128)
  let others := ((label.filter (· ≥ 128)).mergeSort (· ≤ ·)).eraseDups
  let start := plain.map Char.ofNat ++ (if plain = [] then [] else ['-'])
  (placeAll label plain.length 128 others ⟨start, 0, 72, plain.length⟩).output

/-- Reads a distance: its value behind `i`, and what follows. -/
def readDigits (bias : Nat) : (k i weight : Nat) → List Char → Option (Nat × List Char)
  | _, _, _, [] => none
  | k, i, weight, c :: rest =>
    match value c with
    | none => none
    | some d =>
      let i := i + d * weight
      let t := threshold k bias
      if d < t then some (i, rest) else readDigits bias (k + 36) i (weight * (36 - t)) rest

theorem readDigits_length {bias : Nat} (cs : List Char) : ∀ {k i w : Nat} {r : Nat × List Char},
    readDigits bias k i w cs = some r → r.2.length < cs.length := by
  induction cs with
  | nil => simp [readDigits]
  | cons c rest ih =>
    intro k i w r h
    simp only [readDigits] at h
    split at h
    · simp at h
    · split at h
      · cases h; simp
      · exact Nat.lt_trans (ih h) (by simp)

/-- Places the characters that the digits tell. -/
def decodeDigits (n i bias : Nat) (label : List Nat) (cs : List Char) : Option (List Nat) :=
  if cs = [] then some label
  else
    match h : readDigits bias 36 i 1 cs with
    | none => none
    | some (j, rest) =>
      have := readDigits_length cs h
      let count := label.length + 1
      let c := n + j / count
      let place := j % count
      if c > 0x10FFFF ∨ (0xD800 ≤ c ∧ c ≤ 0xDFFF) then none
      else
        decodeDigits c (place + 1) (adapt (j - i) count (i == 0))
          (label.take place ++ c :: label.drop place) rest
termination_by cs.length

def decode? (cs : List Char) : Option (List Nat) :=
  let tail := (cs.reverse.takeWhile (· ≠ '-')).reverse
  let plain := cs.take (cs.length - tail.length - 1)
  if plain.all (·.toNat < 128) then
    let digits := if tail.length = cs.length then cs else tail
    decodeDigits 128 0 72 (plain.map Char.toNat) digits
  else none

end Gatehouse.Punycode
