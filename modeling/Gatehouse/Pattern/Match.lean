import Gatehouse.Pattern.Basic

/-!
# Matching

A pattern leads from each place of a text to the places where a stretch that it describes may end.
Matching follows all places at once: a set of places is a list of flags, one for each place before,
between and behind the characters. A text matches if a pattern leads from any place to any place.
-/

namespace Gatehouse.Pattern

/-- A text made ready for matching: its characters, and for each place the characters before and
behind it. -/
structure Subject where
  chars : List Nat
  neighbours : List (Option Nat × Option Nat)

def neighboursOf : Option Nat → List Nat → List (Option Nat × Option Nat)
  | before, [] => [(before, none)]
  | before, c :: rest => (before, some c) :: neighboursOf (some c) rest

def Subject.ofText (s : String) : Subject :=
  let cs := s.toList.map Char.toNat
  ⟨cs, neighboursOf none cs⟩

/-- A set of places. -/
abbrev Places := List Bool

namespace Places

def union (a b : Places) : Places := List.zipWith (· || ·) a b

def isEmpty (a : Places) : Bool := !a.contains true

end Places

/-- Whether there is a character of words at a side. -/
def wordAt (ascii : Bool) : Option Nat → Bool
  | none => false
  | some c => if ascii then CharSet.asciiWordChars.has c else CharSet.wordChars.has c

/-- Whether a place is what is asked for, by the characters before and behind it. -/
def Look.holds (l : Look) (before after : Option Nat) : Bool :=
  let boundary (ascii : Bool) := wordAt ascii before != wordAt ascii after
  match l with
  | textStart => before.isNone
  | textEnd => after.isNone
  | lineStart => before.isNone || before == some 10
  | lineEnd => after.isNone || after == some 10
  | lineStartCrlf =>
    before.isNone || before == some 10 || (before == some 13 && after != some 10)
  | lineEndCrlf => after.isNone || after == some 13 || (after == some 10 && before != some 13)
  | wordBoundary => boundary false
  | notWordBoundary => !boundary false
  | wordStart => !wordAt false before && wordAt false after
  | wordEnd => wordAt false before && !wordAt false after
  | wordStartHalf => !wordAt false before
  | wordEndHalf => !wordAt false after
  | asciiWordBoundary => boundary true
  | asciiNotWordBoundary => !boundary true
  | asciiWordStart => !wordAt true before && wordAt true after
  | asciiWordEnd => wordAt true before && !wordAt true after
  | asciiWordStartHalf => !wordAt true before
  | asciiWordEndHalf => !wordAt true after

/-- Applies a step so many times, unless no place is left. -/
def iterate (step : Places → Places) : Nat → Places → Places
  | 0, a => a
  | n + 1, a => if a.isEmpty then a else iterate step n (step a)

/-- Applies a step at most so many times, until it leads nowhere new. -/
def gather (step : Places → Places) : Nat → Places → Places
  | 0, a => a
  | n + 1, a =>
    let b := a.union (step a)
    if b = a then a else gather step n b

/-- The places to which a pattern leads from some places. -/
def reach (s : Subject) : Pattern → Places → Places
  | empty, a => a
  | char set, a => false :: List.zipWith (fun here c => here && set.has c) a s.chars
  | look l, a => List.zipWith (fun here n => here && l.holds n.1 n.2) a s.neighbours
  | concat p q, a => reach s q (reach s p a)
  | either p q, a => (reach s p a).union (reach s q a)
  | capture p, a => reach s p a
  | repetition low high p, a =>
    let b := iterate (reach s p) low a
    match high with
    | none => gather (reach s p) s.neighbours.length b
    | some n => gather (reach s p) (n - low) b

/-- Whether a text contains a stretch that the pattern describes. -/
def isMatch (p : Pattern) (text : String) : Bool :=
  let s := Subject.ofText text
  !(reach s p (s.neighbours.map fun _ => true)).isEmpty

end Gatehouse.Pattern
