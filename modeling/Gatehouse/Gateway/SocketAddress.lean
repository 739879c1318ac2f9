import Gatehouse.Url.Ipv6

/-!
# Socket addresses

The address that the gateway listens on: four numbers between dots, or up to eight groups of
hexadecimal digits in brackets, and a port. Host names are none.
-/

namespace Gatehouse

inductive SocketAddress
  | v4 (octets : List Nat) (port : Nat)
  | v6 (groups : List Nat) (zone : Nat) (port : Nat)
  deriving DecidableEq, Repr

namespace SocketAddress

def digitValue? (base : Nat) (c : Char) : Option Nat :=
  let n :=
    if c.isDigit then c.toNat - '0'.toNat
    else if c.isAlpha then c.toLower.toNat - 'a'.toNat + 10
    else base
  if n < base then some n else none

/-- The digits in front of a text, at most so many, and what follows them. -/
def digits (base : Nat) : (most : Nat) → List Char → List Nat × List Char
  | most + 1, c :: rest =>
    match digitValue? base c with
    | some d => let (ds, r) := digits base most rest; (d :: ds, r)
    | none => ([], c :: rest)
  | _, cs => ([], cs)

/-- A number of at least one digit that is below a limit, and what follows it. -/
def number? (base limit most : Nat) (cs : List Char) : Option (Nat × List Char) :=
  let (ds, rest) := digits base most cs
  let n := ds.foldl (fun n d => n * base + d) 0
  if ds = [] ∨ n ≥ limit then none else some (n, rest)

/-- A number between dots: no zero stands in front of other digits. -/
def octet? (cs : List Char) : Option (Nat × List Char) :=
  match cs with
  | '0' :: rest => if (digits 10 1 rest).1 = [] then some (0, rest) else none
  | cs => number? 10 256 3 cs

def expect? (c : Char) : List Char → Option (List Char)
  | d :: rest => if c = d then some rest else none
  | [] => none

def octets? (cs : List Char) : Option (List Nat × List Char) := do
  let (a, cs) ← octet? cs
  let (b, cs) ← octet? (← expect? '.' cs)
  let (c, cs) ← octet? (← expect? '.' cs)
  let (d, cs) ← octet? (← expect? '.' cs)
  return ([a, b, c, d], cs)

/-- The two groups that four numbers stand for. -/
def groupsOfOctets : List Nat → List Nat
  | [a, b, c, d] => [a * 256 + b, c * 256 + d]
  | _ => []

/-- Groups between colons, at most so many; and whether the last two are written as four numbers. -/
def groups : (first : Bool) → (most : Nat) → List Char → List Nat × Bool × List Char
  | _, 0, cs => ([], false, cs)
  | first, most + 1, cs =>
    let start := if first then some cs else expect? ':' cs
    let embedded := if most = 0 then none else start.bind octets?
    match embedded with
    | some (os, rest) => (groupsOfOctets os, true, rest)
    | none =>
      match start.bind (number? 16 65536 4) with
      | none => ([], false, cs)
      | some (g, rest) =>
        let (gs, isEmbedded, rest) := groups false most rest
        (g :: gs, isEmbedded, rest)

/-- Eight groups; two colons stand for one or more that are zero. -/
def allGroups? (cs : List Char) : Option (List Nat × List Char) := do
  let (front, isEmbedded, rest) := groups true 8 cs
  if front.length = 8 then return (front, rest)
  if isEmbedded then none
  let rest ← expect? ':' (← expect? ':' rest)
  let (back, _, rest) := groups true (7 - front.length) rest
  return (front ++ List.replicate (8 - front.length - back.length) 0 ++ back, rest)

def port? (cs : List Char) : Option (Nat × List Char) := do
  let cs ← expect? ':' cs
  number? 10 65536 cs.length cs

def readV4 (cs : List Char) : Option (SocketAddress × List Char) := do
  let (os, cs) ← octets? cs
  let (port, cs) ← port? cs
  return (v4 os port, cs)

/-- A percent sign and a zone, if there is one. -/
def zone (cs : List Char) : Nat × List Char :=
  match cs with
  | '%' :: rest => (number? 10 (Nat.pow 2 32) rest.length rest).getD (0, cs)
  | cs => (0, cs)

def readV6 (cs : List Char) : Option (SocketAddress × List Char) := do
  let cs ← expect? '[' cs
  let (gs, cs) ← allGroups? cs
  let (zone, cs) := zone cs
  let cs ← expect? ']' cs
  let (port, cs) ← port? cs
  return (v6 gs zone port, cs)

def parse? (s : String) : Option SocketAddress :=
  match (readV4 s.toList).or (readV6 s.toList) with
  | some (a, []) => some a
  | _ => none

/-- The written form of four numbers. -/
def printOctets (os : List Nat) : String := ".".intercalate (os.map toString)

/-- The written form of eight groups. Those that stand for four numbers end in them. -/
def printGroups : List Nat → String
  | [0, 0, 0, 0, 0, 65535, a, b] =>
    "::ffff:" ++ printOctets [a / 256, a % 256, b / 256, b % 256]
  | gs => Ipv6.print gs

def print : SocketAddress → String
  | v4 os port => printOctets os ++ ":" ++ toString port
  | v6 gs zone port =>
    let zone := if zone = 0 then "" else "%" ++ toString zone
    "[" ++ printGroups gs ++ zone ++ "]:" ++ toString port

def badMessage : String := "invalid socket address syntax"

end SocketAddress

end Gatehouse
