import Gatehouse.Json.Literal
import Gatehouse.Text.Utf8

/-!
# JSON texts, faults included

A text is scanned into a tree before anyone asks what it should be read as. Where the text is
damaged the tree breaks off and holds the fault. So the fault that counts is the first one that a
reader of the tree meets, be it a fault of the text or of what it says. A reader may also skip a
value that it has no use for; skipping is less strict about numbers and texts, and words some faults
differently.
-/

namespace Gatehouse

mutual

inductive Scan
  | null
  | bool (b : Bool)
  /-- A well-formed number, perhaps out of range. -/
  | number (value : Except SyntaxError Number)
  /-- A well-formed text, perhaps with half of a surrogate pair. -/
  | text (value : Except SyntaxError String)
  | array (items : Scan.Items)
  | object (members : Scan.Members)
  /-- No value; the faults for one who reads, for one who skips and for one who chooses among names.
  -/
  | broken (reading skipping choosing : SyntaxError)

/-- The items of an array up to its end or to a fault. -/
inductive Scan.Items
  | closed
  | item (first : Scan) (rest : Scan.Items)
  /-- The faults for one who wants another item, for one who skips and for one who wants the end. -/
  | broken (reading skipping ending : SyntaxError)

/-- The members of an object up to its end or to a fault. -/
inductive Scan.Members
  | closed
  | member (name : Except SyntaxError String) (value : Scan) (rest : Scan.Members)
  /-- Something other than a text stands where a name is needed. -/
  | unnamed (found : Scan)
  | broken (reading skipping : SyntaxError)

end

namespace Scan

def isBlank (c : Char) : Bool := c = ' ' || c = '\n' || c = '\t' || c = '\r'

def skipBlanks (s : List Char) : List Char := s.dropWhile isBlank

/-- What is scanned in the place of damaged bytes. In a text it is passed over by one who skips, and
the half of a surrogate pair at its end keeps it from being read; anywhere else, behind a backslash
for instance, its first character is a fault already. -/
def damage : List Char := [Utf8.replacement, '\\', 'u', 'd', 'c', '0', '0']

/-- The characters of a body, with each damaged stretch in its place. -/
def charsOf (body : Bytes) : List Char :=
  (Utf8.units body).flatMap fun unit => unit.elim damage fun c => [c]

def word : List Char → List Char → Except SyntaxError (List Char)
  | [], s => .ok s
  | _ :: _, [] => .error .eofValue
  | e :: es, c :: s => if c = e then word es s else .error .expectedIdent

/-- The number of four hexadecimal digits. The text ends too early if fewer than four bytes are
left. -/
def hexEscape (s : List Char) : Except SyntaxError Nat :=
  let next := s.take 4
  if (String.ofList next).utf8ByteSize < 4 then .error .eofString
  else
    let digits := next.map fun c =>
      if '0' ≤ c ∧ c ≤ '9' then some (c.toNat - '0'.toNat)
      else if 'a' ≤ c ∧ c ≤ 'f' then some (c.toNat - 'a'.toNat + 10)
      else if 'A' ≤ c ∧ c ≤ 'F' then some (c.toNat - 'A'.toNat + 10)
      else none
    match digits with
    | [some a, some b, some c, some d] => .ok (a * 4096 + b * 256 + c * 16 + d)
    | _ => .error .invalidEscape

def shortEscape (c : Char) : Option Char :=
  if c = '"' ∨ c = '\\' ∨ c = '/' then some c
  else if c = 'b' then some '\x08'
  else if c = 'f' then some '\x0c'
  else if c = 'n' then some '\n'
  else if c = 'r' then some '\r'
  else if c = 't' then some '\t'
  else none

/-- The second half of a surrogate pair, behind the first half. -/
def lowSurrogate : List Char → Except SyntaxError Nat
  | [] => .error .eofString
  | ['\\'] => .error .eofString
  | '\\' :: 'u' :: rest => do
    let n ← hexEscape rest
    if 0xDC00 ≤ n ∧ n ≤ 0xDFFF then return n else .error .loneSurrogate
  | _ => .error .unexpectedEndOfHexEscape

/-- Reads a text behind its opening quote: its characters and what follows the closing quote. -/
def readText : List Char → Except SyntaxError (List Char × List Char)
  | [] => .error .eofString
  | '"' :: rest => .ok ([], rest)
  | ['\\'] => .error .eofString
  | '\\' :: 'u' :: rest =>
    match hexEscape rest, rest with
    | .error e, _ => .error e
    | .ok n, _ :: _ :: _ :: _ :: rest =>
      if 0xDC00 ≤ n ∧ n ≤ 0xDFFF then .error .loneSurrogate
      else if 0xD800 ≤ n ∧ n ≤ 0xDBFF then
        match lowSurrogate rest, rest with
        | .error e, _ => .error e
        | .ok low, _ :: _ :: _ :: _ :: _ :: _ :: rest =>
          (readText rest).map fun (cs, r) =>
            (Char.ofNat (0x10000 + (n - 0xD800) * 0x400 + (low - 0xDC00)) :: cs, r)
        | .ok _, _ => .error .eofString
      else (readText rest).map fun (cs, r) => (Char.ofNat n :: cs, r)
    | .ok _, _ => .error .eofString
  | '\\' :: c :: rest =>
    match shortEscape c with
    | some d => (readText rest).map fun (cs, r) => (d :: cs, r)
    | none => .error .invalidEscape
  | c :: rest =>
    if c.toNat < 0x20 then .error .controlCharacter
    else (readText rest).map fun (cs, r) => (c :: cs, r)

def skipText : List Char → Except SyntaxError (List Char)
  | [] => .error .eofString
  | '"' :: rest => .ok rest
  | ['\\'] => .error .eofString
  | '\\' :: 'u' :: rest =>
    match hexEscape rest, rest with
    | .error e, _ => .error e
    | .ok _, _ :: _ :: _ :: _ :: rest => skipText rest
    | .ok _, _ => .error .eofString
  | '\\' :: c :: rest => if (shortEscape c).isSome then skipText rest else .error .invalidEscape
  | c :: rest => if c.toNat < 0x20 then .error .controlCharacter else skipText rest

/-- The text behind an opening quote, if it can at least be skipped, and what follows it. -/
def text? (s : List Char) :
    Except (SyntaxError × SyntaxError) (Except SyntaxError String × List Char) :=
  let reading := readText s
  match skipText s with
  | .ok rest => .ok (reading.map (String.ofList ·.1), rest)
  | .error skipping =>
    match reading with
    | .error e => .error (e, skipping)
    | .ok _ => .error (skipping, skipping)

/-- A value other than an array or an object, and what follows it unless the text is damaged. -/
def scalar (s : List Char) : Scan × Option (List Char) :=
  let literal (node : Scan) (w : List Char) (r : List Char) : Scan × Option (List Char) :=
    match word w r with
    | .ok rest => (node, some rest)
    | .error e => (broken e e .expectedValue, none)
  let number (negative : Bool) (r : List Char) : Scan × Option (List Char) :=
    match Literal.scan negative r with
    | .ok (l, rest) => (number l.value, some rest)
    | .error .atEnd => (broken .eofValue .invalidNumber .expectedValue, none)
    | .error .within => (broken .invalidNumber .invalidNumber .expectedValue, none)
  match s with
  | [] => (broken .eofValue .eofValue .eofValue, none)
  | 'n' :: r => literal null ['u', 'l', 'l'] r
  | 't' :: r => literal (bool true) ['r', 'u', 'e'] r
  | 'f' :: r => literal (bool false) ['a', 'l', 's', 'e'] r
  | '-' :: r => number true r
  | '"' :: r =>
    match text? r with
    | .ok (t, rest) => (text t, some rest)
    | .error (reading, skipping) => (broken reading skipping reading, none)
  | c :: r =>
    if c.isDigit then number false (c :: r)
    else (broken .expectedValue .expectedValue .expectedValue, none)

mutual

def value : Nat → List Char → Scan × Option (List Char)
  | 0, _ => (broken .eofValue .eofValue .eofValue, none)
  | fuel + 1, s =>
    match skipBlanks s with
    | '[' :: r => let (is, rest) := items fuel true r; (array is, rest)
    | '\x7b' :: r => let (ms, rest) := members fuel true r; (object ms, rest)
    | t => scalar t

/-- Scans the items of an array up to its closing bracket; `first` tells whether none came before.
-/
def items : Nat → (first : Bool) → List Char → Items × Option (List Char)
  | 0, _, _ => (.broken .eofList .eofList .eofList, none)
  | fuel + 1, first, s =>
    match skipBlanks s with
    | [] => (.broken .eofList .eofList .eofList, none)
    | ']' :: r => (.closed, some r)
    | c :: r =>
      if !first && c != ',' then
        (.broken .expectedListCommaOrEnd .expectedListCommaOrEnd .trailingCharacters, none)
      else if !first && (skipBlanks r).head? == some ']' then
        (.broken .trailingComma .expectedValue .trailingComma, none)
      else
        match value fuel (if first then c :: r else r) with
        | (v, none) => (.item v .closed, none)
        | (v, some t) => let (rest, t') := items fuel false t; (.item v rest, t')

def members : Nat → (first : Bool) → List Char → Members × Option (List Char)
  | 0, _, _ => (.broken .eofObject .eofObject, none)
  | fuel + 1, first, s =>
    match skipBlanks s with
    | [] => (.broken .eofObject .eofObject, none)
    | '\x7d' :: r => (.closed, some r)
    | c :: r =>
      if !first && c != ',' then
        (.broken .expectedObjectCommaOrEnd .expectedObjectCommaOrEnd, none)
      else
        match if first then c :: r else skipBlanks r with
        | [] => (.broken .eofValue .eofObject, none)
        | '\x7d' :: _ => (.broken .trailingComma .keyMustBeText, none)
        | '"' :: q =>
          match text? q with
          | .error (reading, skipping) => (.broken reading skipping, none)
          | .ok (name, t) =>
            match skipBlanks t with
            | [] => (.member name (broken .eofObject .eofObject .eofObject) .closed, none)
            | ':' :: w =>
              match value fuel w with
              | (v, none) => (.member name v .closed, none)
              | (v, some t) => let (rest, t') := members fuel false t; (.member name v rest, t')
            | _ =>
              let fault := broken .expectedColon .expectedColon .expectedColon
              (.member name fault .closed, none)
        | t => (.unnamed (value fuel t).1, none)

end

/-- Scans a whole text: its value, and whether nothing but blanks follows. Every second step of the
scan takes a character. -/
def document (s : List Char) : Scan × Bool :=
  match value (2 * s.length + 2) s with
  | (v, none) => (v, true)
  | (v, some rest) => (v, skipBlanks rest == [])

mutual

/-- The fault met by one who skips a value. -/
def skipFault : Scan → Option SyntaxError
  | broken _ skipping _ => some skipping
  | array items => items.skipFault
  | object members => members.skipFault
  | _ => none

def Items.skipFault : Items → Option SyntaxError
  | .closed => none
  | .item first rest => first.skipFault.or rest.skipFault
  | .broken _ skipping _ => some skipping

def Members.skipFault : Members → Option SyntaxError
  | .closed => none
  | .member _ value rest => value.skipFault.or rest.skipFault
  | .unnamed _ => some .keyMustBeText
  | .broken _ skipping => some skipping

end

mutual

def ofJson : Json → Scan
  | .null => null
  | .bool b => bool b
  | .number n => number (.ok n)
  | .text s => text (.ok s)
  | .array js => array (ofItems js)
  | .object ms => object (ofMembers ms)

def ofItems : List Json → Items
  | [] => .closed
  | j :: rest => .item (ofJson j) (ofItems rest)

def ofMembers : List (String × Json) → Members
  | [] => .closed
  | (name, j) :: rest => .member (.ok name) (ofJson j) (ofMembers rest)

end

end Scan

end Gatehouse
