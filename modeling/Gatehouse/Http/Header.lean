import Gatehouse.Text.Utf8

/-!
# Headers

The headers of a message are pairs of a name and a value. A name may occur several times; the order
of the values of one name is kept. Names are kept in lower case.
-/

namespace Gatehouse

def isTokenChar (c : Char) : Bool :=
  c.isAlphanum ||
  ['!', '#', '$', '%', '&', '\'', '*', '+', '-', '.', '^', '_', '\x60', '|', '~'].contains c

/-- A name in lower case. -/
structure HeaderName where
  text : String
  deriving DecidableEq, Repr

namespace HeaderName

def maxLength : Nat := 65535

/-- The name that a text is, in any case. -/
def ofText? (s : String) : Option HeaderName :=
  let cs := s.toList
  if cs ≠ [] ∧ cs.length ≤ maxLength ∧ cs.all isTokenChar then
    some ⟨String.ofList (cs.map Char.toLower)⟩
  else none

def accessToken : HeaderName := ⟨"x-access-token"⟩
def connection : HeaderName := ⟨"connection"⟩
def host : HeaderName := ⟨"host"⟩
def userAgent : HeaderName := ⟨"user-agent"⟩

end HeaderName

namespace HeaderValue

def isAllowed (b : UInt8) : Bool := (b ≥ 32 && b != 127) || b == 9

/-- Whether a value is plain text: printing characters of ASCII, blanks and tabs. -/
def isPlain (v : Bytes) : Bool := v.all fun b => (b ≥ 32 && b < 127) || b == 9

def text? (v : Bytes) : Option String :=
  if isPlain v then some (String.ofList (v.map fun b => Char.ofNat b.toNat)) else none

end HeaderValue

/-- Headers in order. -/
abbrev Headers := List (HeaderName × Bytes)

namespace Headers

inductive Fault
  | badName
  | badValue
  deriving DecidableEq, Repr

def Fault.message : Fault → String
  | badName => "invalid HTTP header name"
  | badValue => "failed to parse header value"

def ofPair (name : String) (value : Bytes) : Except Fault (HeaderName × Bytes) :=
  match HeaderName.ofText? name with
  | none => .error .badName
  | some n => if value.all HeaderValue.isAllowed then .ok (n, value) else .error .badValue

def values (hs : Headers) (name : HeaderName) : List Bytes :=
  hs.filterMap fun h => if h.1 = name then some h.2 else none

def has (hs : Headers) (name : HeaderName) : Bool := hs.any (·.1 == name)

def remove (hs : Headers) (name : HeaderName) : Headers := hs.filter (·.1 != name)

/-- The headers with a name that has this one value only. -/
def set (hs : Headers) (name : HeaderName) (value : Bytes) : Headers :=
  hs.remove name ++ [(name, value)]

theorem values_append (hs ks : Headers) (name : HeaderName) :
    values (hs ++ ks) name = hs.values name ++ values ks name := List.filterMap_append

theorem values_remove (hs : Headers) (name other : HeaderName) :
    (hs.remove name).values other = if name = other then [] else hs.values other := by
  induction hs with
  | nil => simp [remove, values]
  | cons h rest ih =>
    simp only [remove, values] at ih
    by_cases h1 : h.1 = name <;> by_cases h2 : h.1 = other <;> by_cases h3 : name = other <;>
      simp_all [remove, values]

theorem values_set (hs : Headers) (name other : HeaderName) (v : Bytes) :
    (hs.set name v).values other = if name = other then [v] else hs.values other := by
  simp only [set, values_append, values_remove]
  by_cases h : name = other <;> simp [h, values]

end Headers

end Gatehouse
