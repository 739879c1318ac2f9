/-!
# JSON values

Numbers are kept as they were written: naturals and negative integers of 64 bits exactly, all others
as double-precision numbers. The members of an object are in increasing order of their names, each
name once.
-/

namespace Gatehouse

inductive Number
  | natural (n : Nat)
  /-- The number `-n`, with `n` positive. -/
  | negative (n : Nat)
  /-- A finite double-precision number, by its bits. -/
  | real (bits : UInt64)
  deriving DecidableEq, Repr, Inhabited

inductive Json
  | null
  | bool (b : Bool)
  | number (n : Number)
  | text (s : String)
  | array (items : List Json)
  | object (members : List (String × Json))
  deriving Inhabited, Repr

namespace Number

def ofInt (i : Int) : Number := if i < 0 then negative i.natAbs else natural i.toNat

def toInt? : Number → Option Int
  | natural n => some n
  | negative n => some (-n)
  | real _ => none

theorem toInt?_ofInt (i : Int) : (ofInt i).toInt? = some i := by
  unfold ofInt
  split <;> simp only [toInt?, Option.some.injEq] <;> omega

end Number

namespace Json

/-- Puts a member in its place in the order of names; a member of that name is replaced. -/
def insertMember (name : String) (value : Json) : List (String × Json) → List (String × Json)
  | [] => [(name, value)]
  | (n, v) :: rest =>
    if name < n then (name, value) :: (n, v) :: rest
    else if name = n then (name, value) :: rest
    else (n, v) :: insertMember name value rest

/-- An object with the given members; of two with one name the later counts. -/
def ofMembers (members : List (String × Json)) : Json :=
  object (members.foldl (fun acc m => insertMember m.1 m.2 acc) [])

def nat (n : Nat) : Json := number (.natural n)

def int (i : Int) : Json := number (.ofInt i)

def texts (ss : List String) : Json := array (ss.map text)

def textOrNull : Option String → Json
  | some s => text s
  | none => null

/-! Reading values whose form is known; anything unexpected reads as nothing, zero or empty. -/

def member? (name : String) : Json → Option Json
  | object ms => ms.lookup name
  | _ => none

def member (j : Json) (name : String) : Json := (j.member? name).getD null

def asText : Json → String
  | text s => s
  | _ => ""

def asText? : Json → Option String
  | text s => some s
  | _ => none

def asBool : Json → Bool
  | bool b => b
  | _ => false

def asInt : Json → Int
  | number n => n.toInt?.getD 0
  | _ => 0

def asNat (j : Json) : Nat := j.asInt.toNat

def items : Json → List Json
  | array js => js
  | _ => []

def members : Json → List (String × Json)
  | object ms => ms
  | _ => []

def withMembers (j : Json) (ms : List (String × Json)) : Json := ofMembers (j.members ++ ms)

def isNull : Json → Bool
  | null => true
  | _ => false

@[simp] theorem asText_text (s : String) : (text s).asText = s := rfl

@[simp] theorem asBool_bool (b : Bool) : (bool b).asBool = b := rfl

@[simp] theorem asInt_int (i : Int) : (int i).asInt = i := by
  simp [int, asInt, Number.toInt?_ofInt]

@[simp] theorem asNat_nat (n : Nat) : (nat n).asNat = n := by
  simp [nat, asNat, asInt, Number.toInt?]

@[simp] theorem items_array (js : List Json) : (array js).items = js := rfl

@[simp] theorem map_asText_items_texts (ss : List String) :
    (texts ss).items.map asText = ss := by
  simp [texts, Function.comp_def]

end Json

end Gatehouse
