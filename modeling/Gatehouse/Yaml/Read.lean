import Gatehouse.Schema.Read
import Gatehouse.Yaml.Node
import Gatehouse.Yaml.Plain

/-!
# Reading a document by a schema

A document holds a value of a schema under the rules of the format: any scalar is a text where a
text is wanted, a record is a mapping and never a sequence, and what is left out is an empty record
or an empty list. Nodes may nest 128 deep, and aliases may be followed a hundred times for each mark
of the document. The result is in the normal form of the schema.
-/

namespace Gatehouse.Yaml

namespace Tag

def bool : String := "tag:yaml.org,2002:bool"
def int : String := "tag:yaml.org,2002:int"
def float : String := "tag:yaml.org,2002:float"
def null : String := "tag:yaml.org,2002:null"

/-- The name in a tag of the document's own. -/
def local? (tag : Option String) : Option String :=
  tag.bind fun t => match t.toList with
    | '!' :: rest => some (String.ofList rest)
    | _ => none

end Tag

namespace Scalar

/-- Whether nothing is written at all. -/
def isEmpty (s : Scalar) : Bool := s.style == .plain && s.text == ""

/-- Whether a scalar is written without quotes, or as a literal block with a certain tag. -/
def isBare (s : Scalar) (tag : String) : Bool :=
  s.style == .plain || (s.style == .literal && s.tag == some tag)

def any (s : Scalar) : Option Json :=
  match s.tag with
  | none => if s.style = .plain then Resolve.plain s.text else some (.text s.text)
  | some tag =>
    if (Tag.local? s.tag).isSome then none
    else if tag = Tag.bool then (Resolve.bool? s.text).map .bool
    else if tag = Tag.int then
      match Resolve.integer? s.text with
      | some (.value j) => some j
      | _ => none
    else if tag = Tag.float then Resolve.floatValue? s.text
    else if tag = Tag.null then if Resolve.isNull s.text then some .null else none
    else some (.text s.text)

def flag (s : Scalar) : Option Json :=
  if s.isBare Tag.bool then (Resolve.bool? s.text).map .bool else none

def natural (s : Scalar) : Option Json :=
  if s.isBare Tag.int then
    (Resolve.natural? s.text).bind fun n => if n < Nat.pow 2 64 then some (.nat n) else none
  else none

def integer (s : Scalar) : Option Json :=
  if s.isBare Tag.int then
    match Resolve.natural? s.text, Resolve.negative? s.text with
    | some n, _ => if n < Nat.pow 2 63 then some (.nat n) else none
    | none, some n => if n ≤ Nat.pow 2 63 then some (.int (-(n : Int))) else none
    | none, none => none
  else none

def optionalText (s : Scalar) : Option Json :=
  if s.style ≠ .plain then some (.text s.text)
  else
    match s.tag with
    | some tag =>
      if tag = Tag.null then if Resolve.isNull s.text then some .null else none
      else some (.text s.text)
    | none => some (if s.text = "" ∨ Resolve.isNull s.text then .null else .text s.text)

/-- One of some names: written as it is, or as a tag of the document's own with nothing behind it.
-/
def choice (variants : List String) (s : Scalar) : Option Json :=
  let known (name : String) : Option Json :=
    if variants.contains name then some (.text name) else none
  match Tag.local? s.tag with
  | none => known s.text
  | some name =>
    if s.style = .plain ∧ (s.text = "" ∨ Resolve.isNull s.text) then known name else none

def read (s : Scalar) : Schema → Option Json
  | .text _ => some (.text s.text)
  | .optionalText _ => s.optionalText
  | .flag => s.flag
  | .natural _ => s.natural
  | .integer => s.integer
  | .any => s.any
  | .choice variants => s.choice variants
  | .list _ => if s.isEmpty then some (.array []) else none
  | .record _ fields =>
    if s.isEmpty then (Schema.fillFields [] fields).toOption.map .object else none

end Scalar

/-- A step of reading; the state is how many aliases may still be followed. -/
abbrev Reading := StateT Nat Option

def follow : Reading Unit := do
  match ← get with
  | 0 => failure
  | n + 1 => set n

def enter : (depth : Nat) → Reading Nat
  | 0 => failure
  | depth + 1 => return depth

namespace Node

mutual

/-- The text that a key is. -/
def keyText : Node → Reading String
  | scalar s => return s.text
  | .alias target => do
    follow
    keyText target
  | _ => failure

def read (depth : Nat) (schema : Schema) : Node → Reading Json
  | scalar s => s.read schema
  | .alias target => do
    follow
    read depth schema target
  | endless => failure
  | sequence tag items =>
    match schema with
    | .list item => do
      let depth ← enter depth
      return .array (← readItems depth item items)
    | .any => do
      if (Tag.local? tag).isSome then failure
      let depth ← enter depth
      return .array (← readItems depth .any items)
    | _ => failure
  | mapping tag entries =>
    match schema with
    | .record _ fields => do
      let depth ← enter depth
      return .object (← readFields depth fields [] entries)
    | .any => do
      if (Tag.local? tag).isSome then failure
      let depth ← enter depth
      return .ofMembers (← readMembers depth entries)
    | _ => failure

def readItems (depth : Nat) (item : Schema) : List Node → Reading (List Json)
  | [] => return []
  | n :: rest => do
    let v ← read depth item n
    return v :: (← readItems depth item rest)

def readMembers (depth : Nat) : List (Node × Node) → Reading (List (String × Json))
  | [] => return []
  | (k, v) :: rest => do
    let name ← keyText k
    let value ← read depth .any v
    return (name, value) :: (← readMembers depth rest)

/-- Reads the fields of a record; `present` came before. Entries that are no field are passed over.
-/
def readFields (depth : Nat) (fields : List (Field × Schema)) (present : List (String × Json)) :
    List (Node × Node) → Reading (List (String × Json))
  | [] =>
    match Schema.fillFields present fields with
    | .ok ms => return ms
    | .error _ => failure
  | (k, v) :: rest => do
    let name ← keyText k
    match Schema.findField fields name with
    | none => readFields depth fields present rest
    | some (f, schema) =>
      if (present.lookup f.name).isSome then failure
      let value ← read depth schema v
      readFields depth fields ((f.name, value) :: present) rest

end

end Node

/-- How deep sequences and mappings may nest. -/
def depthLimit : Nat := 128

/-- How many aliases may be followed for each mark of a document. -/
def followLimit : Nat := 100

def readText (schema : Schema) (text : String) : Option Json := do
  let root : Node := match ← Stream.ofText? text with
    | .empty => .empty
    | .document n => n
  let (j, _) ← (root.read depthLimit schema).run (followLimit * root.weight)
  return j

def ofText? {α : Type} [Wire α] (text : String) : Option α :=
  (readText (Wire.schema α) text).map Wire.decode

end Gatehouse.Yaml
