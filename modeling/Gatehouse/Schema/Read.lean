import Gatehouse.Schema.Basic
import Gatehouse.Schema.DecodeError
import Gatehouse.Json.Scan

/-!
# Reading a value by its schema

The first fault in the order of the text counts, be it one of the text or one of the value. Records
may be written as objects or as sequences of their fields. A value that was scanned from a text may
nest 127 deep; a value at hand has no such limit, and a few of its faults are worded differently.
-/

namespace Gatehouse

/-- Where a value comes from. -/
inductive Origin
  /-- A text; at most `depth` levels of arrays and objects may still be opened. -/
  | text (depth : Nat)
  /-- A value at hand. -/
  | held
  deriving DecidableEq

namespace Origin

/-- Opens an array or an object. -/
def enter : Origin → Except DecodeError Origin
  | text (depth + 2) => .ok (text (depth + 1))
  | text _ => .error (.badSyntax .recursionLimit)
  | held => .ok held

end Origin

namespace Scan

/-- What stands there, or the fault that keeps one from telling. -/
def found : Scan → Except DecodeError Found
  | null => .ok .null
  | bool b => .ok (.bool b)
  | number (.ok n) => .ok (.number n)
  | number (.error e) => .error (.badSyntax e)
  | text (.ok s) => .ok (.text s)
  | text (.error e) => .error (.badSyntax e)
  | array _ => .ok .sequence
  | object _ => .ok .map
  | broken reading _ _ => .error (.badSyntax reading)

/-- The fault of a value that is not what was expected. -/
def mismatch (s : Scan) (expected : String) : DecodeError :=
  match s.found with
  | .ok f => .invalidType f expected
  | .error e => e

def Items.length : Items → Nat
  | .closed => 0
  | .item _ rest => rest.length + 1
  | .broken .. => 0

end Scan

namespace Schema

open DecodeError

/-- What follows the last wanted item of an array. -/
def readEnding (origin : Origin) (count : Nat) : Scan.Items → Except DecodeError Unit
  | .closed => .ok ()
  | .item _ rest =>
    match origin with
    | .text _ => .error (.badSyntax .trailingCharacters)
    | .held => .error (.invalidLength (count + rest.length + 1) "fewer elements in array")
  | .broken _ _ ending => .error (.badSyntax ending)

/-- One of the names of a choice. -/
def readVariant (variants : List String) (name : String) : Except DecodeError Json :=
  if variants.contains name then .ok (.text name) else .error (.unknownVariant name variants)

/-- A name of a choice with the value null behind it, written as an object in a text. -/
def readVariantMember (variants : List String) : Scan.Members → Except DecodeError Json
  | .closed => .error (.badSyntax .expectedValue)
  | .unnamed found => .error (found.mismatch "variant identifier")
  | .broken reading _ => .error (.badSyntax (if reading = .eofObject then .eofValue else reading))
  | .member (.error e) _ _ => .error (.badSyntax e)
  | .member (.ok name) value rest => do
    let variant ← readVariant variants name
    match value, rest with
    | .null, .closed => .ok variant
    | .null, .broken .eofObject _ => .error (.badSyntax .eofObject)
    | .null, _ => .error (.badSyntax .expectedValue)
    | value, _ => .error (value.mismatch "unit")

def readChoice (origin : Origin) (variants : List String) : Scan → Except DecodeError Json
  | .text (.ok name) => readVariant variants name
  | .text (.error e) => .error (.badSyntax e)
  | .broken _ _ choosing => .error (.badSyntax choosing)
  | .object ms =>
    match origin with
    | .text _ => do
      let _ ← origin.enter
      readVariantMember variants ms
    | .held =>
      match ms with
      | .member _ _ .closed => readVariantMember variants ms
      | _ => .error (.invalidValue .map "map with a single key")
  | value =>
    match origin with
    | .text _ => .error (.badSyntax .expectedValue)
    | .held => .error (value.mismatch "string or map")

/-- Values without parts. -/
def readSimple (origin : Origin) (schema : Schema) (s : Scan) : Except DecodeError Json :=
  match schema, s with
  | text _, .text (.ok t) => .ok (.text t)
  | text expected, s => .error (s.mismatch expected)
  | optionalText _, .null => .ok .null
  | optionalText _, .text (.ok t) => .ok (.text t)
  | optionalText expected, s => .error (s.mismatch expected)
  | flag, .bool b => .ok (.bool b)
  | flag, s => .error (s.mismatch "a boolean")
  | natural expected, .number (.ok n) =>
    match n with
    | .natural k => .ok (.nat k)
    | .negative _ => .error (.invalidValue (.number n) expected)
    | .real _ => .error (.invalidType (.number n) expected)
  | natural expected, s => .error (s.mismatch expected)
  | integer, .number (.ok n) =>
    match n with
    | .natural k =>
      if k < integerLimit then .ok (.nat k) else .error (.invalidValue (.number n) "i64")
    | .negative _ => .ok (.number n)
    | .real _ => .error (.invalidType (.number n) "i64")
  | integer, s => .error (s.mismatch "i64")
  | choice variants, s => readChoice origin variants s
  | list _, s => .error (s.mismatch "a sequence")
  | record name _, s => .error (s.mismatch ("struct " ++ name))
  | any, .null => .ok .null
  | any, .bool b => .ok (.bool b)
  | any, .number (.ok n) => .ok (.number n)
  | any, .text (.ok t) => .ok (.text t)
  | any, s => .error (s.mismatch "any valid JSON value")

/-- The fields of a record in order, from those that were present. -/
def fillFields (present : List (String × Json)) :
    List (Field × Schema) → Except DecodeError (List (String × Json))
  | [] => .ok []
  | (f, _) :: rest =>
    match (present.lookup f.name).or f.fallback with
    | none => .error (.missingField f.name)
    | some v => (fillFields present rest).map ((f.name, v) :: ·)

/-- The fields that are left when a sequence ends before them. -/
def fillRest (expected : String) (count : Nat) :
    List (Field × Schema) → Except DecodeError (List (String × Json))
  | [] => .ok []
  | (f, _) :: rest =>
    match f.fallback with
    | none => .error (.invalidLength count expected)
    | some v => (fillRest expected (count + 1) rest).map ((f.name, v) :: ·)

mutual

def read (origin : Origin) (schema : Schema) : Scan → Except DecodeError Json
  | .array is =>
    match schema with
    | list item => do
      let inner ← origin.enter
      return .array (← readItems inner item is)
    | any => do
      let inner ← origin.enter
      return .array (← readItems inner any is)
    | record name fields => do
      let inner ← origin.enter
      return .object (← readSequence inner (describeFields name fields.length) 0 fields is)
    | _ => readSimple origin schema (.array is)
  | .object ms =>
    match schema with
    | any => do
      let inner ← origin.enter
      return .ofMembers (← readMembers inner ms)
    | record _ fields => do
      let inner ← origin.enter
      return .object (← readFields inner fields [] ms)
    | _ => readSimple origin schema (.object ms)
  | s => readSimple origin schema s

def readItems (origin : Origin) (item : Schema) : Scan.Items → Except DecodeError (List Json)
  | .closed => .ok []
  | .item first rest => do
    let v ← read origin item first
    return v :: (← readItems origin item rest)
  | .broken reading _ _ => .error (.badSyntax reading)

def readMembers (origin : Origin) : Scan.Members → Except DecodeError (List (String × Json))
  | .closed => .ok []
  | .member (.error e) _ _ => .error (.badSyntax e)
  | .member (.ok name) value rest => do
    let v ← read origin any value
    return (name, v) :: (← readMembers origin rest)
  | .unnamed _ => .error (.badSyntax .keyMustBeText)
  | .broken reading _ => .error (.badSyntax reading)

/-- Reads the fields of a record that is written as a sequence; `count` of them came before. -/
def readSequence (origin : Origin) (expected : String) (count : Nat)
    (fields : List (Field × Schema)) :
    Scan.Items → Except DecodeError (List (String × Json))
  | .closed => fillRest expected count fields
  | .item first rest =>
    match fields with
    | [] => do
      readEnding origin count (.item first rest)
      return []
    | (f, schema) :: others => do
      let v ← read origin schema first
      return (f.name, v) :: (← readSequence origin expected (count + 1) others rest)
  | .broken reading skipping ending =>
    match fields with
    | [] => do
      readEnding origin count (.broken reading skipping ending)
      return []
    | _ => .error (.badSyntax reading)

/-- Reads the fields of a record that is written as an object; `present` came before. Members that
are no field are skipped. -/
def readFields (origin : Origin) (fields : List (Field × Schema)) (present : List (String × Json)) :
    Scan.Members → Except DecodeError (List (String × Json))
  | .closed => fillFields present fields
  | .member (.error e) _ _ => .error (.badSyntax e)
  | .member (.ok name) value rest =>
    match findField fields name with
    | none =>
      match value.skipFault with
      | some e => .error (.badSyntax e)
      | none => readFields origin fields present rest
    | some (f, schema) =>
      if (present.lookup f.name).isSome then .error (.duplicateField f.name)
      else do
        let v ← read origin schema value
        readFields origin fields ((f.name, v) :: present) rest
  | .unnamed _ => .error (.badSyntax .keyMustBeText)
  | .broken reading _ => .error (.badSyntax reading)

end

/-- Arrays and objects of a text may be nested less deep than this. -/
def depthLimit : Nat := 128

def readText (schema : Schema) (s : String) : Except DecodeError Json := do
  let (scanned, clean) := Scan.document s.toList
  let v ← schema.read (.text depthLimit) scanned
  if clean then return v else throw (.badSyntax .trailingCharacters)

def readHeld (schema : Schema) (j : Json) : Except DecodeError Json :=
  schema.read .held (Scan.ofJson j)

end Schema

/-- Types whose values travel as JSON. `decode` is meant for values that `schema` has read. -/
class Wire (α : Type) where
  schema : Schema
  encode : α → Json
  decode : Json → α

namespace Wire

variable {α : Type} [Wire α]

def ofText (s : String) : Except DecodeError α := (Schema.readText (schema α) s).map decode

/-- Reads a body. Damaged bytes do not matter in a text that is skipped. -/
def ofBytes (body : Bytes) : Except DecodeError α := ofText (String.ofList (Scan.charsOf body))

def ofJson (j : Json) : Except DecodeError α := (Schema.readHeld (schema α) j).map decode

def toText (x : α) : String := (encode x).print

end Wire

/-- The value that a text holds, whatever its form. -/
def Json.parse? (s : String) : Except DecodeError Json := Schema.any.readText s

end Gatehouse
