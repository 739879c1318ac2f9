import Gatehouse.Json.Value

/-!
# Forms of values

A schema says which values a message or a configuration may hold. Reading a value by its schema
brings it into normal form: records have all their fields, in the order of the schema and under
their own names, with the defaults filled in.
-/

namespace Gatehouse

structure Field where
  name : String
  /-- Other names under which the field is understood. -/
  aliases : List String := []
  /-- The value of a field that is absent; without one the field must be present. -/
  fallback : Option Json := none

namespace Field

def answersTo (f : Field) (name : String) : Bool := f.name == name || f.aliases.contains name

def required (name : String) : Field := { name }

def defaulted (name : String) (value : Json) : Field := { name, fallback := some value }

end Field

/-- The form of a value. Texts, naturals and integers carry the word for what was expected. -/
inductive Schema
  | text (expected : String)
  /-- A text or null. -/
  | optionalText (expected : String)
  | flag
  /-- A natural number below `2 ^ 64`. -/
  | natural (expected : String)
  /-- An integer of 64 bits with sign. -/
  | integer
  | list (item : Schema)
  /-- Any value whatever. -/
  | any
  /-- One of some names. -/
  | choice (variants : List String)
  | record (name : String) (fields : List (Field × Schema))

namespace Schema

def string : Schema := text "a string"

/-- The field that a name means, with its place. -/
def findField (fields : List (Field × Schema)) (name : String) : Option (Field × Schema) :=
  fields.find? fun f => f.1.answersTo name

/-- What was expected of a record that is written as a sequence. -/
def describeFields (name : String) (count : Nat) : String :=
  "struct " ++ name ++ " with " ++ toString count ++ (if count = 1 then " element" else " elements")

/-- Integers of 64 bits with sign are at least `-integerLimit` and below `integerLimit`. -/
def integerLimit : Nat := Nat.pow 2 63

end Schema

def Field.optionalString (name : String) : Field × Schema :=
  (.defaulted name (.text ""), .string)

end Gatehouse
