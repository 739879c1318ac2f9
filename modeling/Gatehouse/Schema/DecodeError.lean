import Gatehouse.Json.Printer
import Gatehouse.Json.SyntaxError
import Gatehouse.Text.Quoted

/-!
# Why a value does not have the form it should have

A fault names what was found and what was expected in its place.
-/

namespace Gatehouse

inductive Found
  | null
  | bool (b : Bool)
  | number (n : Number)
  | text (s : String)
  | sequence
  | map
  deriving DecidableEq, Repr

def Found.describe : Found → String
  | null => "null"
  | bool b => "boolean `" ++ (if b then "true" else "false") ++ "`"
  | number (.real bits) => "floating point `" ++ String.ofList (Number.real bits).print ++ "`"
  | number n => "integer `" ++ String.ofList n.print ++ "`"
  | text s => "string " ++ Quoted.text s
  | sequence => "sequence"
  | map => "map"

inductive DecodeError
  | badSyntax (e : SyntaxError)
  | invalidType (found : Found) (expected : String)
  | invalidValue (found : Found) (expected : String)
  | invalidLength (length : Nat) (expected : String)
  | missingField (name : String)
  | duplicateField (name : String)
  | unknownVariant (name : String) (variants : List String)
  deriving DecidableEq, Repr

namespace DecodeError

def describeChoice : List String → String
  | [] => "there are no variants"
  | [a] => "expected `" ++ a ++ "`"
  | [a, b] => "expected `" ++ a ++ "` or `" ++ b ++ "`"
  | names => "expected one of " ++ String.intercalate ", " (names.map fun n => "`" ++ n ++ "`")

def message : DecodeError → String
  | badSyntax e => e.message
  | invalidType found expected => "invalid type: " ++ found.describe ++ ", expected " ++ expected
  | invalidValue found expected => "invalid value: " ++ found.describe ++ ", expected " ++ expected
  | invalidLength n expected => "invalid length " ++ toString n ++ ", expected " ++ expected
  | missingField name => "missing field `" ++ name ++ "`"
  | duplicateField name => "duplicate field `" ++ name ++ "`"
  | unknownVariant name variants =>
    "unknown variant `" ++ name ++ "`, " ++ describeChoice variants

end DecodeError

end Gatehouse
