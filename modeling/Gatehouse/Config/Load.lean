import Gatehouse.Config.Validate
import Gatehouse.Files
import Gatehouse.Yaml.Read

/-!
# Loading a configuration

A file whose name ends in `.json` holds JSON, any other holds YAML. A configuration that is not
sound is no better than one that cannot be read.
-/

namespace Gatehouse

inductive LoadError
  | unreadable (path reason : String)
  | malformed (path reason : String)
  | invalid (fault : ConfigFault)
  deriving DecidableEq, Repr

def LoadError.message : LoadError → String
  | unreadable path reason => "failed to read " ++ path ++ ": " ++ reason
  | malformed path reason => "failed to parse " ++ path ++ ": " ++ reason
  | invalid fault => "invalid configuration: " ++ fault.message

namespace ConfigFile

/-- The last part of a path that is neither empty nor a dot. -/
def fileName (path : String) : List Char :=
  (((path.toList.splitOn '/').filter fun p => p ≠ [] ∧ p ≠ ['.']).getLast?).getD []

/-- What follows the last dot of a file's name, unless the name begins with it. -/
def extension? (path : String) : Option (List Char) :=
  let name := fileName path
  if name = ['.', '.'] then none
  else
    match (name.reverse.dropWhile (· ≠ '.')).drop 1 with
    | [] => none
    | _ => some (name.reverse.takeWhile (· ≠ '.')).reverse

def isJson (path : String) : Bool :=
  (extension? path).any fun e => e.map Char.toLower == ['j', 's', 'o', 'n']

def notText : String := "stream did not contain valid UTF-8"

def text (files : Files) (path : String) : Except LoadError String :=
  match files path with
  | .error e => .error (.unreadable path e.message)
  | .ok bytes =>
    match Utf8.decode? bytes with
    | none => .error (.unreadable path notText)
    | some text => .ok text

/-- The configuration that a text holds, sound or not. -/
def parse (path text : String) : Except LoadError Config :=
  if isJson path then (Wire.ofText text).mapError fun e => .malformed path e.message
  else
    match Yaml.ofText? text with
    | some c => .ok c
    | none => .error (.malformed path "not a configuration in YAML")

end ConfigFile

/-- The sound configuration in a file. -/
def Config.load (files : Files) (path : String) : Except LoadError Config := do
  let c ← ConfigFile.parse path (← ConfigFile.text files path)
  match c.fault? with
  | some fault => throw (.invalid fault)
  | none => return c

end Gatehouse
