import Gatehouse.Text.Utf8

/-!
# Files

The files that the gateway reads, by their names.
-/

namespace Gatehouse

inductive FileFault
  | missing
  | denied
  | isDirectory
  | other (reason : String)
  deriving DecidableEq, Repr

def FileFault.message : FileFault → String
  | missing => "No such file or directory (os error 2)"
  | denied => "Permission denied (os error 13)"
  | isDirectory => "Is a directory (os error 21)"
  | other reason => reason

/-- What reading a file yields. -/
abbrev Files := String → Except FileFault Bytes

/-- Some files, and no others. -/
def Files.ofList (files : List (String × Bytes)) : Files := fun name =>
  match files.lookup name with
  | some content => .ok content
  | none => .error .missing

end Gatehouse
