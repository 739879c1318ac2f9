import Gatehouse.Command.Arguments

/-!
# Help

What the program says about itself, and about arguments that it does not understand.
-/

namespace Gatehouse

namespace Help

def programName : String := "switchyard"

/-- The version of the program, with its name. -/
def version : String := programName ++ " 0.1.0"

/-- Rows of two columns, of which the second begins at the same place in all. -/
def columns (rows : List (String × String)) : List String :=
  let width := (rows.map fun r => r.1.length).foldl max 0 + 2
  rows.map fun r => "  " ++ r.1 ++ String.ofList (List.replicate (width - r.1.length) ' ') ++ r.2

def table (heading : String) (rows : List (String × String)) : List String :=
  heading :: columns rows

/-- What is said about an option: its purpose, the variable with what it holds, and the default. -/
def note (env : Environment) (o : CommandOption) : String :=
  let held := " [env: " ++ o.envName ++ "=" ++ (env o.envName).getD "" ++ "]"
  let byDefault := match o.byDefault with
    | none => ""
    | some value => " [default: " ++ value ++ "]"
  o.purpose ++ held ++ byDefault

def helpRow : String × String := ("-h, --help", "Print help")

def usage (c : CommandName) : String :=
  let required := (c.options.filter (·.isRequired)).map fun o => " " ++ o.written
  "Usage: " ++ programName ++ " " ++ c.text ++ " [OPTIONS]" ++ String.join required

def programUsage : String := "Usage: " ++ programName ++ " <COMMAND>"

def helpPurpose : String := "Print this message or the help of the given subcommand(s)"

def lines (env : Environment) : HelpTopic → List String
  | .program =>
    let commands := CommandName.all.map fun c => (c.text, c.purpose)
    ["Switchyard gateway", "", programUsage, ""] ++
      table "Commands:" (commands ++ [("help", helpPurpose)]) ++ [""] ++
      table "Options:" [helpRow, ("-V, --version", "Print version")]
  | .command c =>
    [c.purpose, "", usage c, ""] ++
      table "Options:" ((c.options.map fun o => ("    " ++ o.written, note env o)) ++ [helpRow])
  | .help =>
    [helpPurpose, "", "Usage: " ++ programName ++ " help [COMMAND]...", ""] ++
      table "Arguments:" [("[COMMAND]...", "Print help for the subcommand(s)")]

def text (env : Environment) (topic : HelpTopic) : String :=
  String.join ((lines env topic).map (· ++ "\n"))

end Help

def UsageFault.message : UsageFault → String
  | noCommand => "a subcommand is required"
  | unknownCommand a => "unrecognized subcommand '" ++ a ++ "'"
  | unexpected a => "unexpected argument '" ++ a ++ "' found"
  | noValue o => "a value is required for '" ++ o.written ++ "' but none was supplied"
  | needlessValue o v => "unexpected value '" ++ v ++ "' for '" ++ o.written ++ "' found"
  | badValue o v => "invalid value '" ++ v ++ "' for '" ++ o.written ++ "'"
  | repeated o => "the argument '" ++ o.written ++ "' cannot be used multiple times"
  | absent o => "the required argument '" ++ o.written ++ "' was not provided"

end Gatehouse
