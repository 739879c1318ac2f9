import Gatehouse.Command.Help
import Gatehouse.Gateway.Probe
import Gatehouse.Gateway.Start

/-!
# The program

What the program does with its arguments: it ends at once, with a text and a code, or it has a
gateway that is ready to serve.
-/

namespace Gatehouse

structure Outcome where
  exitCode : UInt8 := 0
  output : String := ""
  diagnosis : String := ""
  deriving DecidableEq, Repr

namespace Outcome

def failure (message : String) : Outcome :=
  { exitCode := 1, diagnosis := "Error: " ++ message ++ "\n" }

def misuse (e : UsageFault) : Outcome where
  exitCode := 2
  diagnosis := "error: " ++ e.message ++ "\n\n" ++ Help.programUsage ++
    "\n\nFor more information, try '--help'.\n"

end Outcome

inductive Course
  | ends (o : Outcome)
  | serves (p : Prepared)

namespace Program

variable {σ : Type} (net : Network σ) (env : Environment) (files : Files)

def obey : Order → StateM σ Course
  | .help topic => return .ends { output := Help.text env topic }
  | .version => return .ends { output := Help.version ++ "\n" }
  | .server o =>
    return match o.prepare env files with
      | .error e => .ends (.failure e.message)
      | .ok p => .serves p
  | .health o => do
    return match ← Probe.run net o with
      | .error e => .ends (.failure e.message)
      | .ok () => .ends { output := "ok\n" }

def run (arguments : List String) : StateM σ Course :=
  match Order.ofArguments env arguments with
  | .error e => return .ends (.misuse e)
  | .ok order => obey net env files order

end Program

end Gatehouse
