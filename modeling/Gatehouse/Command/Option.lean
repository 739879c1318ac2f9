/-!
# Options of the command line

The program has two commands. Each has options, which may also be given by variables of the
environment.
-/

namespace Gatehouse

inductive CommandName
  | server | health
  deriving DecidableEq, Repr

/-- An option: what it is called, what stands for its value, and where else the value may come from.
One that nothing stands for has no value of its own; it is given or not. -/
structure CommandOption where
  name : String
  placeholder : Option String := none
  envName : String
  byDefault : Option String := none
  isRequired : Bool := false
  /-- Whether the value may be empty. -/
  mayBeEmpty : Bool := true
  purpose : String
  deriving DecidableEq, Repr

namespace CommandOption

def written (o : CommandOption) : String :=
  match o.placeholder with
  | none => "--" ++ o.name
  | some p => "--" ++ o.name ++ " <" ++ p ++ ">"

/-- The value of an option that is given and has no other. -/
def given : String := "true"

def accepts (o : CommandOption) (value : String) : Bool :=
  match o.placeholder with
  | none => value == given || value == "false"
  | some _ => o.mayBeEmpty || value ≠ ""

end CommandOption

namespace CommandName

def text : CommandName → String
  | server => "server"
  | health => "health"

def all : List CommandName := [server, health]

def ofText? (s : String) : Option CommandName := all.find? fun c => c.text = s

def purpose : CommandName → String
  | server => "Run the gateway"
  | health => "Probe a running gateway's health endpoint"

def options : CommandName → List CommandOption
  | server =>
    [{ name := "config", placeholder := some "CONFIG", envName := "SWITCHYARD_CONFIG"
       isRequired := true, mayBeEmpty := false
       purpose := "Configuration file (YAML, or JSON when the extension is .json)" },
     { name := "addr", placeholder := some "ADDR", envName := "SWITCHYARD_ADDR"
       purpose := "Listen address, overrides http.addr" },
     { name := "log-level", placeholder := some "LOG_LEVEL", envName := "SWITCHYARD_LOG_LEVEL"
       purpose := "Log level, overrides log.level" },
     { name := "log-pretty", envName := "SWITCHYARD_LOG_PRETTY"
       purpose := "Human-readable logs instead of JSON" }]
  | health =>
    [{ name := "addr", placeholder := some "ADDR", envName := "SWITCHYARD_ADDR"
       byDefault := some "127.0.0.1:9200", purpose := "Address of the gateway" },
     { name := "tls", envName := "SWITCHYARD_HEALTH_TLS"
       purpose := "Probe over HTTPS (certificate is not verified)" }]

end CommandName

end Gatehouse
