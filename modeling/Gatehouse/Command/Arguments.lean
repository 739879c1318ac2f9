import Gatehouse.Command.Option

/-!
# Arguments

The arguments are read from the left to the right, and the first that is wrong or asks for help
decides. Options that are not among them are taken from the environment; what is not there either
has its default.
-/

namespace Gatehouse

abbrev Environment := String → Option String

inductive UsageFault
  | noCommand
  | unknownCommand (argument : String)
  | unexpected (argument : String)
  | noValue (option : CommandOption)
  | needlessValue (option : CommandOption) (value : String)
  | badValue (option : CommandOption) (value : String)
  | repeated (option : CommandOption)
  | absent (option : CommandOption)
  deriving DecidableEq, Repr

inductive HelpTopic
  | program
  | command (c : CommandName)
  /-- The help on how to ask for help. -/
  | help
  deriving DecidableEq, Repr

structure ServerOptions where
  config : String
  address : Option String := none
  logLevel : Option String := none
  logPretty : Bool := false
  deriving DecidableEq, Repr

structure HealthOptions where
  address : String
  encrypted : Bool := false
  deriving DecidableEq, Repr

inductive Order
  | help (topic : HelpTopic)
  | version
  | server (o : ServerOptions)
  | health (o : HealthOptions)
  deriving DecidableEq, Repr

/-- The form of an argument: a long option with or without a value, short options, the mark behind
which there are no options, or anything else. -/
inductive ArgumentForm
  | long (name : String) (value : Option String)
  | short (first : Char)
  | mark
  | plain
  deriving DecidableEq, Repr

def ArgumentForm.ofText (s : String) : ArgumentForm :=
  match s.toList with
  | ['-', '-'] => .mark
  | '-' :: '-' :: cs =>
    let name := String.ofList (cs.takeWhile (· ≠ '='))
    match cs.dropWhile (· ≠ '=') with
    | [] => .long name none
    | _ :: value => .long name (some (String.ofList value))
  | '-' :: c :: _ => .short c
  | _ => .plain

/-- The options that are set, with their values, the latest first. -/
abbrev Assignments := List (CommandOption × String)

inductive EarlyEnd
  | help
  | fault (e : UsageFault)
  deriving DecidableEq, Repr

namespace Assignments

def value? (as : Assignments) (name : String) : Option String :=
  (as.find? fun a => a.1.name = name).map Prod.snd

def isGiven (as : Assignments) (name : String) : Bool :=
  as.value? name == some CommandOption.given

/-- Sets an option that is not set yet. -/
def assign (as : Assignments) (o : CommandOption) (value : String) :
    Except UsageFault Assignments :=
  if ¬ o.accepts value then .error (.badValue o value)
  else if (as.value? o.name).isSome then .error (.repeated o)
  else .ok ((o, value) :: as)

def ofArguments (known : List CommandOption) :
    (as : Assignments) → List String → Except EarlyEnd Assignments
  | as, [] => .ok as
  | as, argument :: rest =>
    match ArgumentForm.ofText argument with
    | .plain => .error (.fault (.unexpected argument))
    | .mark =>
      match rest with
      | [] => .ok as
      | next :: _ => .error (.fault (.unexpected next))
    | .short c => .error (if c = 'h' then .help else .fault (.unexpected argument))
    | .long name value =>
      match known.find? fun o => o.name = name with
      | none =>
        .error (if name = "help" ∧ value = none then .help else .fault (.unexpected argument))
      | some o =>
        match o.placeholder, value with
        | none, some value => .error (.fault (.needlessValue o value))
        | none, none => do
          ofArguments known (← (as.assign o CommandOption.given).mapError .fault) rest
        | some _, some value => do ofArguments known (← (as.assign o value).mapError .fault) rest
        | some _, none =>
          match rest with
          | [] => .error (.fault (.noValue o))
          | value :: rest =>
            if ArgumentForm.ofText value = .plain then do
              ofArguments known (← (as.assign o value).mapError .fault) rest
            else .error (.fault (.noValue o))

/-- Sets the options that are not set yet and that the environment gives. -/
def fill (env : Environment) (as : Assignments) : List CommandOption → Except UsageFault Assignments
  | [] => .ok as
  | o :: rest =>
    match as.value? o.name, (env o.envName).or o.byDefault with
    | none, some value => do fill env (← as.assign o value) rest
    | none, none => if o.isRequired then .error (.absent o) else fill env as rest
    | some _, _ => fill env as rest

end Assignments

namespace Order

def ofAssignments (as : Assignments) : CommandName → Order
  | .server => .server {
      config := (as.value? "config").getD ""
      address := as.value? "addr"
      logLevel := as.value? "log-level"
      logPretty := as.isGiven "log-pretty" }
  | .health => .health { address := (as.value? "addr").getD "", encrypted := as.isGiven "tls" }

def ofTopics : List String → Except UsageFault Order
  | [] => .ok (.help .program)
  | topic :: rest =>
    let found := if topic = "help" then some HelpTopic.help
      else (CommandName.ofText? topic).map .command
    match found, rest with
    | none, _ => .error (.unknownCommand topic)
    | some topic, [] => .ok (.help topic)
    | some _, next :: _ => .error (.unknownCommand next)

def ofArguments (env : Environment) : List String → Except UsageFault Order
  | [] => .error .noCommand
  | first :: rest =>
    match ArgumentForm.ofText first with
    | .long "help" none | .short 'h' => .ok (.help .program)
    | .long "version" none | .short 'V' => .ok .version
    | .long .. | .short _ => .error (.unexpected first)
    | .mark => .error (match rest with | [] => .noCommand | next :: _ => .unexpected next)
    | .plain =>
      if first = "help" then ofTopics rest
      else
        match CommandName.ofText? first with
        | none => .error (.unknownCommand first)
        | some command =>
          match Assignments.ofArguments command.options [] rest with
          | .error .help => .ok (.help (.command command))
          | .error (.fault e) => .error e
          | .ok as => do return ofAssignments (← as.fill env command.options) command

end Order

end Gatehouse
