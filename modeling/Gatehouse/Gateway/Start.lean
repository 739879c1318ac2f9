import Gatehouse.Command.Arguments
import Gatehouse.Config.Load
import Gatehouse.Gateway.Listen
import Gatehouse.Gateway.Server
import Gatehouse.Log.Filter

/-!
# Starting

Before it serves, the gateway loads its configuration, lets the command line override some of it,
and sets up the log, the engine and the address, in this order. What fails first keeps it from
starting.
-/

namespace Gatehouse

inductive StartFault
  | load (e : LoadError)
  | logLevel (level : String)
  | gateway (e : GatewayError)
  deriving DecidableEq, Repr

def StartFault.message : StartFault → String
  | load e => "Failed to load configuration: " ++ e.message
  | logLevel level => "invalid log level '" ++ level ++ "': invalid filter directive"
  | gateway e => e.message

/-- A gateway that is ready to serve. -/
structure Prepared where
  config : Config
  filter : LogFilter
  engine : Engine
  address : SocketAddress

namespace ServerOptions

/-- A configuration with the settings of the command line in the place of its own. -/
def override (o : ServerOptions) (c : Config) : Config :=
  { c with
    http := { c.http with address := o.address.getD c.http.address }
    log := { c.log with
      level := o.logLevel.getD c.log.level
      pretty := c.log.pretty || o.logPretty } }

/-- The files that are needed, as far as those that are known tell. -/
def fileNames (files : Files) (o : ServerOptions) : List String :=
  match Config.load files o.config with
  | .error _ => [o.config]
  | .ok c => o.config :: (c.http.tlsPaths.map fun paths => [paths.1, paths.2]).getD []

def prepare (env : Environment) (files : Files) (o : ServerOptions) :
    Except StartFault Prepared := do
  let config := o.override (← (Config.load files o.config).mapError .load)
  match LogFilter.ofConfig? (env "RUST_LOG") config.log with
  | none => throw (.logLevel config.log.level)
  | some filter =>
    let engine ← (Engine.ofConfig config).mapError .gateway
    let address ← (Listen.prepare files config.http).mapError .gateway
    return { config, filter, engine, address }

end ServerOptions

end Gatehouse
