import Gatehouse.Config.Validate
import Gatehouse.Directory.Remote
import Gatehouse.Gateway.Engine
import Gatehouse.Http.HopByHop

/-!
# The server

The gateway as it runs: set up from its configuration, with the directory, the role service and the
backends behind the network. It answers for its own health; every other request is for the engine,
and a request that fails is answered with a status and nothing else.
-/

namespace Gatehouse

def Engine.ofConfig (c : Config) : Except GatewayError Engine := do
  let table ← (RouteTable.build c.policies).mapError RoutingError.toGateway
  let strategy ← (Strategy.ofConfig c.selector).mapError SelectorError.toGateway
  if c.identity.enabled then
    match TokenMinter.new? c.token.secret with
    | none => throw IdentityError.noSecret.toGateway
    | some minter => return { router := ⟨table, strategy⟩, minter := some minter }
  else return { router := ⟨table, strategy⟩ }

def AccountCache.ofConfig (c : CacheConfig) : AccountCache :=
  empty c.size.toNat (c.ttlSeconds.toNat * 1000)

namespace Server

def healthPath : String := "/healthz"

/-- An answer without a body. -/
def bare (status : Nat) : Response := { status, headers := [(⟨"content-length"⟩, Utf8.encode "0")] }

/-- What the caller is answered: of a failure, its status only. -/
def render : Except GatewayError Response → Response
  | .ok response => response
  | .error fault => bare fault.status

/-- The answer for the gateway's health. Of other methods than `GET` and `HEAD` it knows nothing. -/
def health (method : Method) : Response :=
  let headers := [(⟨"content-type"⟩, Utf8.encode "text/plain; charset=utf-8"),
    (⟨"content-length"⟩, Utf8.encode "2")]
  if method = .get then { status := 200, headers, body := Utf8.encode "ok" }
  else if method = .head then { status := 200, headers }
  else { bare 405 with headers := (bare 405).headers ++ [(⟨"allow"⟩, Utf8.encode "GET,HEAD")] }

/-- Answers a request: for the gateway's health at once, for anything else with what comes of serving
it. -/
def route {m : Type → Type} [Monad m] (serve : m (Except GatewayError Response)) (r : Request) :
    m Response := do
  if r.uri.path = healthPath then return health r.method else return render (← serve)

variable {σ : Type} (net : Network σ)

/-- The headers that the client is given for a request. What concerns single connections stays
behind. -/
def outgoing (hs : Headers) : Headers :=
  let hs := HopByHop.strip hs
  if hs.has ⟨"accept"⟩ then hs else hs.set ⟨"accept"⟩ (Utf8.encode "*/*")

/-- Has the client send a request with the headers that it has. Of the answer, too, what concerns
single connections stays behind. -/
def relay : Backends σ := fun r => do
  match ← Client.send net r.method r.uri.print r.headers r.body false with
  | .error e => return .error ⟨.backend, e.message⟩
  | .ok answer => return .ok { answer with headers := HopByHop.strip answer.headers }

/-- Sends a request to its backend over the network. -/
def forward : Backends σ := fun r => relay net { r with headers := outgoing r.headers }

def directory (c : Config) : Directory σ := Remote.directory net c.directory.url c.roles.url

/-- Serves a request by the engine, with a failure in its own words. -/
def handle (c : Config) (e : Engine) (claims : Option Claims) (r : Request) :
    Run σ (Except GatewayError Response) :=
  e.handle (directory net c) (forward net) claims r

def answer (c : Config) (e : Engine) (claims : Option Claims) (r : Request) : Run σ Response :=
  route (handle net c e claims r) r

/-- Answers a request of a client that nobody vouches for. No account is looked up for it, so that
there is nothing to remember. -/
def answerUnknown (c : Config) (e : Engine) (r : Request) : StateM σ Response := fun outside =>
  let (response, s) := answer net c e none r { cache := .ofConfig c.cache, outside }
  (response, s.outside)

end Server

end Gatehouse
