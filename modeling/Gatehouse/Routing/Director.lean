import Gatehouse.Http.Message
import Gatehouse.Routing.Error
import Gatehouse.Routing.Join
import Gatehouse.Url.Parse

/-!
# Directors

A director points requests at one backend. All that depends on the backend alone is worked out when
the director is made; a request whose target cannot be addressed stays as it was.
-/

namespace Gatehouse

/-- Where a backend is, and what is put before the path and the query of a request. -/
structure Director where
  /-- The address of the backend as it was configured. -/
  backend : String
  scheme : String
  /-- The host and, if it is not the usual one, the port. -/
  authority : String
  basePath : String
  baseQuery : String
  /-- Whether the backend is told its own name. -/
  virtualHost : Bool
  deriving DecidableEq, Repr

namespace Director

def new (backend : String) (virtualHost : Bool) : Except RoutingError Director :=
  match Url.parse backend with
  | .error e => .error (.malformedBackend backend e.message)
  | .ok url =>
    match url.hostAndPort with
    | none => .error (.malformedBackend backend "missing host")
    | some authority =>
      .ok {
        backend
        scheme := url.scheme
        authority
        basePath := url.path
        baseQuery := url.query.getD ""
        virtualHost }

def targetText (d : Director) (path query : String) : String :=
  let query := joinQueries d.baseQuery query
  d.scheme ++ "://" ++ d.authority ++ joinPaths d.basePath path ++
    (if query = "" then "" else "?" ++ query)

def target (d : Director) (path query : String) : Except RoutingError Uri :=
  let text := d.targetText path query
  (Uri.parse text).mapError fun e => .invalidTarget text e.message

/-- The headers of a request to the backend: its own name if asked for, and an empty name of the
client's program if there was none. -/
def headers (d : Director) (hs : Headers) : Except RoutingError Headers := do
  let hs ←
    if d.virtualHost then
      let name := Utf8.encode d.authority
      if name.all HeaderValue.isAllowed then pure (hs.set .host name)
      else throw (.invalidTarget d.authority Headers.Fault.badValue.message)
    else pure hs
  return if hs.has .userAgent then hs else hs.set .userAgent []

/-- Points a request at the backend, in place: the address is written first, and the headers behind
it. -/
def point (d : Director) : StateM Request (Except RoutingError Unit) := do
  let r ← get
  match d.target r.uri.path (r.uri.query.getD "") with
  | .error e => return .error e
  | .ok uri =>
    set { r with uri }
    match d.headers r.headers with
    | .error e => return .error e
    | .ok headers =>
      set { r with uri, headers }
      return .ok ()

def apply (d : Director) (r : Request) : Except RoutingError Request :=
  let (result, r) := d.point r
  result.map fun _ => r

end Director

end Gatehouse
