import Gatehouse.Schema.Read

/-!
# Policies and their routes

A policy is a named cluster of backends. Each of its routes sends the requests that match an
endpoint to one backend.
-/

namespace Gatehouse

/-- How an endpoint is compared with a request. -/
inductive RouteKind
  /-- The path begins with the endpoint. -/
  | byPath
  /-- The path begins with the endpoint and the query has its parameters. -/
  | byQuery
  /-- The path matches the endpoint as a pattern. -/
  | byPattern
  deriving DecidableEq, Repr, Inhabited

structure Route where
  kind : RouteKind := .byPath
  endpoint : String
  backend : String
  /-- Whether the backend is told its own name in place of the one the client asked for. -/
  virtualHost : Bool := false
  deriving DecidableEq, Repr, Inhabited

/-- A named cluster of backends. -/
structure Policy where
  name : String
  routes : List Route := []
  deriving DecidableEq, Repr, Inhabited

/-- The endpoint that every path falls back to. -/
def Route.rootEndpoint : String := "/"

namespace RouteKind

def name : RouteKind → String
  | byPath => "prefix"
  | byQuery => "query"
  | byPattern => "regex"

def ofName (s : String) : RouteKind :=
  if s = "query" then byQuery else if s = "regex" then byPattern else byPath

theorem ofName_name (k : RouteKind) : ofName k.name = k := by cases k <;> rfl

end RouteKind

instance : Wire Route where
  schema := .record "Route"
    [(.defaulted "type" (.text "prefix"), .choice ["prefix", "query", "regex"]),
     (.required "endpoint", .string),
     (.required "backend", .string),
     ({ name := "apache_vhost", aliases := ["apache-vhost"], fallback := some (.bool false) },
      .flag)]
  encode r := .object
    [("type", .text r.kind.name), ("endpoint", .text r.endpoint), ("backend", .text r.backend),
     ("apache_vhost", .bool r.virtualHost)]
  decode j :=
    { kind := .ofName (j.member "type").asText
      endpoint := (j.member "endpoint").asText
      backend := (j.member "backend").asText
      virtualHost := (j.member "apache_vhost").asBool }

instance : Wire Policy where
  schema := .record "Policy"
    [(.required "name", .string), (.defaulted "routes" (.array []), .list (Wire.schema Route))]
  encode p := .object [("name", .text p.name), ("routes", .array (p.routes.map Wire.encode))]
  decode j := ⟨(j.member "name").asText, (j.member "routes").items.map Wire.decode⟩

end Gatehouse
