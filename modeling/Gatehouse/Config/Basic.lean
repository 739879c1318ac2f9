import Gatehouse.Routing.Route

/-!
# Configurations

The settings of a gateway with their defaults and their written form. Every setting may be left out.
-/

namespace Gatehouse

structure LogConfig where
  /-- The filter in force unless the environment gives another. -/
  level : String := "info"
  pretty : Bool := false
  color : Bool := false
  deriving DecidableEq, Repr, Inhabited

def HttpConfig.defaultAddress : String := "0.0.0.0:9200"

structure HttpConfig where
  address : String := HttpConfig.defaultAddress
  /-- The files of the certificate and of its key; connections are encrypted if both are given. -/
  certificate : Option String := none
  key : Option String := none
  deriving DecidableEq, Repr, Inhabited

namespace HttpConfig

/-- The files of certificate and key, if connections are encrypted. -/
def tlsPaths (h : HttpConfig) : Option (String × String) :=
  match h.certificate, h.key with
  | some c, some k => some (c, k)
  | _, _ => none

end HttpConfig

/-- How the policy for a user is chosen: the kind of strategy and its parameters, which only that
strategy understands. -/
structure SelectorConfig where
  kind : String := "static_policy"
  params : Json := .object [("policy", .text "default")]
  deriving Repr, Inhabited

/-- The key that tokens are signed with. -/
structure TokenConfig where
  secret : String := ""
  deriving DecidableEq, Repr, Inhabited

namespace TokenConfig

/-- How the settings are shown: never with the key. -/
def describe (_ : TokenConfig) : String :=
  "TokenManagerConfig \x7b jwt_secret: \"<redacted>\" \x7d"

end TokenConfig

structure ServiceConfig where
  url : String := "http://localhost:9181"
  timeoutSeconds : UInt64 := 10
  deriving DecidableEq, Repr, Inhabited

/-- How many accounts are remembered, and for how long. -/
structure CacheConfig where
  size : UInt64 := 1024
  ttlSeconds : UInt64 := 300
  deriving DecidableEq, Repr, Inhabited

/-- Whether requests are signed with the identity of the user. -/
structure IdentityConfig where
  enabled : Bool := true
  deriving DecidableEq, Repr, Inhabited

structure Config where
  log : LogConfig := {}
  http : HttpConfig := {}
  policies : List Policy := []
  selector : SelectorConfig := {}
  token : TokenConfig := {}
  directory : ServiceConfig := {}
  roles : ServiceConfig := {}
  cache : CacheConfig := {}
  identity : IdentityConfig := {}
  deriving Repr, Inhabited

def Json.word (n : UInt64) : Json := .nat n.toNat

def Json.asWord (j : Json) : UInt64 := UInt64.ofNat j.asNat

@[simp] theorem Json.asWord_word (n : UInt64) : (Json.word n).asWord = n := by
  simp [Json.word, Json.asWord]

instance : Wire LogConfig where
  schema := .record "LogConfig"
    [(.defaulted "level" (.text "info"), .string), (.defaulted "pretty" (.bool false), .flag),
     (.defaulted "color" (.bool false), .flag)]
  encode l := .object
    [("level", .text l.level), ("pretty", .bool l.pretty), ("color", .bool l.color)]
  decode j :=
    { level := (j.member "level").asText
      pretty := (j.member "pretty").asBool
      color := (j.member "color").asBool }

instance : Wire HttpConfig where
  schema := .record "HttpConfig"
    [(.defaulted "addr" (.text HttpConfig.defaultAddress), .string),
     (.defaulted "tls_cert" .null, .optionalText "path string"),
     (.defaulted "tls_key" .null, .optionalText "path string")]
  encode h := .object
    [("addr", .text h.address), ("tls_cert", .textOrNull h.certificate),
     ("tls_key", .textOrNull h.key)]
  decode j :=
    { address := (j.member "addr").asText
      certificate := (j.member "tls_cert").asText?
      key := (j.member "tls_key").asText? }

instance : Wire SelectorConfig where
  schema := .record "PolicySelectorConfig"
    [(.required "kind", .string), (.defaulted "params" .null, .any)]
  encode s := .object [("kind", .text s.kind), ("params", s.params)]
  decode j := ⟨(j.member "kind").asText, j.member "params"⟩

instance : Wire TokenConfig where
  schema := .record "TokenManagerConfig" [Field.optionalString "jwt_secret"]
  encode t := .object [("jwt_secret", .text t.secret)]
  decode j := ⟨(j.member "jwt_secret").asText⟩

instance : Wire ServiceConfig where
  schema := .record "ServiceEndpoint"
    [(.defaulted "url" (.text "http://localhost:9181"), .string),
     (.defaulted "timeout_secs" (.nat 10), .natural "u64")]
  encode s := .object [("url", .text s.url), ("timeout_secs", .word s.timeoutSeconds)]
  decode j := ⟨(j.member "url").asText, (j.member "timeout_secs").asWord⟩

instance : Wire CacheConfig where
  schema := .record "AccountCacheConfig"
    [(.defaulted "size" (.nat 1024), .natural "usize"),
     (.defaulted "ttl_secs" (.nat 300), .natural "u64")]
  encode c := .object [("size", .word c.size), ("ttl_secs", .word c.ttlSeconds)]
  decode j := ⟨(j.member "size").asWord, (j.member "ttl_secs").asWord⟩

instance : Wire IdentityConfig where
  schema := .record "AccountUuidConfig" [(.defaulted "enabled" (.bool true), .flag)]
  encode i := .object [("enabled", .bool i.enabled)]
  decode j := ⟨(j.member "enabled").asBool⟩

instance : Wire Config where
  schema := .record "Config"
    [(.defaulted "log" (Wire.encode ({} : LogConfig)), Wire.schema LogConfig),
     (.defaulted "http" (Wire.encode ({} : HttpConfig)), Wire.schema HttpConfig),
     (.defaulted "policies" (.array []), .list (Wire.schema Policy)),
     (.defaulted "policy_selector" (Wire.encode ({} : SelectorConfig)), Wire.schema SelectorConfig),
     (.defaulted "token_manager" (Wire.encode ({} : TokenConfig)), Wire.schema TokenConfig),
     (.defaulted "directory" (Wire.encode ({} : ServiceConfig)), Wire.schema ServiceConfig),
     (.defaulted "roles" (Wire.encode ({} : ServiceConfig)), Wire.schema ServiceConfig),
     (.defaulted "account_cache" (Wire.encode ({} : CacheConfig)), Wire.schema CacheConfig),
     (.defaulted "account_uuid" (Wire.encode ({} : IdentityConfig)), Wire.schema IdentityConfig)]
  encode c := .object
    [("log", Wire.encode c.log), ("http", Wire.encode c.http),
     ("policies", .array (c.policies.map Wire.encode)),
     ("policy_selector", Wire.encode c.selector), ("token_manager", Wire.encode c.token),
     ("directory", Wire.encode c.directory), ("roles", Wire.encode c.roles),
     ("account_cache", Wire.encode c.cache), ("account_uuid", Wire.encode c.identity)]
  decode j :=
    { log := Wire.decode (j.member "log")
      http := Wire.decode (j.member "http")
      policies := (j.member "policies").items.map Wire.decode
      selector := Wire.decode (j.member "policy_selector")
      token := Wire.decode (j.member "token_manager")
      directory := Wire.decode (j.member "directory")
      roles := Wire.decode (j.member "roles")
      cache := Wire.decode (j.member "account_cache")
      identity := Wire.decode (j.member "account_uuid") }

end Gatehouse
