import Gatehouse.Config.Basic
import Gatehouse.Files
import Gatehouse.Gateway.Error
import Gatehouse.Gateway.SocketAddress

/-!
# Listening

Before the gateway serves requests its address is read and, for encrypted connections, certificate
and key are read from their files, the certificate first.
-/

namespace Gatehouse

namespace Pem

/-- The name of a section that a line begins. -/
def opening? (line : List Char) : Option (List Char) :=
  ("-----BEGIN ".toList.isPrefixOf? line).bind fun rest =>
    if "-----".toList.isSuffixOf rest then some (rest.take (rest.length - 5)) else none

/-- The names of the sections that are closed. -/
def sections : (current : Option (List Char)) → List (List Char) → List (List Char)
  | _, [] => []
  | none, line :: rest => sections (opening? line) rest
  | some name, line :: rest =>
    if line = "-----END ".toList ++ name ++ "-----".toList then name :: sections none rest
    else sections (some name) rest

def names (text : Bytes) : List String :=
  let lines := ((Utf8.decodeLossy text).toList.splitOn '\n').map fun l => l.filter (· ≠ '\r')
  (sections none lines).map String.ofList

end Pem

namespace Listen

def keySections : List String := ["PRIVATE KEY", "RSA PRIVATE KEY", "EC PRIVATE KEY"]

def tlsFault? (files : Files) (certificate key : String) : Option String :=
  let unreadable (name : String) (e : FileFault) :=
    "failed to read from file \x60" ++ name ++ "\x60: " ++ e.message
  match files certificate with
  | .error e => some (unreadable certificate e)
  | .ok certificate =>
    match files key with
    | .error e => some (unreadable key e)
    | .ok key =>
      if ((Pem.names key).filter keySections.contains).length ≠ 1 then
        some "private key format not supported"
      else if ¬ (Pem.names certificate).contains "CERTIFICATE" then
        some "peer sent no certificates"
      else none

def prepare (files : Files) (c : HttpConfig) : Except GatewayError SocketAddress :=
  match SocketAddress.parse? c.address with
  | none =>
    .error ⟨.config, "invalid listen address " ++ c.address ++ ": " ++ SocketAddress.badMessage⟩
  | some address =>
    match c.tlsPaths.bind fun paths => tlsFault? files paths.1 paths.2 with
    | some fault => .error ⟨.config, "TLS config error: " ++ fault⟩
    | none => .ok address

def inUse : String := "Address already in use (os error 98)"

def unbound (c : HttpConfig) (address : SocketAddress) (reason : String) : GatewayError :=
  if c.tlsPaths.isSome then ⟨.internal, "Server error: " ++ reason⟩
  else ⟨.config, "failed to bind " ++ address.print ++ ": " ++ reason⟩

end Listen

end Gatehouse
