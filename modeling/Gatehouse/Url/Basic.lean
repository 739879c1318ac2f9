import Gatehouse.Url.Ipv6
import Gatehouse.Url.Scheme

/-!
# Addresses

The parts of an absolute address, as they are written.
-/

namespace Gatehouse

namespace Url

inductive Host
  | name (s : String)
  | ipv4 (address : Nat)
  | ipv6 (pieces : List Nat)
  deriving DecidableEq, Repr

def Host.print : Host → String
  | name s => s
  | ipv4 a => Ipv4.print a
  | ipv6 ps => "[" ++ Ipv6.print ps ++ "]"

inductive ParseError
  | noScheme
  | emptyHost
  | badHostName
  | badHostCharacter
  | badIpv4
  | badIpv6
  | badPort
  deriving DecidableEq, Repr

def ParseError.message : ParseError → String
  | noScheme => "relative URL without a base"
  | emptyHost => "empty host"
  | badHostName => "invalid international domain name"
  | badHostCharacter => "invalid domain character"
  | badIpv4 => "invalid IPv4 address"
  | badIpv6 => "invalid IPv6 address"
  | badPort => "invalid port number"

end Url

structure Url where
  scheme : String
  /-- Whether two slashes follow the scheme. -/
  slashes : Bool
  username : String := ""
  password : Option String := none
  host : Option Url.Host := none
  /-- The port, if it is written and not the usual one. -/
  port : Option Nat := none
  path : String := ""
  query : Option String := none
  fragment : Option String := none
  deriving DecidableEq, Repr

namespace Url

/-- The host and, if there is one, the port. -/
def hostAndPort (u : Url) : Option String :=
  u.host.map fun h => match u.port with
    | some p => h.print ++ ":" ++ toString p
    | none => h.print

def userinfo (u : Url) : String :=
  match u.password with
  | some p => u.username ++ ":" ++ p ++ "@"
  | none => if u.username = "" then "" else u.username ++ "@"

def print (u : Url) : String :=
  let authority :=
    if u.slashes then "//" ++ u.userinfo ++ (u.hostAndPort.getD "")
    else if "//".isPrefixOf u.path then "/."
    else ""
  u.scheme ++ ":" ++ authority ++ u.path ++
    (match u.query with | some q => "?" ++ q | none => "") ++
    (match u.fragment with | some f => "#" ++ f | none => "")

end Url

end Gatehouse
