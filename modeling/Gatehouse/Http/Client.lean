import Gatehouse.Http.Credentials
import Gatehouse.Http.Message
import Gatehouse.Text.Form
import Gatehouse.Url.Parse

/-!
# Requests to other hosts

The client reads the address it is given once more, as an address of the web, and takes the
credentials of a user out of it. What then becomes of the request is up to the network.
-/

namespace Gatehouse

structure Outgoing where
  method : Method
  url : Url
  /-- Whom the request is made for, unless the headers say so. -/
  credentials : Option Credentials := none
  headers : Headers := []
  body : Bytes := []
  /-- Whether the answer to look for is that behind any redirections. -/
  followsRedirections : Bool := false
  deriving DecidableEq, Repr

/-- What comes back for a request. -/
inductive Delivery
  /-- No connection, or one that ended before the answer. -/
  | nothing
  | answer (r : Response)
  deriving DecidableEq, Repr

/-- All other hosts. -/
abbrev Network (σ : Type) := Outgoing → StateM σ Delivery

/-- A network that nothing can be reached in. -/
def Network.unreachable {σ : Type} : Network σ := fun _ => pure .nothing

namespace Client

inductive Fault
  /-- The address is none, or none that requests can be sent to. -/
  | badAddress (shown : Option String)
  | noAnswer (shown : String)
  /-- The body of the answer is broken off or has not the form it should have. -/
  | badBody
  deriving DecidableEq, Repr

def Fault.message : Fault → String
  | badAddress none => "builder error"
  | badAddress (some url) => "builder error for url (" ++ url ++ ")"
  | noAnswer url => "error sending request for url (" ++ url ++ ")"
  | badBody => "error decoding response body"

/-- The text behind percent escapes, if it is one. -/
def unescape (s : String) : Option String := Utf8.decode? (Form.percentDecode s.toList)

/-- The credentials in an address. A name that is no text does not count, nor does its password. -/
def credentials? (url : Url) : Option Credentials :=
  (unescape url.username).bind fun name =>
    let password := url.password.bind unescape
    if name ≠ "" ∨ password.isSome then some ⟨name, password⟩ else none

def withoutCredentials (url : Url) : Url :=
  if (credentials? url).isSome then { url with username := "", password := none } else url

def address (text : String) : Except Fault (Url × Option Credentials) :=
  match Url.parse text with
  | .error _ => .error (.badAddress none)
  | .ok url =>
    if url.host = none then .error (.badAddress (some url.print))
    else
      let bare := withoutCredentials url
      let isWeb := bare.scheme = "http" ∨ bare.scheme = "https"
      if isWeb ∧ (Uri.parse bare.print).isOk then .ok (bare, credentials? url)
      else .error (.badAddress (some bare.print))

variable {σ : Type}

def send (net : Network σ) (method : Method) (target : String) (headers : Headers) (body : Bytes)
    (followsRedirections : Bool) : StateM σ (Except Fault Response) := do
  match address target with
  | .error e => return .error e
  | .ok (url, credentials) =>
    match ← net { method, url, credentials, headers, body, followsRedirections } with
    | .nothing => return .error (.noAnswer url.print)
    | .answer r => return .ok r

end Client

end Gatehouse
