import Gatehouse.Crypto.Hmac
import Gatehouse.Directory.Account
import Gatehouse.Text.Base64Url

/-!
# Tokens

A token tells a backend who the user is. Its payload is signed with a key that gateway and backends
share; it is valid for a minute.
-/

namespace Gatehouse

structure TokenPayload where
  issuer : String
  /-- The id of the account. -/
  subject : String
  username : String
  displayName : String
  mail : String
  mailVerified : Bool
  groups : List String
  roles : List String
  /-- In seconds. -/
  issuedAt : Int64
  expires : Int64
  deriving DecidableEq, Repr, Inhabited

namespace TokenPayload

def gatewayIssuer : String := "switchyard"

/-- How long a token is valid, in seconds. -/
def lifetime : Nat := 60

def forAccount (a : Account) (groups roles : List String) (now : Int64) : TokenPayload where
  issuer := gatewayIssuer
  subject := a.id
  username := a.unixName
  displayName := a.displayName
  mail := a.mail
  mailVerified := a.mailVerified
  groups
  roles
  issuedAt := now
  expires := now + Int64.ofNat lifetime

end TokenPayload

instance : Wire TokenPayload where
  schema := .record "TokenClaims"
    [(.required "iss", .string), (.required "sub", .string), (.required "username", .string),
     (.required "display_name", .string), (.required "mail", .string),
     (.required "mail_verified", .flag), (.required "groups", .list .string),
     (.required "roles", .list .string), (.required "iat", .integer), (.required "exp", .integer)]
  encode t := .object
    [("iss", .text t.issuer), ("sub", .text t.subject), ("username", .text t.username),
     ("display_name", .text t.displayName), ("mail", .text t.mail),
     ("mail_verified", .bool t.mailVerified), ("groups", .texts t.groups),
     ("roles", .texts t.roles), ("iat", .int t.issuedAt.toInt), ("exp", .int t.expires.toInt)]
  decode j :=
    { issuer := (j.member "iss").asText
      subject := (j.member "sub").asText
      username := (j.member "username").asText
      displayName := (j.member "display_name").asText
      mail := (j.member "mail").asText
      mailVerified := (j.member "mail_verified").asBool
      groups := (j.member "groups").items.map Json.asText
      roles := (j.member "roles").items.map Json.asText
      issuedAt := Int64.ofInt (j.member "iat").asInt
      expires := Int64.ofInt (j.member "exp").asInt }

namespace Token

def header : Json := .object [("typ", .text "JWT"), ("alg", .text "HS256")]

def part (s : String) : List Char := Base64Url.encode (Utf8.encode s)

/-- What is signed: header and payload with a dot between them. -/
def signedPart (p : TokenPayload) : List Char :=
  part header.print ++ '.' :: part (Wire.toText p)

def sign (secret : String) (p : TokenPayload) : String :=
  let signed := signedPart p
  let signature := Hmac.sha256 (Utf8.encode secret) (Utf8.encodeChars signed)
  String.ofList (signed ++ '.' :: Base64Url.encode signature)

def split? (token : String) : Option (List Char × List Char × List Char) :=
  match token.toList.splitOn '.' with
  | [header, payload, signature] => some (header, payload, signature)
  | _ => none

def partText? (digits : List Char) : Option String :=
  (Base64Url.decode? digits).bind Utf8.decode?

/-- The payload of a token, whoever signed it. -/
def payload? (token : String) : Option TokenPayload := do
  let (_, payload, _) ← split? token
  let text ← partText? payload
  (Wire.ofText text).toOption

end Token

/-- Mints tokens under a key that is not empty. -/
structure TokenMinter where
  secret : String
  secret_ne : secret ≠ ""

namespace TokenMinter

/-- A minter with a key, unless the key is empty. -/
def new? (secret : String) : Option TokenMinter :=
  if h : secret = "" then none else some ⟨secret, h⟩

def mint (m : TokenMinter) (a : Account) (groups roles : List String) (now : Int64) : String :=
  Token.sign m.secret (.forAccount a groups roles now)

/-- How a minter is shown: never with its key. -/
def describe (_ : TokenMinter) : String := "TokenMinter \x7b secret: \"<redacted>\" \x7d"

end TokenMinter

end Gatehouse
