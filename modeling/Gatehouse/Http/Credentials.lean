import Gatehouse.Text.Base64Url

/-!
# Credentials

Name and password of a user in an address become a header of the request that is sent there.
-/

namespace Gatehouse

/-- The name of a user with the password, if there is one. -/
structure Credentials where
  name : String
  password : Option String := none
  deriving DecidableEq, Repr

namespace Credentials

/-- A digit of the common alphabet of base 64. -/
def digit : Char → Char
  | '-' => '+'
  | '_' => '/'
  | c => c

/-- The digits of a sequence of bytes in base 64, in groups of four. -/
def base64 (bs : Bytes) : List Char :=
  let digits := (Base64Url.encode bs).map digit
  digits ++ List.replicate ((4 - digits.length % 4) % 4) '='

def authorization (c : Credentials) : Bytes :=
  Utf8.encode "Basic " ++
    Utf8.encodeChars (base64 (Utf8.encode (c.name ++ ":" ++ c.password.getD "")))

end Credentials

end Gatehouse
