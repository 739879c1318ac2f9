import Gatehouse.Schema.Read

/-!
# Claims

What a sign-in service vouches for about the user of a request.
-/

namespace Gatehouse

structure Claims where
  email : String := ""
  preferredUsername : String := ""
  name : String := ""
  deriving DecidableEq, Repr, Inhabited

instance : Wire Claims where
  schema := .record "Claims"
    [Field.optionalString "email", Field.optionalString "preferred_username",
     Field.optionalString "name"]
  encode c := .object
    [("email", .text c.email), ("preferred_username", .text c.preferredUsername),
     ("name", .text c.name)]
  decode j :=
    { email := (j.member "email").asText
      preferredUsername := (j.member "preferred_username").asText
      name := (j.member "name").asText }

end Gatehouse
