import Gatehouse.Schema.Read

/-!
# Accounts

An account is a record of the directory; a role assignment grants a role to an account.
-/

namespace Gatehouse

/-- A group that an account belongs to. -/
structure GroupRef where
  id : String := ""
  displayName : String := ""
  /-- The name of the group on the host system. -/
  unixName : String := ""
  deriving DecidableEq, Repr, Inhabited

/-- A person's record in the directory. -/
structure Account where
  /-- Empty in a request to create the account. -/
  id : String := ""
  displayName : String := ""
  preferredName : String := ""
  /-- The name of the person on the host system. -/
  unixName : String := ""
  /-- The key by which accounts are looked up. -/
  mail : String := ""
  /-- No token is minted for an account that is not enabled. -/
  enabled : Bool := false
  /-- The state of an invitation; empty for people of the house. -/
  externalState : String := ""
  creationType : String := ""
  memberOf : List GroupRef := []
  deriving DecidableEq, Repr, Inhabited

structure RoleAssignment where
  account : String
  role : String
  deriving DecidableEq, Repr, Inhabited

namespace Account

/-- The creation type of accounts that the gateway creates. -/
def localAccount : String := "LocalAccount"

/-- The external state of a person who took up an invitation. -/
def accepted : String := "Accepted"

/-- Whether the mail address is known to be the person's own. -/
def mailVerified (a : Account) : Bool := a.externalState == "" || a.externalState == accepted

def unixGroups (a : Account) : List String := a.memberOf.map GroupRef.unixName

end Account

instance : Wire GroupRef where
  schema := .record "GroupRef"
    [Field.optionalString "id", Field.optionalString "display_name",
     Field.optionalString "on_premises_sam_account_name"]
  encode g := .object
    [("id", .text g.id), ("display_name", .text g.displayName),
     ("on_premises_sam_account_name", .text g.unixName)]
  decode j :=
    { id := (j.member "id").asText
      displayName := (j.member "display_name").asText
      unixName := (j.member "on_premises_sam_account_name").asText }

instance : Wire Account where
  schema := .record "Account"
    [Field.optionalString "id", Field.optionalString "display_name",
     Field.optionalString "preferred_name",
     Field.optionalString "on_premises_sam_account_name", Field.optionalString "mail",
     (.defaulted "account_enabled" (.bool false), .flag),
     Field.optionalString "external_user_state", Field.optionalString "creation_type",
     (.defaulted "member_of" (.array []), .list (Wire.schema GroupRef))]
  encode a := .object
    [("id", .text a.id), ("display_name", .text a.displayName),
     ("preferred_name", .text a.preferredName),
     ("on_premises_sam_account_name", .text a.unixName), ("mail", .text a.mail),
     ("account_enabled", .bool a.enabled), ("external_user_state", .text a.externalState),
     ("creation_type", .text a.creationType),
     ("member_of", .array (a.memberOf.map Wire.encode))]
  decode j :=
    { id := (j.member "id").asText
      displayName := (j.member "display_name").asText
      preferredName := (j.member "preferred_name").asText
      unixName := (j.member "on_premises_sam_account_name").asText
      mail := (j.member "mail").asText
      enabled := (j.member "account_enabled").asBool
      externalState := (j.member "external_user_state").asText
      creationType := (j.member "creation_type").asText
      memberOf := (j.member "member_of").items.map Wire.decode }

instance : Wire RoleAssignment where
  schema := .record "RoleAssignment"
    [(.required "account_uuid", .string), (.required "role_id", .string)]
  encode r := .object [("account_uuid", .text r.account), ("role_id", .text r.role)]
  decode j := ⟨(j.member "account_uuid").asText, (j.member "role_id").asText⟩

end Gatehouse
