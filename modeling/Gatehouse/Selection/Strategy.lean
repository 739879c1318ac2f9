import Gatehouse.Config.Basic
import Gatehouse.Run
import Gatehouse.Selection.Error

/-!
# Strategies

A strategy says which policy serves a user. The strategy is chosen at startup; it never fails, since
a user about whom nothing can be found out still has a policy.
-/

namespace Gatehouse

/-- The parameter of a fixed policy. -/
structure StaticParams where
  policy : String
  deriving DecidableEq, Repr

/-- The policies while users move from one house to another. -/
structure MigrationParams where
  /-- For users whom the directory knows. -/
  found : String := "modern"
  /-- For users whom it does not know or cannot tell about. -/
  notFound : String := "legacy"
  /-- For requests without a user. -/
  unauthenticated : String := "unauthenticated"
  deriving DecidableEq, Repr

instance : Wire StaticParams where
  schema := .record "StaticParams" [({ name := "policy", aliases := ["policy_name"] }, .string)]
  encode p := .object [("policy", .text p.policy)]
  decode j := ⟨(j.member "policy").asText⟩

instance : Wire MigrationParams where
  schema := .record "MigrationParams"
    [(.defaulted "acc_found_policy" (.text "modern"), .string),
     (.defaulted "acc_not_found_policy" (.text "legacy"), .string),
     (.defaulted "unauthenticated_policy" (.text "unauthenticated"), .string)]
  encode p := .object
    [("acc_found_policy", .text p.found), ("acc_not_found_policy", .text p.notFound),
     ("unauthenticated_policy", .text p.unauthenticated)]
  decode j :=
    { found := (j.member "acc_found_policy").asText
      notFound := (j.member "acc_not_found_policy").asText
      unauthenticated := (j.member "unauthenticated_policy").asText }

/-- How the policy of a user is found. -/
inductive Strategy
  /-- One policy for all. -/
  | fixed (policy : String)
  /-- By whether the directory knows the user. -/
  | migration (params : MigrationParams)
  deriving DecidableEq, Repr

namespace Strategy

/-- The parameters of a strategy; absent ones are as good as none. -/
def params (α : Type) [Wire α] (c : SelectorConfig) : Except SelectorError α :=
  let given := if c.params.isNull then .object [] else c.params
  (Wire.ofJson given).mapError fun e => .invalidParams c.kind e.message

def ofConfig (c : SelectorConfig) : Except SelectorError Strategy :=
  if c.kind = "static_policy" then (params StaticParams c).map fun p => .fixed p.policy
  else if c.kind = "migration" then (params MigrationParams c).map .migration
  else .error (.unknownStrategy c.kind)

variable {σ : Type} (dir : Directory σ)

/-- The policy of a user. A user without a name is none. -/
def policy (user : Option String) : Strategy → Run σ String
  | fixed policy => return policy
  | migration params =>
    match user.filter (· ≠ "") with
    | none => return params.unauthenticated
    | some id => do
      match ← Run.call dir (.get id) (dir.get id) with
      | .ok (some _) => return params.found
      | .ok none => return params.notFound
      | .error _ => return params.notFound

end Strategy

end Gatehouse
