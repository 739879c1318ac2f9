import Gatehouse.Directory.Service
import Gatehouse.Http.Client
import Gatehouse.Http.Status

/-!
# The directory behind the network

Each call is posted as JSON to a path of its own. An answer of success holds the result; the answer
"not found" means that there is no record where a record is asked for by its id, and is a failure
everywhere else, like all other answers.
-/

namespace Gatehouse

namespace Remote

def listPath : String := "/api/v0/accounts/accounts-list"
def createPath : String := "/api/v0/accounts/accounts-create"
def getPath : String := "/api/v0/accounts/accounts-get"
def rolesPath : String := "/api/v0/settings/role-assignments-list"

structure Listing where
  accounts : List Account

structure Grants where
  assignments : List RoleAssignment

instance : Wire Listing where
  schema := .record "ListAccountsResponse"
    [(.defaulted "accounts" (.array []), .list (Wire.schema Account))]
  encode l := .object [("accounts", .array (l.accounts.map Wire.encode))]
  decode j := ⟨(j.member "accounts").items.map Wire.decode⟩

instance : Wire Grants where
  schema := .record "ListRoleAssignmentsResponse"
    [(.defaulted "assignments" (.array []), .list (Wire.schema RoleAssignment))]
  encode g := .object [("assignments", .array (g.assignments.map Wire.encode))]
  decode j := ⟨(j.member "assignments").items.map Wire.decode⟩

/-- Where a service is, without slashes at the end. -/
def base (url : String) : String :=
  String.ofList ((url.toList.reverse.dropWhile (· = '/')).reverse)

/-- The body of an answer as a text, as far as it is one; nothing of a body that broke off. -/
def bodyText (r : Response) : String :=
  if r.complete then Utf8.decodeLossy r.body else ""

def result (α : Type) [Wire α] (r : Response) : Reply α :=
  match if r.complete then (Wire.ofBytes r.body).toOption else none with
  | some a => .ok a
  | none => .error (.undecodable Client.Fault.badBody.message)

/-- What an answer means: none for "not found". -/
def judge (α : Type) [Wire α] (r : Response) : Reply (Option α) :=
  if r.status = 404 then .ok none
  else if Status.isSuccess r.status then (result α r).map some
  else .error (.status r.status (bodyText r))

/-- A record that must be there. -/
def required {α : Type} (path : String) : Reply (Option α) → Reply α
  | .ok (some a) => .ok a
  | .ok none => .error (.status 404 (path ++ " not found"))
  | .error e => .error e

def headers : Headers :=
  [(⟨"content-type"⟩, Utf8.encode "application/json"), (⟨"accept"⟩, Utf8.encode "*/*")]

variable {σ : Type} (net : Network σ)

/-- Posts a call; the answer may be that there is no record. -/
def post (α : Type) [Wire α] (url path : String) (body : Json) : StateM σ (Reply (Option α)) := do
  match ← Client.send net .post (base url ++ path) headers (Utf8.encode body.print) true with
  | .error e => return .error (.transport e.message)
  | .ok r => return judge α r

def directory (directoryUrl rolesUrl : String) : Directory σ where
  list query pageSize := do
    let body := Json.object [("query", .text query), ("page_size", .nat pageSize)]
    return (required listPath (← post net Listing directoryUrl listPath body)).map Listing.accounts
  create account := do
    let body := Json.object [("account", Wire.encode account)]
    return required createPath (← post net Account directoryUrl createPath body)
  get id := post net Account directoryUrl getPath (.object [("id", .text id)])
  roles account := do
    let body := Json.object [("account_uuid", .text account)]
    return (required rolesPath (← post net Grants rolesUrl rolesPath body)).map Grants.assignments

end Remote

end Gatehouse
