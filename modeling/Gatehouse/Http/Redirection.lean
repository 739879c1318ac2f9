import Gatehouse.Http.Client

/-!
# Redirections

An answer may refer to another address, absolute or seen from the one that was asked. The request is
then made there; after most kinds of redirection it only asks for what is there.
-/

namespace Gatehouse.Redirection

def location : HeaderName := ⟨"location"⟩

def most : Nat := 10

def resolve (base : Url) (reference : String) : Option Url :=
  let origin := base.scheme ++ "://" ++ base.hostAndPort.getD ""
  let folder := String.ofList (base.path.toList.reverse.dropWhile (· ≠ '/')).reverse
  let absolute :=
    match reference.toList with
    | '/' :: '/' :: _ => base.scheme ++ ":" ++ reference
    | '/' :: _ => origin ++ reference
    | '?' :: _ => origin ++ base.path ++ reference
    | _ => origin ++ folder ++ reference
  match Url.parse reference with
  | .ok url => some url
  | .error _ => (Url.parse absolute).toOption

def next? (o : Outgoing) (r : Response) : Option Outgoing := do
  let value ← (r.headers.values location).head?
  let url ← resolve o.url (← Utf8.decode? value)
  let sameHost := url.hostAndPort = o.url.hostAndPort
  let headers := if sameHost then o.headers
    else (o.headers.remove ⟨"authorization"⟩).remove ⟨"cookie"⟩
  let moved := { o with url, headers, credentials := if sameHost then o.credentials else none }
  if ¬ o.followsRedirections then none
  else if [307, 308].contains r.status then some moved
  else if [301, 302, 303].contains r.status then
    some { moved with
      method := if o.method = .head then .head else .get
      headers := headers.remove ⟨"content-type"⟩
      body := [] }
  else none

end Gatehouse.Redirection
