/-!
# Request targets

The target of a request is a path with a query, a full address, an authority alone, or an asterisk.
Unlike an address of the web it is taken as it is: nothing is decoded or normalised, and what stands
behind a number sign is dropped.
-/

namespace Gatehouse

structure Uri where
  scheme : Option String := none
  authority : Option String := none
  /-- Empty only if the target is an authority alone. -/
  path : String
  query : Option String := none
  deriving DecidableEq, Repr

namespace Uri

inductive ParseError
  | empty
  | tooLong
  | schemeTooLong
  | badFormat
  | badAuthority
  | badCharacter
  deriving DecidableEq, Repr

def ParseError.message : ParseError → String
  | empty => "empty string"
  | tooLong => "uri too long"
  | schemeTooLong => "scheme too long"
  | badFormat => "invalid format"
  | badAuthority => "invalid authority"
  | badCharacter => "invalid uri character"

def maxLength : Nat := 65534

def print (u : Uri) : String :=
  (match u.scheme with | some s => s ++ "://" | none => "") ++ u.authority.getD "" ++ u.path ++
    (match u.query with | some q => "?" ++ q | none => "")

/-- Characters of a path. All beyond ASCII are, but delete is none, here and in a query. -/
def isPathChar (c : Char) : Bool :=
  let n := c.toNat
  n == 0x21 || n == 0x22 || (0x24 ≤ n && n ≤ 0x3B) || n == 0x3D || (0x40 ≤ n && n ≤ 0x5F) ||
  (0x61 ≤ n && n ≤ 0x7E) || n ≥ 0x80

def isQueryChar (c : Char) : Bool :=
  let n := c.toNat
  n == 0x21 || (0x24 ≤ n && n ≤ 0x3B) || n == 0x3D || (0x3F ≤ n && n ≤ 0x7E) || n ≥ 0x80

/-- Characters of an authority, those with a meaning of their own included. -/
def isAuthorityChar (c : Char) : Bool :=
  c.isAlphanum ||
  ['!', '#', '$', '&', '\'', '(', ')', '*', '+', ',', '-', '.', '/', ':', ';', '=', '?', '@', '[',
   ']', '_', '~'].contains c

def isSchemeChar (c : Char) : Bool :=
  c.isAlphanum || c == '+' || c == '-' || c == '.' || c == '~'

def endsAuthority (c : Char) : Bool := c == '/' || c == '?' || c == '#'

/-- Path and query; a number sign and what follows are dropped. -/
def readPath (cs : List Char) : Except ParseError (String × Option String) :=
  let visible := cs.takeWhile (· ≠ '#')
  let path := visible.takeWhile (· ≠ '?')
  if !path.all isPathChar then .error .badCharacter
  else
    match visible.dropWhile (· ≠ '?') with
    | [] => .ok (String.ofList path, none)
    | _ :: query =>
      if query.all isQueryChar then .ok (String.ofList path, some (String.ofList query))
      else .error .badCharacter

/-- What was seen of an authority so far. -/
structure Authority where
  /-- Colons since the last `@` or bracket. -/
  colons : Nat := 0
  opened : Bool := false
  closed : Bool := false
  /-- Whether there was a percent sign since the last `@` or bracket. -/
  percent : Bool := false
  /-- Whether the last character was an `@`. -/
  atEnd : Bool := false

/-- The greatest number of colons: those of an address between brackets and one more. -/
def maxColons : Nat := 8

def Authority.step (a : Authority) (c : Char) : Except ParseError Authority :=
  let a := { a with atEnd := c == '@' }
  if c = ':' then
    if a.colons ≥ maxColons then .error .badAuthority else .ok { a with colons := a.colons + 1 }
  else if c = '[' then
    if a.percent || a.opened then .error .badAuthority else .ok { a with opened := true }
  else if c = ']' then
    if !a.opened || a.closed then .error .badAuthority
    else .ok { a with closed := true, colons := 0, percent := false }
  else if c = '@' then .ok { a with colons := 0, percent := false }
  else if c = '%' then .ok { a with percent := true }
  else if isAuthorityChar c then .ok a
  else .error .badCharacter

def readAuthority (cs : List Char) : Except ParseError (List Char × List Char) := do
  let authority := cs.takeWhile fun c => !endsAuthority c
  let a ← authority.foldlM Authority.step {}
  if a.opened != a.closed || a.colons > 1 || a.atEnd || a.percent then .error .badAuthority
  else return (authority, cs.dropWhile fun c => !endsAuthority c)

/-- The scheme of a text, if it has one, and what follows its two slashes. -/
def readScheme (cs : List Char) : Except ParseError (Option (String × List Char)) :=
  let lower := String.ofList ((cs.takeWhile isSchemeChar).map Char.toLower)
  match cs.dropWhile isSchemeChar with
  | ':' :: '/' :: '/' :: rest =>
    if lower = "http" ∨ lower = "https" then .ok (some (lower, rest))
    else if (cs.takeWhile isSchemeChar).length > 64 then .error .schemeTooLong
    else if cs.length > 3 then .ok (some (String.ofList (cs.takeWhile isSchemeChar), rest))
    else .ok none
  | _ => .ok none

/-- A full address or an authority alone. -/
def readFull (cs : List Char) : Except ParseError Uri := do
  match ← readScheme cs with
  | none =>
    let (authority, rest) ← readAuthority cs
    if rest = [] then return { authority := some (String.ofList authority), path := "" }
    else .error .badFormat
  | some (scheme, cs) =>
    let (authority, rest) ← readAuthority cs
    if authority = [] then .error .badFormat
    else
      let (path, query) ← readPath rest
      return {
        scheme := some scheme
        authority := some (String.ofList authority)
        path := if path = "" then "/" else path
        query }

def parse (s : String) : Except ParseError Uri :=
  if s.utf8ByteSize > maxLength then .error .tooLong
  else
    match s.toList with
    | [] => .error .empty
    | ['*'] => .ok { path := "*" }
    | '/' :: rest => do
      let (path, query) ← readPath ('/' :: rest)
      return { path, query }
    | [c] => do
      let (authority, rest) ← readAuthority [c]
      if rest = [] then return { authority := some (String.ofList authority), path := "" }
      else .error .badCharacter
    | cs => readFull cs

end Uri

end Gatehouse
