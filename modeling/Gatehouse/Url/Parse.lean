import Gatehouse.Text.Form
import Gatehouse.Unicode.HostName
import Gatehouse.Url.Basic
import Gatehouse.Url.Path

/-!
# Reading addresses

An address is read the lenient way that browsers read it: blanks around it and line breaks inside it
do not count, backslashes may stand for slashes, and hosts and paths are brought into normal form.
-/

namespace Gatehouse.Url

def significant (s : String) : List Char :=
  let isEdge (c : Char) : Bool := c.toNat ≤ 0x20
  let trimmed := ((s.toList.dropWhile isEdge).reverse.dropWhile isEdge).reverse
  trimmed.filter fun c => c ≠ '\t' ∧ c ≠ '\n' ∧ c ≠ '\r'

/-- The scheme, in lower case, and what follows its colon. -/
def readScheme (cs : List Char) : Option (String × List Char) :=
  let isPart (c : Char) : Bool := c.isAlphanum || c == '+' || c == '-' || c == '.'
  match cs.head?, cs.dropWhile isPart with
  | some first, ':' :: rest =>
    if first.isAlpha then some (String.ofList ((cs.takeWhile isPart).map Char.toLower), rest)
    else none
  | _, _ => none

def endsAuthority (kind : SchemeKind) (c : Char) : Bool :=
  c == '/' || c == '?' || c == '#' || (c == '\\' && kind.isSpecial)

/-- The name and the password of a user and what follows the last `@` of the authority. -/
def readUserinfo (kind : SchemeKind) (cs : List Char) :
    Except ParseError (String × Option String × List Char) :=
  let authority := cs.takeWhile fun c => !endsAuthority kind c
  if !authority.contains '@' then .ok ("", none, cs)
  else
    let behind := (authority.reverse.takeWhile (· ≠ '@')).length
    let info := authority.take (authority.length - behind - 1)
    let rest := cs.drop (info.length + 1)
    let written (cs : List Char) := String.ofList (Escape.chars Escape.userinfo cs)
    match info with
    | [] =>
      match rest with
      | c :: _ => if endsAuthority kind c then .error .emptyHost else .ok ("", none, rest)
      | [] => .ok ("", none, rest)
    | info =>
      let username := written (info.takeWhile (· ≠ ':'))
      match info.dropWhile (· ≠ ':') with
      | _ :: first :: more => .ok (username, some (written (first :: more)), rest)
      | _ => .ok (username, none, rest)

/-- The host text: it ends before a colon outside of brackets. Yields what follows it too. -/
def spanHost (kind : SchemeKind) : (bracket : Bool) → List Char → List Char × List Char
  | _, [] => ([], [])
  | bracket, c :: rest =>
    if (c = ':' ∧ ¬ bracket) ∨ endsAuthority kind c then ([], c :: rest)
    else
      let inBracket := if c = '[' then true else if c = ']' then false else bracket
      let (host, after) := spanHost kind inBracket rest
      (c :: host, after)

def bracketHost (cs : List Char) : Except ParseError Host :=
  if cs.getLast? = some ']' then
    match Ipv6.parse? (cs.drop 1).dropLast with
    | some ps => .ok (.ipv6 ps)
    | none => .error .badIpv6
  else .error .badIpv6

/-- A host of the schemes of the web and of files. -/
def webHost (cs : List Char) : Except ParseError Host :=
  if cs.head? = some '[' then bracketHost cs
  else
    match HostName.toAscii? (Form.percentDecode cs) with
    | none => .error .badHostName
    | some name =>
      if name = "" then .error .emptyHost
      else if Ipv4.endsInNumber name.toList then
        match Ipv4.parse? name.toList with
        | some a => .ok (.ipv4 a)
        | none => .error .badIpv4
      else .ok (.name name)

def isForbiddenInHost (c : Char) : Bool :=
  ['\x00', '\t', '\n', '\r', ' ', '#', '/', ':', '<', '>', '?', '@', '[', '\\', ']', '^',
   '|'].contains c

/-- A host of the other schemes, which is kept as it is. -/
def plainHost (cs : List Char) : Except ParseError Host :=
  if cs.head? = some '[' then bracketHost cs
  else if cs.any isForbiddenInHost then .error .badHostCharacter
  else .ok (.name (String.ofList (Escape.chars Escape.control cs)))

/-- A port and what follows it. The digits end before a slash, a question or a number sign. -/
def readPort : (port : Nat) → (digits : Bool) → List Char →
    Except ParseError (Option Nat × List Char)
  | port, digits, [] => .ok (if digits then some port else none, [])
  | port, digits, c :: rest =>
    if c.isDigit then
      let port := port * 10 + (c.toNat - '0'.toNat)
      if port > 65535 then .error .badPort else readPort port true rest
    else if c = '/' ∨ c = '\\' ∨ c = '?' ∨ c = '#' then
      .ok (if digits then some port else none, c :: rest)
    else .error .badPort

def readAuthorityPath (kind : SchemeKind) (hasHost : Bool) (cs : List Char) :
    Path.Draft × List Char :=
  match cs with
  | [] => if kind.isSpecial then Path.read kind hasHost ⟨['/'], false⟩ [] [] else (⟨[], false⟩, [])
  | c :: rest =>
    if kind.isSpecial then
      Path.read kind hasHost ⟨['/'], false⟩ [] (if c = '/' ∨ c = '\\' then rest else c :: rest)
    else if c = '?' ∨ c = '#' then (⟨[], false⟩, c :: rest)
    else if c = '/' then Path.read kind hasHost ⟨[], false⟩ [] (c :: rest)
    else Path.read kind hasHost ⟨['/'], false⟩ [] (c :: rest)

/-- Query and fragment, behind the path. -/
def readTail (kind : SchemeKind) (u : Url) (cs : List Char) : Url :=
  let asFragment (cs : List Char) := String.ofList (Escape.chars Escape.fragment cs)
  match cs with
  | '?' :: rest =>
    let query := rest.takeWhile (· ≠ '#')
    let set := if kind.isSpecial then Escape.specialQuery else Escape.query
    let u := { u with query := some (String.ofList (Escape.chars set query)) }
    match rest.dropWhile (· ≠ '#') with
    | _ :: f => { u with fragment := some (asFragment f) }
    | [] => u
  | '#' :: f => { u with fragment := some (asFragment f) }
  | _ => u

/-- What follows two slashes. -/
def readAuthority (scheme : String) (kind : SchemeKind) (cs : List Char) :
    Except ParseError Url := do
  let (username, password, cs) ← readUserinfo kind cs
  let (hostText, rest) := spanHost kind false cs
  let host ←
    if kind.isSpecial then (if hostText = [] then .error .emptyHost else webHost hostText)
    else plainHost hostText
  let unnamed := host == .name ""
  if unnamed ∧ rest.head? = some ':' then throw .emptyHost
  let (port, rest) ← match rest with
    | ':' :: rest => readPort 0 false rest
    | rest => .ok (none, rest)
  if unnamed ∧ (username ≠ "" ∨ password.isSome) then throw .emptyHost
  let (draft, rest) := readAuthorityPath kind true rest
  return readTail kind
    { scheme, slashes := true, username, password
      host := if unnamed then none else some host
      port := if port = defaultPort scheme then none else port
      path := String.ofList (draft.finish kind) } rest

/-- An address of a file, with the host that was read before its path. -/
def fileUrl (host : Option Host) (draft : Path.Draft) (rest : List Char) : Url :=
  readTail .file
    { scheme := "file", slashes := true, host := if draft.dropsHost then none else host
      path := String.ofList (draft.finish .file) } rest

def readFile (cs : List Char) : Except ParseError Url :=
  let isSlash (c : Char) : Bool := c == '/' || c == '\\'
  match cs with
  | a :: b :: rest =>
    if isSlash a && isSlash b then do
      let hostText := rest.takeWhile fun c => !endsAuthority .file c
      if Path.isDrive hostText then
        let (draft, rest) := Path.read .file false ⟨['/'], false⟩ [] rest
        return fileUrl none draft rest
      else
        let after := rest.drop hostText.length
        let host ←
          if hostText = [] then .ok none
          else (webHost hostText).map fun h => if h = .name "localhost" then none else some h
        let (draft, rest) := readAuthorityPath .file host.isSome after
        return fileUrl host draft rest
    else
      let (draft, rest) := Path.read .file false ⟨if isSlash a then [] else ['/'], false⟩ [] cs
      .ok (fileUrl none draft rest)
  | cs =>
    let start := if (cs.head?.map isSlash).getD false then [] else ['/']
    let (draft, rest) := Path.read .file false ⟨start, false⟩ [] cs
    .ok (fileUrl none draft rest)

/-- What follows the scheme, of the other schemes. -/
def readOther (scheme : String) (cs : List Char) : Except ParseError Url :=
  match cs with
  | '/' :: '/' :: rest => readAuthority scheme .other rest
  | '/' :: rest =>
    let (draft, rest) := Path.read .other false ⟨['/'], false⟩ [] rest
    .ok (readTail .other
      { scheme, slashes := false, path := String.ofList (draft.finish .other) } rest)
  | cs =>
    let isEnd (c : Char) : Bool := c == '?' || c == '#'
    let path := String.ofList (Escape.chars Escape.control (cs.takeWhile fun c => !isEnd c))
    .ok (readTail .other { scheme, slashes := false, path } (cs.dropWhile fun c => !isEnd c))

def parse (s : String) : Except ParseError Url :=
  match readScheme (significant s) with
  | none => .error .noScheme
  | some (scheme, rest) =>
    match SchemeKind.ofName scheme with
    | .file => readFile rest
    | .web => readAuthority scheme .web (rest.dropWhile fun c => c = '/' ∨ c = '\\')
    | .other => readOther scheme rest

end Gatehouse.Url
