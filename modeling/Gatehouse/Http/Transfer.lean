import Gatehouse.Http.Client
import Gatehouse.Http.Status
import Gatehouse.Text.Form

/-!
# Messages on a connection

A message is a line that says what it is, a line for each header, an empty line and the body. The
headers say where the body ends: after as many bytes as they announce, or after a chunk without any
bytes. The body of a response without either ends with the connection.
-/

namespace Gatehouse

/-- How far a message has been read. -/
inductive Reading (α : Type)
  | unfinished
  | malformed
  | done (a : α)
  deriving DecidableEq, Repr

namespace Reading

variable {α β : Type}

def map (f : α → β) : Reading α → Reading β
  | unfinished => unfinished
  | malformed => malformed
  | done a => done (f a)

end Reading

namespace Transfer

def contentLength : HeaderName := ⟨"content-length"⟩
def transferEncoding : HeaderName := ⟨"transfer-encoding"⟩
def authorization : HeaderName := ⟨"authorization"⟩

/-! ## Writing -/

def lineEnd : Bytes := [13, 10]

def head (first : String) (hs : Headers) : Bytes :=
  Utf8.encode first ++ lineEnd ++
    hs.flatMap (fun h => Utf8.encode (h.1.text ++ ": ") ++ h.2 ++ lineEnd) ++ lineEnd

def field (name : HeaderName) (value : String) : HeaderName × Bytes := (name, Utf8.encode value)

/-- Headers in front of others that have none of that name. -/
def unlessThere (hs : Headers) (name : HeaderName) (value : Option Bytes) : Headers :=
  match value with
  | some v => if hs.has name then hs else (name, v) :: hs
  | none => hs

/-- The bytes of a request. The connection ends with the response. -/
def writeRequest (o : Outgoing) : Bytes :=
  let target := o.url.path ++ (match o.url.query with | some q => "?" ++ q | none => "")
  let hs := (o.headers.remove transferEncoding).remove contentLength
  let hs := unlessThere hs authorization (o.credentials.map Credentials.authorization)
  let hs := unlessThere hs .host (o.url.hostAndPort.map Utf8.encode)
  let length := if o.body = [] ∧ [Method.get, .head].contains o.method then []
    else [field contentLength (toString o.body.length)]
  head (o.method.text ++ " " ++ target ++ " HTTP/1.1")
    (hs ++ length ++ [field .connection "close"]) ++ o.body

def hasBody (method : Method) (status : Nat) : Bool :=
  method ≠ .head && status ≥ 200 && status ≠ 204 && status ≠ 304

def writeResponse (method : Method) (r : Response) : Bytes :=
  let known := if hasBody method r.status then some (Utf8.encode (toString r.body.length)) else none
  let hs := unlessThere (r.headers.remove transferEncoding) contentLength known
  head ("HTTP/1.1 " ++ Status.describe r.status) (hs ++ [field .connection "close"]) ++
    (if hasBody method r.status then r.body else [])

/-! ## Reading -/

/-- The lines in front of the first empty line, and what follows it. -/
def lines? : (line : Bytes) → (before : List Bytes) → Bytes → Option (List Bytes × Bytes)
  | line, before, 13 :: 10 :: rest =>
    if line = [] then some (before.reverse, rest) else lines? [] (line.reverse :: before) rest
  | line, before, b :: rest => lines? (b :: line) before rest
  | _, _, [] => none

/-- A value without blanks around it. -/
def trim (v : Bytes) : Bytes :=
  let isBlank := fun b : UInt8 => b = 32 || b = 9
  ((v.dropWhile isBlank).reverse.dropWhile isBlank).reverse

def header? (line : Bytes) : Option (HeaderName × Bytes) :=
  match line.dropWhile (· ≠ 58) with
  | [] => none
  | _ :: value =>
    (Headers.ofPair (Utf8.decodeLossy (line.takeWhile (· ≠ 58))) (trim value)).toOption

/-- The number that a text of digits alone is. -/
def natural? (s : String) : Option Nat :=
  if s ≠ "" ∧ s.toList.all Char.isDigit then s.toNat? else none

inductive Framing
  | length (n : Nat)
  | chunked
  | unsaid
  deriving DecidableEq, Repr

/-- What headers say about the end of the body; nothing if they contradict themselves. -/
def framing? (hs : Headers) : Option Framing :=
  match hs.values transferEncoding with
  | [v] => if (Utf8.decodeLossy v).toLower = "chunked" then some .chunked else none
  | _ :: _ :: _ => none
  | [] =>
    match (hs.values contentLength).eraseDups with
    | [] => some .unsaid
    | [v] => (natural? (Utf8.decodeLossy v)).map .length
    | _ => none

def line? : Bytes → Option (Bytes × Bytes)
  | 13 :: 10 :: rest => some ([], rest)
  | b :: rest => (line? rest).map fun l => (b :: l.1, l.2)
  | [] => none

/-- The number of bytes that the line in front of a chunk announces. -/
def chunkLength? (line : Bytes) : Option Nat :=
  let digits := trim (line.takeWhile (· ≠ 59))
  if digits = [] then none
  else digits.foldlM (fun n d => (Form.hexValue (Char.ofNat d.toNat)).map fun v => n * 16 + v) 0

/-- The bytes of the chunks in front, and whether the last chunk was among them. The fuel is at
least the number of chunks. -/
def chunks : (fuel : Nat) → Bytes → Bytes × Reading Unit
  | 0, _ => ([], .unfinished)
  | fuel + 1, bs =>
    match line? bs with
    | none => ([], .unfinished)
    | some (first, rest) =>
      match chunkLength? first with
      | none => ([], .malformed)
      | some 0 => ([], .done ())
      | some n =>
        if rest.length < n + 2 then (rest.take n, .unfinished)
        else if (rest.drop n).take 2 ≠ lineEnd then (rest.take n, .malformed)
        else
          let (more, state) := chunks fuel (rest.drop (n + 2))
          (rest.take n ++ more, state)

/-- The body in front of some bytes. When nothing more can come it may have broken off. -/
def body (framing : Framing) (atEnd : Bool) (bs : Bytes) : Reading (Bytes × Bool) :=
  match framing with
  | .length n =>
    if n ≤ bs.length then .done (bs.take n, true)
    else if atEnd then .done (bs, false)
    else .unfinished
  | .chunked =>
    match chunks bs.length bs with
    | (content, .done ()) => .done (content, true)
    | (_, .malformed) => .malformed
    | (content, .unfinished) => if atEnd then .done (content, false) else .unfinished
  | .unsaid => if atEnd then .done (bs, true) else .unfinished

/-- A first line with the headers and what follows them. -/
def readHead (bs : Bytes) : Reading (List String × Headers × Bytes) :=
  match lines? [] [] bs with
  | none => .unfinished
  | some ([], _) => .malformed
  | some (first :: lines, rest) =>
    match lines.mapM header? with
    | none => .malformed
    | some hs => .done ((Utf8.decodeLossy first).splitOn " ", hs, rest)

def readRequest (bs : Bytes) : Reading Request :=
  match readHead bs with
  | .unfinished => .unfinished
  | .done ([method, target, version], headers, rest) =>
    match Method.ofText? method, Uri.parse target, framing? headers with
    | some method, .ok uri, some framing =>
      if ¬ version.startsWith "HTTP/1." then .malformed
      else
        match framing with
        | .unsaid => .done { method, uri, headers }
        | framing => (body framing false rest).map fun b => { method, uri, headers, body := b.1 }
    | _, _, _ => .malformed
  | _ => .malformed

def readResponse (method : Method) (atEnd : Bool) (bs : Bytes) : Reading Response :=
  match readHead bs with
  | .unfinished => .unfinished
  | .done (version :: code :: _, headers, rest) =>
    match natural? code, framing? headers with
    | some status, some framing =>
      if ¬ version.startsWith "HTTP/1." then .malformed
      else if ¬ hasBody method status then .done { status, headers }
      else (body framing atEnd rest).map fun b => { status, headers, body := b.1, complete := b.2 }
    | _, _ => .malformed
  | _ => .malformed

end Transfer

end Gatehouse
