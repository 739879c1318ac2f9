import Gatehouse.Http.Header
import Gatehouse.Unicode.Category

/-!
# Headers of one connection

Some headers concern only the connection on which a message came, and are not passed on: nine by
their names, and any other that a `Connection` header lists.
-/

namespace Gatehouse.HopByHop

/-- The names that concern a connection always. -/
def fixedNames : List HeaderName :=
  [⟨"connection"⟩, ⟨"keep-alive"⟩, ⟨"proxy-connection"⟩, ⟨"te"⟩, ⟨"trailer"⟩,
   ⟨"transfer-encoding"⟩, ⟨"upgrade"⟩, ⟨"proxy-authenticate"⟩, ⟨"proxy-authorization"⟩]

/-- The names that a value lists. Elements that are no names count for nothing, and so does a value
that is not plain text. -/
def listedIn (value : Bytes) : List HeaderName :=
  match HeaderValue.text? value with
  | none => []
  | some t =>
    (t.toList.splitOn ',').filterMap fun e => HeaderName.ofText? (String.ofList (Unicode.trim e))

def listed (hs : Headers) : List HeaderName := (hs.values .connection).flatMap listedIn

def strip (hs : Headers) : Headers :=
  (listed hs ++ fixedNames).foldl Headers.remove hs

end Gatehouse.HopByHop
