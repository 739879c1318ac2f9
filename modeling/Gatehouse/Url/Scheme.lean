/-!
# Schemes

The schemes of the web and of files have rules of their own; all others share one set of rules.
-/

namespace Gatehouse.Url

inductive SchemeKind
  | file
  | web
  | other
  deriving DecidableEq, Repr

namespace SchemeKind

def ofName (scheme : String) : SchemeKind :=
  if scheme = "file" then file
  else if scheme ∈ ["http", "https", "ws", "wss", "ftp"] then web
  else other

/-- Whether a backslash is as good as a slash. -/
def isSpecial (k : SchemeKind) : Bool := k != other

end SchemeKind

/-- The port that need not be written. -/
def defaultPort (scheme : String) : Option Nat :=
  if scheme = "http" ∨ scheme = "ws" then some 80
  else if scheme = "https" ∨ scheme = "wss" then some 443
  else if scheme = "ftp" then some 21
  else none

end Gatehouse.Url
