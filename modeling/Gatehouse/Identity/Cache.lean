import Gatehouse.Directory.Account

/-!
# The account cache

Accounts that were found or created are remembered for a while under the mail address they were
asked for. When there are too many, those whose time is over go first, and then the oldest.
-/

namespace Gatehouse

/-- A remembered account. Times are in milliseconds. -/
structure CacheEntry where
  email : String
  account : Account
  insertedAt : Nat
  deriving DecidableEq, Repr

/-- Remembered accounts, each address once, in the order in which they were put in. -/
structure AccountCache where
  capacity : Nat
  ttl : Nat
  entries : List CacheEntry := []
  deriving Repr

namespace AccountCache

/-- An empty cache; it has room for at least one account. -/
def empty (size ttl : Nat) : AccountCache := { capacity := max size 1, ttl }

/-- Whether the time of an entry is not over yet. -/
def isFresh (c : AccountCache) (now : Nat) (e : CacheEntry) : Bool := now - e.insertedAt < c.ttl

def entry? (c : AccountCache) (email : String) : Option CacheEntry :=
  c.entries.find? (·.email == email)

def invalidate (c : AccountCache) (email : String) : AccountCache :=
  { c with entries := c.entries.filter (·.email != email) }

/-- The account under an address, if its time is not over. An entry whose time is over is dropped.
-/
def get (c : AccountCache) (now : Nat) (email : String) : Option Account × AccountCache :=
  match c.entry? email with
  | none => (none, c)
  | some e => if c.isFresh now e then (some e.account, c) else (none, c.invalidate email)

/-- Makes room: nothing is dropped that need not be. -/
def trim (c : AccountCache) (now : Nat) : AccountCache :=
  if c.entries.length ≤ c.capacity then c
  else
    let fresh := c.entries.filter (c.isFresh now)
    { c with entries := fresh.drop (fresh.length - c.capacity) }

/-- Remembers an account under an address, as the newest entry. -/
def insert (c : AccountCache) (now : Nat) (email : String) (account : Account) : AccountCache :=
  trim { c with entries := (c.invalidate email).entries ++ [⟨email, account, now⟩] } now

/-- The number of entries, fresh or not. -/
def size (c : AccountCache) : Nat := c.entries.length

end AccountCache

end Gatehouse
