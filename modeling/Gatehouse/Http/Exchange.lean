import Gatehouse.Http.Client

/-!
# Exchanges

An action that uses the network can be carried out in steps: it is begun with the answers that are
known, and if they do not suffice it says what it wants to ask next. With that answer it is begun
again, and comes one request further.
-/

namespace Gatehouse

/-- The answers that are known, and the first request for which there is none. -/
structure Exchanges where
  known : List Delivery := []
  wanted : Option Outgoing := none
  deriving DecidableEq, Repr

namespace Exchanges

def network : Network Exchanges := fun o s =>
  match s.known with
  | d :: rest => (d, { s with known := rest })
  | [] => (.nothing, { s with wanted := s.wanted.or (some o) })

/-- The result of an action, or the request that it cannot do without. -/
def attempt {α : Type} (act : StateM Exchanges α) (known : List Delivery) : Outgoing ⊕ α :=
  let (a, s) := act { known }
  match s.wanted with
  | some o => .inl o
  | none => .inr a

end Exchanges

end Gatehouse
