/-!
# Joining paths and queries

A backend has a base path and fixed parameters of its own; the path and the query of a request are
put behind them.
-/

namespace Gatehouse

/-- Puts one path behind another with exactly one slash between them, where there is at most one on
either side. -/
def joinPaths (a b : String) : String :=
  match a.toList.getLast? == some '/', b.toList.head? == some '/' with
  | true, true => a ++ String.ofList (b.toList.drop 1)
  | false, false => a ++ "/" ++ b
  | _, _ => a ++ b

/-- Puts one query behind another; an empty one adds nothing. -/
def joinQueries (a b : String) : String :=
  if a = "" ∨ b = "" then a ++ b else a ++ "&" ++ b

end Gatehouse
