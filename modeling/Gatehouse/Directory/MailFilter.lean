/-!
# Filters by mail address

The directory is asked for accounts by a filter that holds the address between single quotes. A
quote inside the address is written twice, so an address can hold anything and never ends the
literal.
-/

namespace Gatehouse.MailFilter

def opening : List Char := ['m', 'a', 'i', 'l', ' ', 'e', 'q', ' ', '\'']

/-- An address with its quotes doubled. -/
def escape : List Char → List Char
  | [] => []
  | c :: rest => if c = '\'' then '\'' :: '\'' :: escape rest else c :: escape rest

def filter (email : String) : String := String.ofList (opening ++ escape email.toList ++ ['\''])

/-- Reads a literal behind its opening quote: two quotes stand for one, a single one ends it. Yields
the text and what follows. -/
def literal? : List Char → Option (List Char × List Char)
  | [] => none
  | '\'' :: '\'' :: rest => (literal? rest).map fun (cs, r) => ('\'' :: cs, r)
  | '\'' :: rest => some ([], rest)
  | c :: rest => (literal? rest).map fun (cs, r) => (c :: cs, r)

/-- The address of a filter and what follows its literal. -/
def address? (query : String) : Option (String × List Char) :=
  (opening.isPrefixOf? query.toList).bind fun rest =>
    (literal? rest).map fun (cs, r) => (String.ofList cs, r)

end Gatehouse.MailFilter
