/-!
# Fields

A text cut at every occurrence of a separator. What lies between two separators is a field, and so is
what lies before the first and behind the last of them, also where it is empty.
-/

namespace Reckon.Text

/-- The parts of a text between the separators. -/
def fields (separator : Char) : List Char → List (List Char)
  | [] => [[]]
  | c :: cs =>
    if c = separator then [] :: fields separator cs
    else
      match fields separator cs with
      | [] => [[c]]
      | field :: rest => (c :: field) :: rest

end Reckon.Text
