/-!
# Pieces — a text cut at every separator

`pieces` cuts at each occurrence of one character, which it drops. A text
with `n` separators has `n + 1` pieces, empty ones included.
-/

namespace MarkupTemplate.Text

/-- The pieces between the separators, in order. -/
def pieces (separator : Char) : List Char → List (List Char)
  | [] => [[]]
  | c :: cs =>
    if c = separator then
      [] :: pieces separator cs
    else
      match pieces separator cs with
      | [] => [[c]]
      | first :: rest => (c :: first) :: rest

end MarkupTemplate.Text
