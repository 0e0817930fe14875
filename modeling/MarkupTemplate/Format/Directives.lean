import MarkupTemplate.Json.Fields
import MarkupTemplate.Json.Token
import MarkupTemplate.Text.Blank
import MarkupTemplate.Text.Pieces
import MarkupTemplate.Tree.Directives
/-!
# The text form of strip directives

Directives are written as names joined by a bar: `LEFT`, `RIGHT`, and the bits
without a name as one hexadecimal number. Reading allows blanks around the names
and any order, and refuses an empty piece.
-/

namespace MarkupTemplate.Directives

/-- The names of the directives that have one. -/
def names : List (Directives × String) :=
  [(left, "LEFT"), (right, "RIGHT")]

/-- The pieces of the text: the names of the directives in the set, then the bits
without a name. -/
def textPieces (s : Directives) : List String :=
  let named := (names.filter fun n => s.contains n.1).map Prod.snd
  let rest := (s.diff left).diff right
  if rest = empty then named
  else named ++ ["0x" ++ String.ofList (Nat.toDigits 16 rest.bits.toNat)]

/-- The text of a set of directives; the empty set has the empty text. -/
def toText (s : Directives) : String :=
  " | ".intercalate s.textPieces

/-- The number that a piece in hexadecimal denotes, if it fits in a byte. Nothing but
digits stands in it: a sign is refused, even the plus that many readers of numbers let
pass. -/
def ofHex? (digits : List Char) : Option Directives :=
  if digits.isEmpty then none
  else
    match Json.hexNumber? digits with
    | some n => if n < 256 then some ⟨UInt8.ofNat n⟩ else none
    | none => none

/-- The directives of one piece. -/
def ofPiece? (piece : List Char) : Option Directives :=
  match piece with
  | '0' :: 'x' :: digits => ofHex? digits
  | piece => (names.find? fun n => n.2.toList == piece).map Prod.fst

/-- A text without the blanks at its ends. -/
def trimmed (cs : List Char) : List Char :=
  Text.dropBlankEnd (Text.dropBlankStart cs)

/-- Read a set of directives from its text. -/
def ofText? (text : String) : Option Directives :=
  let cs := trimmed text.toList
  if cs.isEmpty then some empty
  else
    (Text.pieces '|' cs).foldlM
      (fun found piece => (ofPiece? (trimmed piece)).map found.union) empty

/-- The JSON form of a set of directives is its text. -/
def encode (s : Directives) : Json :=
  .string s.toText

/-- Read a set of directives from its JSON form. -/
def decode? (json : Json) : Option Directives := do
  ofText? (← json.toString?)

end MarkupTemplate.Directives
