import MarkupTemplate.Number.Double
/-!
# JSON values — what a JSON text denotes

Objects keep their members in the order of the text, repeated keys included.
Numbers keep their class: an integer that fits in 64 bits is an `int`, any other
number a `float`. A part of a text can obey the grammar and yet denote nothing,
such as a number beyond every double; it is `unreadable`, which only matters to a
reader that asks for it.
-/

namespace MarkupTemplate

/-- A JSON value. -/
inductive Json where
  | null
  | bool (value : Bool)
  | int (value : Int)
  | float (value : Double)
  | string (value : String)
  | array (items : List Json)
  | object (members : List (String × Json))
  | unreadable

namespace Json

mutual

/-- No part of the value is unreadable. -/
def isReadable : Json → Bool
  | .unreadable => false
  | .array items => allReadable items
  | .object members => allMembersReadable members
  | _ => true

/-- No item has an unreadable part. -/
def allReadable : List Json → Bool
  | [] => true
  | item :: items => item.isReadable && allReadable items

/-- No member has an unreadable part. -/
def allMembersReadable : List (String × Json) → Bool
  | [] => true
  | (_, value) :: members => value.isReadable && allMembersReadable members

end

/-- A natural number as a JSON integer. -/
def ofNat (n : Nat) : Json :=
  .int n

/-- An optional value, with null for its absence. -/
def ofOption {α : Type} (encode : α → Json) : Option α → Json
  | none => .null
  | some a => encode a

/-- A list of values as an array. -/
def ofList {α : Type} (encode : α → Json) (values : List α) : Json :=
  .array (values.map encode)

end Json

end MarkupTemplate
