import MarkupTemplate.Json.Basic
/-!
# JSON fields — reading typed values out of JSON values

A decoder is a partial function from JSON values; all that it reports is whether
there is an answer. Records are decoded from their fields by name: unknown fields
are passed over, a field that stands twice is refused.
-/

namespace MarkupTemplate

variable {α β : Type}

/-- The one field of that name, or none; no answer when it is repeated. -/
def findField? (name : String) (fields : List (String × α)) : Option (Option α) :=
  match fields.filter fun field => field.1 == name with
  | [] => some none
  | [(_, value)] => some (some value)
  | _ => none

/-- Decode a field that has to be present. -/
def requiredField? (name : String) (decode? : α → Option β) (fields : List (String × α)) :
    Option β := do
  match ← findField? name fields with
  | some value => decode? value
  | none => none

/-- Decode a field that has a default. -/
def optionalField? (name : String) (default : β) (decode? : α → Option β)
    (fields : List (String × α)) : Option β := do
  match ← findField? name fields with
  | some value => decode? value
  | none => some default

namespace Json

/-- The text of a string. -/
def toString? : Json → Option String
  | .string value => some value
  | _ => none

/-- The truth value of a boolean. -/
def toBool? : Json → Option Bool
  | .bool value => some value
  | _ => none

/-- An integer that fits in 64 bits without a sign. -/
def toUInt64? : Json → Option UInt64
  | .int value => if 0 ≤ value && value.toNat < UInt64.size then some (UInt64.ofNat value.toNat) else none
  | _ => none

/-- The double closest to a number of either class. -/
def toDouble? : Json → Option Double
  | .int value => Double.ofInt? value
  | .float value => some value
  | _ => none

/-- The items of an array, each decoded. -/
def toList? (decode? : Json → Option α) : Json → Option (List α)
  | .array items => items.mapM decode?
  | _ => none

/-- The members of an object. -/
def toMembers? : Json → Option (List (String × Json))
  | .object members => some members
  | _ => none

/-- Null stands for absence. -/
def toOption? (decode? : Json → Option α) : Json → Option (Option α)
  | .null => some none
  | value => (decode? value).map some

/-- A 64-bit count as a JSON integer. -/
def ofUInt64 (n : UInt64) : Json :=
  .int n.toNat

end Json

end MarkupTemplate
