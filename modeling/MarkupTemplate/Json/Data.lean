import MarkupTemplate.Json.Basic
import MarkupTemplate.OrderedMap
/-!
# Data values — JSON without loose ends

A data value has no unreadable part and no object with a repeated key. Any
readable value becomes one by keeping, of members with one key, the first place
and the last value. Two data values are the same when they differ at most in the
order of members and in the sign of a zero.
-/

namespace MarkupTemplate.Json

mutual

/-- The value is readable, and no object in it repeats a key. -/
def isPlain : Json → Bool
  | .unreadable => false
  | .array items => allPlain items
  | .object members => decide (members.map Prod.fst).Nodup && allMembersPlain members
  | _ => true

/-- All items are plain. -/
def allPlain : List Json → Bool
  | [] => true
  | item :: items => item.isPlain && allPlain items

/-- The values of all members are plain. -/
def allMembersPlain : List (String × Json) → Bool
  | [] => true
  | (_, value) :: members => value.isPlain && allMembersPlain members

end

mutual

/-- The value with the members of one key merged, at every depth. -/
def merged : Json → Json
  | .array items => .array (mergedItems items)
  | .object members => .object (OrderedMap.ofList (mergedMembers members)).entries
  | json => json

/-- The items, each merged. -/
def mergedItems : List Json → List Json
  | [] => []
  | item :: items => item.merged :: mergedItems items

/-- The members, the value of each merged. -/
def mergedMembers : List (String × Json) → List (String × Json)
  | [] => []
  | (key, value) :: members => (key, value.merged) :: mergedMembers members

end

mutual

/-- The values are the same up to the order of members and the sign of zeros. -/
def same : Json → Json → Bool
  | .null, .null => true
  | .bool a, .bool b => a == b
  | .int a, .int b => a == b
  | .float a, .float b => a.sameValue b
  | .string a, .string b => a == b
  | .array items, .array others => sameItems items others
  | .object members, .object others =>
    members.length == others.length && matchedIn others members
  | _, _ => false

/-- The items are the same, one by one. -/
def sameItems : List Json → List Json → Bool
  | [], [] => true
  | item :: items, other :: others => item.same other && sameItems items others
  | _, _ => false

/-- Each member has one with the same value under its key among the others. -/
def matchedIn (others : List (String × Json)) : List (String × Json) → Bool
  | [] => true
  | (key, value) :: members =>
    (others.lookup key).any value.same && matchedIn others members

end

end MarkupTemplate.Json

namespace MarkupTemplate

/-- A JSON value without loose ends. -/
structure Data where
  json : Json
  plain : json.isPlain

namespace Data

/-- The data value that a readable JSON value denotes. -/
def ofJson? (json : Json) : Option Data :=
  if h : json.merged.isPlain then some ⟨json.merged, h⟩ else none

/-- The values are the same up to the order of members and the sign of zeros. -/
def same (a b : Data) : Bool :=
  a.json.same b.json

end Data

end MarkupTemplate
