import MarkupTemplate.Json.Fields
import MarkupTemplate.Registry.Declaration
/-!
# The JSON form of declarations

A member is an object with a `kind`. Members and routes are objects whose keys
are in the order of declaration; of entries with one key the last value counts,
at the place of the first.
-/

namespace MarkupTemplate

/-- Read the entries of an object with a decoder for their values. -/
def decodeMap? {α : Type} (decode? : Json → Option α) (json : Json) :
    Option (OrderedMap String α) := do
  let entries ← (← json.toMembers?).mapM fun entry => (decode? entry.2).map (entry.1, ·)
  pure (.ofList entries)

/-- The entries of a map as an object. -/
def encodeMap {α : Type} (encode : α → Json) (map : OrderedMap String α) : Json :=
  .object (map.entries.map fun entry => (entry.1, encode entry.2))

namespace Hook

/-- The JSON form of a hook is its name. -/
def encode (hook : Hook) : Json :=
  .string hook.name

/-- Read a hook from its JSON form. -/
def decode? (json : Json) : Option Hook := do
  ofName? (← json.toString?)

end Hook

namespace Member

/-- The JSON form of a member. -/
def encode : Member → Json
  | data value => .object [("kind", .string "data"), ("value", value.json)]
  | function arity returnsValue =>
    .object
      [("kind", .string "function"), ("arity", .ofUInt64 arity),
       ("returnsValue", .bool returnsValue)]

/-- Read a member from its JSON form, all of which has to be readable. -/
def decode? (json : Json) : Option Member := do
  let fields ← json.toMembers?
  if !json.isReadable then none
  match ← requiredField? "kind" Json.toString? fields with
  | "data" => pure (.data (← requiredField? "value" Data.ofJson? fields))
  | "function" =>
    pure
      (.function (← requiredField? "arity" Json.toUInt64? fields)
        (← optionalField? "returnsValue" false Json.toBool? fields))
  | _ => none

end Member

namespace Declaration

/-- The JSON form of a declaration. -/
def encode (d : Declaration) : Json :=
  .object
    [("name", .string d.name), ("members", encodeMap Member.encode d.members),
     ("routes", encodeMap .string d.routes),
     ("template", .ofOption .string d.template)]

/-- Read a declaration from its JSON form. -/
def decode? (json : Json) : Option Declaration := do
  let fields ← json.toMembers?
  pure
    { name := ← requiredField? "name" Json.toString? fields
      members := ← optionalField? "members" .empty (decodeMap? Member.decode?) fields
      routes := ← optionalField? "routes" .empty (decodeMap? Json.toString?) fields
      template := ← optionalField? "template" none (Json.toOption? Json.toString?) fields }

end Declaration

end MarkupTemplate
