import MarkupTemplate.Call.Frame
import MarkupTemplate.Json.Fields
/-!
# The JSON form of frames

A frame is an object with one member, whose key tells its kind.
-/

namespace MarkupTemplate.Call

namespace ArgType

/-- The JSON form of a type is its name. -/
def encode (type : ArgType) : Json :=
  .string type.name

/-- Read a type from its JSON form. -/
def decode? (json : Json) : Option ArgType := do
  ofName? (← json.toString?)

end ArgType

namespace Frame

/-- The JSON form of a frame. -/
def encode : Frame → Json
  | .child id => .object [("childId", .ofOption .ofUInt64 id)]
  | .callee name => .object [("name", .string name)]
  | .type argType => .object [("type", argType.encode)]
  | .value text => .object [("value", .string text)]
  | .key text => .object [("key", .string text)]
  | .pairCount count => .object [("hashCount", .ofUInt64 count)]

/-- Read the content of a frame of the kind that a key tells. -/
def decodeAs? (kindKey : String) (json : Json) : Option Frame :=
  match kindKey with
  | "childId" => .child <$> Json.toOption? Json.toUInt64? json
  | "name" => .callee <$> json.toString?
  | "type" => .type <$> ArgType.decode? json
  | "value" => .value <$> json.toString?
  | "key" => .key <$> json.toString?
  | "hashCount" => .pairCount <$> json.toUInt64?
  | _ => none

/-- Read a frame from its JSON form. -/
def decode? (json : Json) : Option Frame := do
  match ← json.toMembers? with
  | [(kindKey, content)] => decodeAs? kindKey content
  | _ => none

end Frame

end MarkupTemplate.Call
