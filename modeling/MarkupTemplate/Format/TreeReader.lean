import MarkupTemplate.Format.Span
import MarkupTemplate.Format.Directives
import MarkupTemplate.Tree.Basic
/-!
# The JSON form of trees — reading

A JSON value is read from its leaves up, once, as everything that it can be in a
tree: a `Reading` says for each kind of structure whether the value is one. The
reading of an object is assembled from the readings of its fields, so reading a
tree is structural recursion on the JSON value.

Required fields have to be there; the others have defaults; unknown fields are
passed over. An object with a `type` is only read as a node when all of it is
readable.
-/

namespace MarkupTemplate

/-- What a JSON value can be read as. -/
structure Reading where
  json : Json
  node : Option Node := none
  program : Option Program := none
  hash : Option Hash := none
  pair : Option Pair := none
  attr : Option Attr := none
  nodes : Option (List Node) := none
  pairs : Option (List Pair) := none
  attrs : Option (List Attr) := none

/-- The fields of an object, each with its reading. -/
abbrev Readings := List (String × Reading)

namespace Path

/-- Read a path from its JSON form. -/
def decode? (json : Json) : Option Path := do
  let fields ← json.toMembers?
  pure
    { text := ← requiredField? "original" Json.toString? fields
      parts := ← optionalField? "parts" [] (Json.toList? Json.toString?) fields
      loc := ← optionalField? "loc" none (Json.toOption? Span.decode?) fields }

end Path

namespace Reading

/-- The reading of a value that has one in a tree only through its own JSON. -/
def ofJson (json : Json) : Reading :=
  { json }

/-- Read an optional program; null stands for its absence. -/
def inverse (r : Reading) : Option (Option Program) :=
  match r.json with
  | .null => some none
  | _ => r.program.map some

end Reading

namespace Readings

/-- A required text. -/
def string? (name : String) (fields : Readings) : Option String :=
  requiredField? name (fun r => r.json.toString?) fields

/-- The span of a structure; it may be absent. -/
def loc? (fields : Readings) : Option (Option Span) :=
  optionalField? "loc" none (fun r => Json.toOption? Span.decode? r.json) fields

/-- A set of strip directives, empty where it is absent. -/
def strip? (name : String) (fields : Readings) : Option Directives :=
  optionalField? name .empty (fun r => Directives.decode? r.json) fields

/-- A list of nodes, empty where it is absent. -/
def nodes? (name : String) (fields : Readings) : Option (List Node) :=
  optionalField? name [] Reading.nodes fields

/-- The attributes, none where they are absent. -/
def attributes? (fields : Readings) : Option (List Attr) :=
  optionalField? "attributes" [] Reading.attrs fields

/-- A program. -/
def program? (fields : Readings) : Option Program := do
  pure
    { body := ← requiredField? "body" Reading.nodes fields
      blockParams := ← optionalField? "blockParams" none
        (fun r => Json.toOption? (Json.toList? Json.toString?) r.json) fields
      strip := ← fields.strip? "strip"
      loc := ← fields.loc? }

/-- An element. -/
def element? (fields : Readings) : Option Element := do
  pure
    { tag := ← fields.string? "tag"
      attributes := ← fields.attributes?
      children := ← fields.nodes? "children"
      loc := ← fields.loc? }

/-- A component. -/
def component? (fields : Readings) : Option Component := do
  pure
    { tag := ← fields.string? "tag"
      attributes := ← fields.attributes?
      program := ← requiredField? "program" Reading.program fields
      loc := ← fields.loc? }

/-- An attribute. -/
def attr? (fields : Readings) : Option Attr := do
  pure
    { name := ← fields.string? "name"
      value := ← requiredField? "value" Reading.node fields
      loc := ← fields.loc? }

/-- A named argument. -/
def pair? (fields : Readings) : Option Pair := do
  pure
    { key := ← fields.string? "key"
      value := ← requiredField? "value" Reading.node fields }

/-- Named arguments. -/
def hash? (fields : Readings) : Option Hash :=
  requiredField? "pairs" Reading.pairs fields

/-- An expression. -/
def expression? (fields : Readings) : Option Expression := do
  pure
    { path := ← requiredField? "path" (fun r => Path.decode? r.json) fields
      params := ← fields.nodes? "params"
      hash := ← optionalField? "hash" [] Reading.hash fields }

/-- A mustache. -/
def mustache? (fields : Readings) : Option Mustache := do
  pure
    { expression := ← fields.expression?
      escaped := ← optionalField? "escaped" true (fun r => r.json.toBool?) fields
      strip := ← fields.strip? "strip"
      loc := ← fields.loc? }

/-- A block. -/
def block? (fields : Readings) : Option Block := do
  pure
    { expression := ← fields.expression?
      program := ← requiredField? "program" Reading.program fields
      inverse := ← optionalField? "inverse" none Reading.inverse fields
      openStrip := ← fields.strip? "openStrip"
      closeStrip := ← fields.strip? "closeStrip"
      loc := ← fields.loc? }

/-- A subexpression. -/
def subExpression? (fields : Readings) : Option SubExpression := do
  pure
    { expression := ← fields.expression?
      loc := ← fields.loc? }

/-- A path. -/
def path? (fields : Readings) : Option Path :=
  Path.decode? (.object (fields.map fun field => (field.1, field.2.json)))

/-- The node of a kind with the given fields. -/
def nodeOfKind? (fields : Readings) : Node.Kind → Option Node
  | .program => .program <$> fields.program?
  | .element => .element <$> fields.element?
  | .component => .component <$> fields.component?
  | .text => .text <$> fields.string? "chars" <*> fields.loc?
  | .mustache => .mustache <$> fields.mustache?
  | .block => .block <$> fields.block?
  | .comment => .comment <$> fields.string? "value" <*> fields.loc?
  | .concat => .concat <$> requiredField? "parts" Reading.nodes fields <*> fields.loc?
  | .subExpression => .subExpression <$> fields.subExpression?
  | .path => .path <$> fields.path?
  | .string => .string <$> fields.string? "value" <*> fields.loc?
  | .number => .number <$> requiredField? "value" (fun r => r.json.toDouble?) fields <*> fields.loc?
  | .boolean => .boolean <$> requiredField? "value" (fun r => r.json.toBool?) fields <*> fields.loc?

/-- A node, of the kind that its `type` names. -/
def node? (fields : Readings) : Option Node := do
  let kind ← Node.Kind.ofName? (← fields.string? "type")
  fields.nodeOfKind? kind

end Readings

namespace Reading

/-- The reading of an array, from those of its items. -/
def ofItems (json : Json) (items : List Reading) : Reading :=
  { json
    nodes := items.mapM Reading.node
    pairs := items.mapM Reading.pair
    attrs := items.mapM Reading.attr }

/-- The reading of an object, from those of its fields. -/
def ofFields (json : Json) (fields : Readings) : Reading :=
  { json
    node := if json.isReadable then fields.node? else none
    program := fields.program?
    hash := fields.hash?
    pair := fields.pair?
    attr := fields.attr? }

end Reading

namespace Json

mutual

/-- Everything that a value can be read as. -/
def reading : Json → Reading
  | .array items => .ofItems (.array items) (readItems items)
  | .object members => .ofFields (.object members) (readMembers members)
  | json => .ofJson json

/-- The readings of items. -/
def readItems : List Json → List Reading
  | [] => []
  | item :: items => item.reading :: readItems items

/-- The readings of members. -/
def readMembers : List (String × Json) → Readings
  | [] => []
  | (name, value) :: members => (name, value.reading) :: readMembers members

end

end Json

namespace Node

/-- Read a node from its JSON form. -/
def decode? (json : Json) : Option Node :=
  json.reading.node

end Node

namespace Program

/-- Read a program from its JSON form. -/
def decode? (json : Json) : Option Program :=
  json.reading.program

end Program

namespace Attr

/-- Read an attribute from its JSON form. -/
def decode? (json : Json) : Option Attr :=
  json.reading.attr

end Attr

namespace Hash

/-- Read named arguments from their JSON form. -/
def decode? (json : Json) : Option Hash :=
  json.reading.hash

end Hash

namespace Element

/-- Read an element from its JSON form. -/
def decode? (json : Json) : Option Element := do
  Readings.element? (Json.readMembers (← json.toMembers?))

end Element

end MarkupTemplate
