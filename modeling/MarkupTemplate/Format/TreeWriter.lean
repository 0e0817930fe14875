import MarkupTemplate.Format.Span
import MarkupTemplate.Format.Directives
import MarkupTemplate.Tree.Basic
/-!
# The JSON form of trees — writing

A node is an object whose `type` is the name of its kind, followed by the fields
of the structure it holds. Inside another structure, where the kind is known, the
same fields stand without `type`. Every field is written, absent values as null.
-/

namespace MarkupTemplate

/-- The JSON form of an optional span. -/
def encodeLoc (loc : Option Span) : Json :=
  .ofOption Span.encode loc

/-- The JSON form of a list of texts. -/
def encodeStrings (texts : List String) : Json :=
  .ofList .string texts

namespace Path

/-- The fields of a path. -/
def fields (p : Path) : List (String × Json) :=
  [("original", .string p.text), ("parts", encodeStrings p.parts), ("loc", encodeLoc p.loc)]

/-- The JSON form of a path. -/
def encode (p : Path) : Json :=
  .object p.fields

end Path

/-- A node's object: its kind and the fields of that kind. -/
def typed (kind : Node.Kind) (fields : List (String × Json)) : Json :=
  .object (("type", .string kind.name) :: fields)

mutual

/-- The JSON form of a node. -/
def Node.encode : Node → Json
  | .program p => typed .program p.fields
  | .element e => typed .element e.fields
  | .component c => typed .component c.fields
  | .text chars loc => typed .text [("chars", .string chars), ("loc", encodeLoc loc)]
  | .mustache m => typed .mustache m.fields
  | .block b => typed .block b.fields
  | .comment value loc => typed .comment [("value", .string value), ("loc", encodeLoc loc)]
  | .concat parts loc =>
    typed .concat [("parts", .array (encodeNodeItems parts)), ("loc", encodeLoc loc)]
  | .subExpression e => typed .subExpression e.fields
  | .path p => typed .path p.fields
  | .string value loc => typed .string [("value", .string value), ("loc", encodeLoc loc)]
  | .number value loc => typed .number [("value", .float value), ("loc", encodeLoc loc)]
  | .boolean value loc => typed .boolean [("value", .bool value), ("loc", encodeLoc loc)]

/-- The JSON forms of nodes. -/
def encodeNodeItems : List Node → List Json
  | [] => []
  | node :: nodes => node.encode :: encodeNodeItems nodes

/-- The fields of a program. -/
def Program.fields : Program → List (String × Json)
  | ⟨body, blockParams, strip, loc⟩ =>
    [("body", .array (encodeNodeItems body)), ("blockParams", .ofOption encodeStrings blockParams),
     ("strip", strip.encode), ("loc", encodeLoc loc)]

/-- The JSON form of an optional program. -/
def encodeInverse : Option Program → Json
  | none => .null
  | some program => .object program.fields

/-- The fields of an element. -/
def Element.fields : Element → List (String × Json)
  | ⟨tag, attributes, children, loc⟩ =>
    [("tag", .string tag), ("attributes", .array (encodeAttrItems attributes)),
     ("children", .array (encodeNodeItems children)), ("loc", encodeLoc loc)]

/-- The JSON form of an attribute. -/
def Attr.encode : Attr → Json
  | ⟨name, value, loc⟩ =>
    .object [("name", .string name), ("value", value.encode), ("loc", encodeLoc loc)]

/-- The JSON forms of attributes. -/
def encodeAttrItems : List Attr → List Json
  | [] => []
  | attr :: attrs => attr.encode :: encodeAttrItems attrs

/-- The fields of a component. -/
def Component.fields : Component → List (String × Json)
  | ⟨tag, attributes, program, loc⟩ =>
    [("tag", .string tag), ("attributes", .array (encodeAttrItems attributes)),
     ("program", .object program.fields), ("loc", encodeLoc loc)]

/-- The fields of an expression. -/
def Expression.fields : Expression → List (String × Json)
  | ⟨path, params, hash⟩ =>
    [("path", path.encode), ("params", .array (encodeNodeItems params)),
     ("hash", .object [("pairs", .array (encodePairItems hash))])]

/-- The JSON form of a named argument. -/
def Pair.encode : Pair → Json
  | ⟨key, value⟩ => .object [("key", .string key), ("value", value.encode)]

/-- The JSON forms of named arguments. -/
def encodePairItems : List Pair → List Json
  | [] => []
  | pair :: pairs => pair.encode :: encodePairItems pairs

/-- The fields of a mustache. -/
def Mustache.fields : Mustache → List (String × Json)
  | ⟨expression, escaped, strip, loc⟩ =>
    expression.fields ++
      [("escaped", .bool escaped), ("strip", strip.encode), ("loc", encodeLoc loc)]

/-- The fields of a block. -/
def Block.fields : Block → List (String × Json)
  | ⟨expression, program, inverse, openStrip, closeStrip, loc⟩ =>
    expression.fields ++
      [("program", .object program.fields), ("inverse", encodeInverse inverse),
       ("openStrip", openStrip.encode), ("closeStrip", closeStrip.encode), ("loc", encodeLoc loc)]

/-- The fields of a subexpression. -/
def SubExpression.fields : SubExpression → List (String × Json)
  | ⟨expression, loc⟩ => expression.fields ++ [("loc", encodeLoc loc)]

end

namespace Program

/-- The JSON form of a program. -/
def encode (p : Program) : Json :=
  .object p.fields

end Program

namespace Element

/-- The JSON form of an element. -/
def encode (e : Element) : Json :=
  .object e.fields

end Element

namespace Component

/-- The JSON form of a component. -/
def encode (c : Component) : Json :=
  .object c.fields

end Component

namespace SubExpression

/-- The JSON form of a subexpression. -/
def encode (e : SubExpression) : Json :=
  .object e.fields

end SubExpression

namespace Hash

/-- The JSON form of named arguments. -/
def encode (hash : Hash) : Json :=
  .object [("pairs", .array (encodePairItems hash))]

end Hash

end MarkupTemplate
