import MarkupTemplate.Text.Pieces
import MarkupTemplate.Tree.Basic
/-!
# Building nodes — constructors without a place

A built node has no span and no strip directives. A path is split at its dots,
and empty parts are dropped.
-/

namespace MarkupTemplate

namespace Path

/-- The parts of a dotted text that are not empty. -/
def split (text : String) : List String :=
  ((Text.pieces '.' text.toList).filter fun part => !part.isEmpty).map String.ofList

/-- The path that a text spells. -/
def ofText (text : String) : Path :=
  { text, parts := split text, loc := none }

end Path

namespace SubExpression

/-- The expression that applies a path to arguments. -/
def build (path : Path) (params : List Node) (hash : Hash) : SubExpression :=
  { expression := { path, params, hash }, loc := none }

end SubExpression

namespace Attr

/-- An attribute with a name and a value. -/
def build (name : String) (value : Node) : Attr :=
  { name, value, loc := none }

end Attr

namespace Element

/-- An element without children. -/
def build (tag : String) (attributes : List Attr) : Element :=
  { tag, attributes, children := [], loc := none }

end Element

namespace Program

/-- A program with a body that binds the given names. -/
def build (body : List Node) (blockParams : Option (List String)) : Program :=
  { body, blockParams, strip := .empty, loc := none }

end Program

namespace Component

/-- A component with a program as its content. -/
def build (tag : String) (attributes : List Attr) (program : Program) : Component :=
  { tag, attributes, program, loc := none }

end Component

namespace Node

/-- A text node. -/
def ofText (chars : String) : Node :=
  text chars none

/-- A string literal. -/
def ofString (value : String) : Node :=
  string value none

/-- A number literal. -/
def ofDouble (value : Double) : Node :=
  number value none

/-- A boolean literal. -/
def ofBool (value : Bool) : Node :=
  boolean value none

/-- A comment. -/
def ofComment (value : String) : Node :=
  comment value none

/-- A concatenation of parts. -/
def ofParts (parts : List Node) : Node :=
  concat parts none

/-- A mustache that shows a path applied to arguments. -/
def buildMustache (path : Path) (params : List Node) (hash : Hash) (escaped : Bool) : Node :=
  mustache { expression := { path, params, hash }, escaped, strip := .empty, loc := none }

/-- A block that applies a path to arguments and governs a program. -/
def buildBlock (path : Path) (params : List Node) (hash : Hash) (program : Program)
    (inverse : Option Program) : Node :=
  block
    { expression := { path, params, hash }
      program
      inverse
      openStrip := .empty
      closeStrip := .empty
      loc := none }

end Node

end MarkupTemplate
