import MarkupTemplate.Number.Double
import MarkupTemplate.Span
import MarkupTemplate.Tree.Directives
/-!
# Template trees — markup with expressions in it

A template is a `Program`: a body of nodes, the names it binds and the strip
directives of its own edges. A node is markup (`element`, `text`, `comment`), a
live binding (`mustache`, `block`, `component`), or a value that stands in an
attribute or an argument.

The structures are one mutual family, so a function on trees is structural
recursion through the fields that hold nodes; one that descends comes with its
form for lists.
-/

namespace MarkupTemplate

/-- A dotted path, with the text it was written as. -/
structure Path where
  text : String
  parts : List String
  loc : Option Span
deriving DecidableEq

mutual

/-- A node of a template tree. -/
inductive Node where
  | program (program : Program)
  | element (element : Element)
  | component (component : Component)
  | text (chars : String) (loc : Option Span)
  | mustache (mustache : Mustache)
  | block (block : Block)
  | comment (value : String) (loc : Option Span)
  | concat (parts : List Node) (loc : Option Span)
  | subExpression (expression : SubExpression)
  | path (path : Path)
  | string (value : String) (loc : Option Span)
  | number (value : Double) (loc : Option Span)
  | boolean (value : Bool) (loc : Option Span)

/-- A scope of template content; `blockParams` is absent where no names are
bound. -/
structure Program where
  body : List Node
  blockParams : Option (List String)
  strip : Directives
  loc : Option Span

/-- A markup element. -/
structure Element where
  tag : String
  attributes : List Attr
  children : List Node
  loc : Option Span

/-- An attribute of an element or a component. -/
structure Attr where
  name : String
  value : Node
  loc : Option Span

/-- The invocation of a custom element, with a program as its content. -/
structure Component where
  tag : String
  attributes : List Attr
  program : Program
  loc : Option Span

/-- A path applied to positional and named arguments. -/
structure Expression where
  path : Path
  params : List Node
  hash : List Pair

/-- A named argument. Names may repeat. -/
structure Pair where
  key : String
  value : Node

/-- An expression whose value is shown. -/
structure Mustache where
  expression : Expression
  escaped : Bool
  strip : Directives
  loc : Option Span

/-- An expression that governs a program, and another one for when it fails. -/
structure Block where
  expression : Expression
  program : Program
  inverse : Option Program
  openStrip : Directives
  closeStrip : Directives
  loc : Option Span

/-- An expression inside another one. -/
structure SubExpression where
  expression : Expression
  loc : Option Span

end

/-- Named arguments, in the order in which they are written. -/
abbrev Hash := List Pair

/-- An expression that passes an argument is a helper call; a bare path is not. -/
def Expression.hasArguments (e : Expression) : Bool :=
  !e.params.isEmpty || !e.hash.isEmpty

/-- A tag with a dash names a component. -/
def isCustomTag (tag : String) : Bool :=
  tag.toList.contains '-'

namespace Node

/-- The kinds of node. -/
inductive Kind where
  | program
  | element
  | component
  | text
  | mustache
  | block
  | comment
  | concat
  | subExpression
  | path
  | string
  | number
  | boolean
deriving DecidableEq

namespace Kind

/-- All kinds. -/
def all : List Kind :=
  [program, element, component, text, mustache, block, comment, concat, subExpression, path,
   string, number, boolean]

/-- The name of a kind, in messages and in the JSON form of a node. -/
def name : Kind → String
  | program => "Program"
  | element => "ElementNode"
  | component => "ComponentNode"
  | text => "TextNode"
  | mustache => "MustacheStatement"
  | block => "BlockStatement"
  | comment => "CommentStatement"
  | concat => "ConcatStatement"
  | subExpression => "SubExpression"
  | path => "PathExpression"
  | string => "StringLiteral"
  | number => "NumberLiteral"
  | boolean => "BooleanLiteral"

/-- The kind of that name. -/
def ofName? (text : String) : Option Kind :=
  all.find? fun kind => kind.name == text

end Kind

/-- The kind of a node. -/
def kind : Node → Kind
  | program _ => .program
  | element _ => .element
  | component _ => .component
  | text .. => .text
  | mustache _ => .mustache
  | block _ => .block
  | comment .. => .comment
  | concat .. => .concat
  | subExpression _ => .subExpression
  | path _ => .path
  | string .. => .string
  | number .. => .number
  | boolean .. => .boolean

/-- The place of a node in the source. -/
def loc : Node → Option Span
  | program p => p.loc
  | element e => e.loc
  | component c => c.loc
  | text _ loc => loc
  | mustache m => m.loc
  | block b => b.loc
  | comment _ loc => loc
  | concat _ loc => loc
  | subExpression e => e.loc
  | path p => p.loc
  | string _ loc => loc
  | number _ loc => loc
  | boolean _ loc => loc

/-- The node is a markup element. -/
def isElement : Node → Bool
  | element _ => true
  | _ => false

/-- The node is an element whose tag names a component. -/
def isCustomElement : Node → Bool
  | element e => isCustomTag e.tag
  | _ => false

/-- A live node renders as a binding point; two of them may not stand side by
side. -/
def isLive : Node → Bool
  | mustache _ => true
  | block _ => true
  | component _ => true
  | _ => false

/-- The characters of a text node. -/
def chars? : Node → Option String
  | text chars _ => some chars
  | _ => none

/-- The node is a text without characters. -/
def isEmptyText : Node → Bool
  | text chars _ => chars.isEmpty
  | _ => false

/-- The directives that face the neighbours: `left` the previous sibling, `right`
the next one. A block faces them with the outer side of its two tags. -/
def facing : Node → Directives
  | mustache m => m.strip
  | block b => (b.openStrip.inter .left).union (b.closeStrip.inter .right)
  | _ => .empty

/-- The expression of a node that has one. -/
def expression? : Node → Option Expression
  | mustache m => some m.expression
  | block b => some b.expression
  | subExpression e => some e.expression
  | _ => none

/-- A text without characters. -/
def emptyText : Node :=
  text "" none

end Node

end MarkupTemplate
