import MarkupTemplate.Config
import MarkupTemplate.Tree.Build
/-!
# Component arguments — attributes as named arguments

Each attribute of a component becomes one named argument. A subexpression is
passed as it is and a text as a string; anything else becomes a call of the
concat helper.
-/

namespace MarkupTemplate

/-- A call of the concat helper. -/
def concatCall (config : Config) (parts : List Node) : Node :=
  .subExpression (.build (.ofText config.concatHelper) parts [])

namespace Node

/-- An attribute value as an argument. -/
def toArgument (config : Config) (value : Node) : Node :=
  match value with
  | subExpression e => .subExpression e
  | text chars _ => .ofString chars
  | concat parts _ => concatCall config parts
  | other => concatCall config [other]

end Node

namespace Hash

/-- The named arguments that attributes stand for. -/
def ofAttributes (config : Config) (attributes : List Attr) : Hash :=
  attributes.map fun attr => { key := attr.name, value := attr.value.toArgument config }

end Hash

namespace Component

/-- The attributes of a component as named arguments. -/
def arguments (config : Config) (component : Component) : Hash :=
  .ofAttributes config component.attributes

end Component

end MarkupTemplate
