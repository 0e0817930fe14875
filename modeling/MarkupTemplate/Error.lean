import MarkupTemplate.Call.Frame
import MarkupTemplate.Tree.Basic
/-!
# Compile faults — what can go wrong with one template

A template fault is the author's: the source says something malformed. An
internal fault means that the tree or the operand stack was not what an earlier
pass promises. Either way only the template at hand is lost.
-/

namespace MarkupTemplate

/-- A fault in the source of a template. -/
inductive TemplateFault where
  | malformedParams (params : String) (span : Option Span)
deriving DecidableEq

/-- A broken promise of an earlier pass. -/
inductive InternalFault where
  | childless (kind : Node.Kind)
  | underflow (expected : Call.Frame.Kind) (label : String)
  | mismatch (expected found : Call.Frame.Kind) (label : String)
deriving DecidableEq

/-- The reason why a template is not compiled. -/
inductive CompileFault where
  | template (fault : TemplateFault)
  | internal (fault : InternalFault)
deriving DecidableEq

namespace TemplateFault

/-- The text of a fault. -/
def message : TemplateFault → String
  | malformedParams params span =>
    "Invalid block parameters syntax: '" ++ params ++ "'" ++ Span.clause span

end TemplateFault

namespace InternalFault

/-- The text of a fault. -/
def message : InternalFault → String
  | childless kind =>
    kind.name ++ " has no child sequence; only Program and ElementNode accept children"
  | underflow expected label =>
    "operand stack underflow while reading " ++ expected.description ++ " for " ++ label
  | mismatch expected found label =>
    "operand stack mismatch for " ++ label ++ ": expected " ++ expected.description ++
      ", found " ++ found.description

end InternalFault

namespace CompileFault

/-- The text of a fault, whosever it is. -/
def message : CompileFault → String
  | template fault => fault.message
  | internal fault => fault.message

/-- The fault is not the author's. -/
def isInternal : CompileFault → Bool
  | template _ => false
  | internal _ => true

end CompileFault

end MarkupTemplate
