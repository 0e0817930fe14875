/-!
# Configuration — the choices that a compilation is made with

Strip directives are only honoured when `stripping` is on. The concat helper is
the callee that joins the parts of an attribute value.
-/

namespace MarkupTemplate

/-- The choices that a compilation is made with. -/
structure Config where
  stripping : Bool
  concatHelper : String
deriving DecidableEq

/-- Why a configuration is not accepted. -/
inductive ConfigFault where
  | unreadable
  | unnamedConcatHelper
deriving DecidableEq

namespace ConfigFault

/-- The text of a fault. -/
def message : ConfigFault → String
  | unreadable => "invalid compiler configuration"
  | unnamedConcatHelper => "concatHelper must not be empty"

end ConfigFault

namespace Config

/-- Directives are not honoured, and the concat helper is called `concat`. -/
def default : Config :=
  { stripping := false, concatHelper := "concat" }

/-- The configuration with directives honoured or not. -/
def withStripping (config : Config) (stripping : Bool) : Config :=
  { config with stripping }

end Config

end MarkupTemplate
