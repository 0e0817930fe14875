/-!
# Version — which compiler a template was compiled with
-/

namespace MarkupTemplate

/-- The version that code generation stamps into its output. -/
def version : String :=
  "0.1.0"

end MarkupTemplate
