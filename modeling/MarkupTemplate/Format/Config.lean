import MarkupTemplate.Config
import MarkupTemplate.Json.Fields
import MarkupTemplate.Json.Reader
/-!
# The JSON form of configurations

Both fields have defaults. A configuration document is checked as well: the
concat helper has to have a name.
-/

namespace MarkupTemplate

/-- Whether directives are honoured, as a word. -/
def encodeStripping (stripping : Bool) : Json :=
  .string (if stripping then "enabled" else "disabled")

/-- Read whether directives are honoured. -/
def decodeStripping? (json : Json) : Option Bool := do
  match ← json.toString? with
  | "enabled" => some true
  | "disabled" => some false
  | _ => none

namespace Config

/-- The JSON form of a configuration. -/
def encode (config : Config) : Json :=
  .object
    [("whitespace", encodeStripping config.stripping),
     ("concatHelper", .string config.concatHelper)]

/-- Read a configuration from its JSON form. -/
def decode? (json : Json) : Option Config := do
  let fields ← json.toMembers?
  pure
    { stripping := ← optionalField? "whitespace" default.stripping decodeStripping? fields
      concatHelper := ← optionalField? "concatHelper" default.concatHelper Json.toString? fields }

/-- The configuration that a document spells. -/
def ofDocument (text : String) : Except ConfigFault Config :=
  match (Json.read? text).bind decode? with
  | none => .error .unreadable
  | some config =>
    if config.concatHelper.isEmpty then .error .unnamedConcatHelper else .ok config

end Config

end MarkupTemplate
