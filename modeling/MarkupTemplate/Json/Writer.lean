import MarkupTemplate.Json.Basic
import MarkupTemplate.Number.Text
import MarkupTemplate.Text.Quoted
/-!
# Writing JSON — the compact text of a value

Members are written in their order, with no space between tokens. Strings are
quoted literals and doubles carry a point or an exponent, so that a number keeps
its class when it is read again.
-/

namespace MarkupTemplate.Json

mutual

/-- The text of a value; an unreadable part is written as null. -/
def write : Json → String
  | .null => "null"
  | .bool true => "true"
  | .bool false => "false"
  | .int value => toString value
  | .float value => String.ofList value.toText
  | .string value => Text.quote value
  | .array items => "[" ++ writeItems "" items ++ "]"
  | .object members => "\x7b" ++ writeMembers "" members ++ "\x7d"
  | .unreadable => "null"

/-- The items, each behind a separator that is a comma from the second on. -/
def writeItems (separator : String) : List Json → String
  | [] => ""
  | item :: items => separator ++ item.write ++ writeItems "," items

/-- The members, each behind a separator that is a comma from the second on. -/
def writeMembers (separator : String) : List (String × Json) → String
  | [] => ""
  | (key, value) :: members =>
    separator ++ Text.quote key ++ ":" ++ value.write ++ writeMembers "," members

end

end MarkupTemplate.Json
