import MarkupTemplate.Json.Token
/-!
# Reading JSON — from a text to its value

The reader is a pushdown machine over the tokens: `startValue` stands before a
value, `endValue` behind one, and the stack holds the containers that are still
open, innermost first. It accepts exactly one value with nothing after it.
-/

namespace MarkupTemplate.Json

/-- A container that is still open, with its finished parts, last first. A key
without a text spells a lone surrogate. -/
inductive OpenContainer where
  | array (items : List Json)
  | object (members : List (Option String × Json)) (key : Option String)

/-- Containers may be nested this deep; a deeper one is unreadable. -/
def maxDepth : Nat :=
  127

/-- A container that has been closed inside the given number of others. -/
def closed (depth : Nat) (value : Json) : Json :=
  if depth < maxDepth then value else .unreadable

/-- The object with the given members, last first; it is unreadable if a key is. -/
def objectOf (members : List (Option String × Json)) : Json :=
  match members.reverse.mapM fun m => m.1.map (·, m.2) with
  | some members => .object members
  | none => .unreadable

/-- The value of a string. -/
def stringOf : Option String → Json
  | some text => .string text
  | none => .unreadable

mutual

/-- Read a value and all that encloses it. -/
def startValue? (stack : List OpenContainer) : List Token → Option Json
  | .scalar value :: rest => endValue? stack value rest
  | .string text :: rest => endValue? stack (stringOf text) rest
  | .openBracket :: .closeBracket :: rest =>
    endValue? stack (closed stack.length (.array [])) rest
  | .openBracket :: rest => startValue? (.array [] :: stack) rest
  | .openBrace :: .closeBrace :: rest =>
    endValue? stack (closed stack.length (.object [])) rest
  | .openBrace :: .string key :: .colon :: rest => startValue? (.object [] key :: stack) rest
  | _ => none

/-- Go on behind a finished value. -/
def endValue? (stack : List OpenContainer) (value : Json) : List Token → Option Json
  | [] => if stack.isEmpty then some value else none
  | .comma :: .string next :: .colon :: rest =>
    match stack with
    | .object members key :: stack =>
      startValue? (.object ((key, value) :: members) next :: stack) rest
    | _ => none
  | .comma :: rest =>
    match stack with
    | .array items :: stack => startValue? (.array (value :: items) :: stack) rest
    | _ => none
  | .closeBracket :: rest =>
    match stack with
    | .array items :: stack =>
      endValue? stack (closed stack.length (.array (value :: items).reverse)) rest
    | _ => none
  | .closeBrace :: rest =>
    match stack with
    | .object members key :: stack =>
      endValue? stack (closed stack.length (objectOf ((key, value) :: members))) rest
    | _ => none
  | _ => none

end

/-- The value of a JSON text. -/
def read? (text : String) : Option Json := do
  startValue? [] (← tokens? text)

end MarkupTemplate.Json
