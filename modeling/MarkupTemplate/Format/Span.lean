import MarkupTemplate.Span
/-!
# The JSON form of spans

A location has the fields `line` and `column`, a span `start`, `end` and
`source`.
-/

namespace MarkupTemplate

namespace Location

/-- The JSON form of a location. -/
def encode (l : Location) : Json :=
  .object [("line", .ofUInt64 l.line), ("column", .ofUInt64 l.column)]

/-- Read a location from its JSON form. -/
def decode? (json : Json) : Option Location := do
  let fields ← json.toMembers?
  pure
    { line := ← requiredField? "line" Json.toUInt64? fields
      column := ← requiredField? "column" Json.toUInt64? fields }

end Location

namespace Span

/-- The JSON form of a span. -/
def encode (span : Span) : Json :=
  .object
    [("start", span.start.encode), ("end", span.stop.encode),
     ("source", .ofOption .string span.source)]

/-- Read a span from its JSON form. -/
def decode? (json : Json) : Option Span := do
  let fields ← json.toMembers?
  pure
    { start := ← requiredField? "start" Location.decode? fields
      stop := ← requiredField? "end" Location.decode? fields
      source := ← optionalField? "source" none (Json.toOption? Json.toString?) fields }

end Span

end MarkupTemplate
