import MarkupTemplate.Json.Fields
/-!
# Spans — places in a template's text

A span runs from a start to a stop and may name the template it lies in. Spans
are carried along and shown in messages; nothing is computed from them but the
span that covers two.
-/

namespace MarkupTemplate

/-- A line and a column. -/
structure Location where
  line : UInt64
  column : UInt64
deriving DecidableEq

/-- The text from one location to another, in a named source where the name is
known. -/
structure Span where
  start : Location
  stop : Location
  source : Option String
deriving DecidableEq

namespace Location

/-- A location is shown as `line:column`. -/
def toText (l : Location) : String :=
  toString l.line ++ ":" ++ toString l.column

end Location

namespace Span

/-- The span in the source of that name. -/
def inSource (span : Span) (source : String) : Span :=
  { span with source := some source }

/-- From the start of one span to the stop of another, in the source of the first. -/
def through (first last : Span) : Span :=
  { first with stop := last.stop }

/-- A span is shown as `source@start-stop`, or as `start-stop` without a source. -/
def toText (span : Span) : String :=
  let range := span.start.toText ++ "-" ++ span.stop.toText
  match span.source with
  | some source => source ++ "@" ++ range
  | none => range

/-- The end of a message that tells where; it is empty where no span is known. -/
def clause : Option Span → String
  | some span => " (at " ++ span.toText ++ ")"
  | none => ""

end Span

end MarkupTemplate
