import MarkupTemplate.Text.Quoted
/-!
# Literals — arguments as source text

The arguments of a call are source text in the target language: one literal for
the positional ones, and one for the named ones. How a literal is put together is
open; `script` is the usual way.
-/

namespace MarkupTemplate.Call

/-- A way to write lists of items and of entries. -/
structure Literals where
  array : List String → String
  object : List (String × String) → String

namespace Literals

/-- One entry of an object literal: the quoted key, and the value as it stands. -/
def scriptEntry (entry : String × String) : String :=
  Text.quote entry.1 ++ ":" ++ entry.2

/-- Script literals: items between brackets, entries between braces. -/
def script : Literals where
  array items := "[" ++ ", ".intercalate items ++ "]"
  object entries := "\x7b" ++ ", ".intercalate (entries.map scriptEntry) ++ "\x7d"

end Literals

end MarkupTemplate.Call
