import MarkupTemplate.Text.Printable
import MarkupTemplate.Text.Quoted
/-!
# Escaped text — a literal that is safe to show

A literal for messages stands between double quotes. The quote, the backslash and
four control characters have a short escape; every other character that would not
be visible on its own is written as its code point in hexadecimal.
-/

namespace MarkupTemplate.Text

/-- How one character is written in a message. -/
def escapedChar (c : Char) : List Char :=
  match c with
  | '\x00' => ['\\', '0']
  | '\t' => ['\\', 't']
  | '\r' => ['\\', 'r']
  | '\n' => ['\\', 'n']
  | '\\' => ['\\', '\\']
  | '"' => ['\\', '"']
  | c =>
    if isPrintable c then [c]
    else '\\' :: 'u' :: '\x7b' :: (Nat.toDigits 16 c.toNat ++ ['\x7d'])

/-- The literal of a text, as messages show it. -/
def escape (s : String) : String :=
  String.ofList ('"' :: (s.toList.flatMap escapedChar ++ ['"']))

/-- The literals of texts between brackets. -/
def escapeList (texts : List String) : String :=
  "[" ++ ", ".intercalate (texts.map escape) ++ "]"

end MarkupTemplate.Text
