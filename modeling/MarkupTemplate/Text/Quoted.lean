/-!
# Quoted text — the string literal of a character sequence

A literal stands between double quotes. Inside, the quote and the backslash
are escaped, the five control characters with a short escape use it, the
other control characters are written as four hexadecimal digits, and every
other character stands for itself.
-/

namespace MarkupTemplate.Text

/-- The lower-case hexadecimal digit of a number below sixteen. -/
def hexDigit (n : Nat) : Char :=
  Nat.digitChar (n % 16)

/-- How one character is written inside a literal. -/
def quotedChar (c : Char) : List Char :=
  match c with
  | '"' => ['\\', '"']
  | '\\' => ['\\', '\\']
  | '\x08' => ['\\', 'b']
  | '\x0c' => ['\\', 'f']
  | '\n' => ['\\', 'n']
  | '\r' => ['\\', 'r']
  | '\t' => ['\\', 't']
  | c =>
    if c.toNat < 0x20 then
      ['\\', 'u', '0', '0', hexDigit (c.toNat / 16), hexDigit c.toNat]
    else
      [c]

/-- The characters of the literal, quotes included. -/
def quotedList (cs : List Char) : List Char :=
  '"' :: (cs.flatMap quotedChar ++ ['"'])

/-- The literal of a text. -/
def quote (s : String) : String :=
  String.ofList (quotedList s.toList)

@[simp]
theorem toList_quote (s : String) : (quote s).toList = quotedList s.toList := by
  simp [quote]

end MarkupTemplate.Text
