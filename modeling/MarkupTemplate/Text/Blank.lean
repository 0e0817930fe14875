/-!
# Blank characters — what trimming removes

`isBlank` is the Unicode property White_Space. `trimStart` and `trimEnd`
take the longest blank run off one end of a text and touch nothing else;
each is its list form, `dropBlankStart` or `dropBlankEnd`, read through
`String.toList`.
-/

namespace MarkupTemplate.Text

/-- The code points with the property White_Space, as inclusive ranges in
increasing order. -/
def blankRanges : List (Nat × Nat) :=
  [(0x09, 0x0D), (0x20, 0x20), (0x85, 0x85), (0xA0, 0xA0), (0x1680, 0x1680),
   (0x2000, 0x200A), (0x2028, 0x2029), (0x202F, 0x202F), (0x205F, 0x205F), (0x3000, 0x3000)]

/-- A character is blank when it has the property White_Space. -/
def isBlank (c : Char) : Bool :=
  blankRanges.any fun r => r.1 ≤ c.toNat && c.toNat ≤ r.2

/-- The characters left when the blanks at the front are dropped. -/
def dropBlankStart (cs : List Char) : List Char :=
  cs.dropWhile isBlank

/-- The characters left when the blanks at the back are dropped. -/
def dropBlankEnd (cs : List Char) : List Char :=
  (cs.reverse.dropWhile isBlank).reverse

/-- The text without its leading blanks. -/
def trimStart (s : String) : String :=
  String.ofList (dropBlankStart s.toList)

/-- The text without its trailing blanks. -/
def trimEnd (s : String) : String :=
  String.ofList (dropBlankEnd s.toList)

@[simp]
theorem toList_trimStart (s : String) : (trimStart s).toList = dropBlankStart s.toList := by
  simp [trimStart]

@[simp]
theorem toList_trimEnd (s : String) : (trimEnd s).toList = dropBlankEnd s.toList := by
  simp [trimEnd]

end MarkupTemplate.Text
