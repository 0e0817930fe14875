import Mathlib.Data.List.DropRight
import MarkupTemplate.Text.Blank
/-!
# Trimmed texts — what is left at the two ends

`startsBlank` and `endsBlank` say whether there is a blank at an end of a text. A
trimmed end has none, an end without one is left alone by trimming, and trimming at
the back exposes nothing at the front. So a text that was trimmed at one end or at
both is not changed by trimming it there again.
-/

namespace MarkupTemplate.Text

/-- The text begins with a blank. -/
def startsBlank (s : String) : Bool :=
  s.toList.head?.any isBlank

/-- The text ends in a blank. -/
def endsBlank (s : String) : Bool :=
  s.toList.getLast?.any isBlank

variable {s : String} {cs : List Char}

/-! ## Characters -/

/-- Dropping stops at a character that is not blank. -/
theorem head?_dropBlankStart (cs : List Char) :
    (dropBlankStart cs).head?.any isBlank = false := by
  have h := List.head?_dropWhile_not isBlank cs
  unfold dropBlankStart
  cases hfirst : (cs.dropWhile isBlank).head? with
  | none => rfl
  | some c => simpa [hfirst] using h

/-- Without a blank at the front nothing is dropped there. -/
theorem dropBlankStart_eq_self (h : cs.head?.any isBlank = false) : dropBlankStart cs = cs := by
  cases cs with
  | nil => rfl
  | cons c _ => exact List.dropWhile_cons_of_neg (by simpa using h)

/-- The back of a text is the front of its reverse. -/
theorem reverse_dropBlankEnd (cs : List Char) :
    (dropBlankEnd cs).reverse = dropBlankStart cs.reverse := by
  rw [dropBlankEnd, List.reverse_reverse, dropBlankStart]

/-- Dropping at the back stops at a character that is not blank. -/
theorem getLast?_dropBlankEnd (cs : List Char) :
    (dropBlankEnd cs).getLast?.any isBlank = false := by
  rw [← List.head?_reverse, reverse_dropBlankEnd]
  exact head?_dropBlankStart cs.reverse

/-- Without a blank at the back nothing is dropped there. -/
theorem dropBlankEnd_eq_self (h : cs.getLast?.any isBlank = false) : dropBlankEnd cs = cs := by
  have hreverse : dropBlankStart cs.reverse = cs.reverse :=
    dropBlankStart_eq_self (by rwa [List.head?_reverse])
  rw [← List.reverse_inj, reverse_dropBlankEnd, hreverse]

/-- What is dropped at the back leaves the front as it was. -/
theorem head?_dropBlankEnd (h : cs.head?.any isBlank = false) :
    (dropBlankEnd cs).head?.any isBlank = false := by
  obtain ⟨dropped, hdropped⟩ : dropBlankEnd cs <+: cs := List.rdropWhile_prefix isBlank cs
  cases hkept : dropBlankEnd cs with
  | nil => rfl
  | cons c _ =>
    rw [← hdropped, hkept] at h
    exact h

/-! ## Texts -/

/-- A text that is trimmed at the front does not begin with a blank. -/
theorem startsBlank_trimStart (s : String) : startsBlank (trimStart s) = false := by
  rw [startsBlank, toList_trimStart]
  exact head?_dropBlankStart s.toList

/-- A text that is trimmed at the back does not end in a blank. -/
theorem endsBlank_trimEnd (s : String) : endsBlank (trimEnd s) = false := by
  rw [endsBlank, toList_trimEnd]
  exact getLast?_dropBlankEnd s.toList

/-- Trimming at the back exposes no blank at the front. -/
theorem startsBlank_trimEnd (h : startsBlank s = false) : startsBlank (trimEnd s) = false := by
  rw [startsBlank, toList_trimEnd]
  exact head?_dropBlankEnd h

/-- A text that does not begin with a blank has nothing to trim there. -/
theorem trimStart_eq_self (h : startsBlank s = false) : trimStart s = s := by
  rw [trimStart, dropBlankStart_eq_self h, String.ofList_toList]

/-- A text that does not end in a blank has nothing to trim there. -/
theorem trimEnd_eq_self (h : endsBlank s = false) : trimEnd s = s := by
  rw [trimEnd, dropBlankEnd_eq_self h, String.ofList_toList]

end MarkupTemplate.Text
