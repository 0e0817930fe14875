import Mathlib.Data.List.Basic
import MarkupTemplate.Text.Quoted
/-!
# Quoted text — where a literal ends

A backslash opens an escape, unless one is open, and the next character closes it:
`opensEscape` says whether one is open behind some characters. `Written` are the two ways
in which a character stands in a literal, as itself or behind a backslash. In either way
no escape stays open behind it, and a quote in it stands behind an open one. So the body
of a literal ends at the first quote that is not escaped (`quotedBody_append_inj`).
-/

namespace MarkupTemplate.Text

/-- An escape is open behind the characters: they end in a backslash that is not escaped
itself. -/
def opensEscape (front : List Char) : Bool :=
  front.foldl (fun isOpen c => !isOpen && c == '\\') false

/-- The characters of a literal between its quotes. -/
def quotedBody (cs : List Char) : List Char :=
  cs.flatMap quotedChar

/-- **How a character is written**: as itself, or as a backslash with some characters
behind it, of which only the first can be a quote or a backslash. -/
inductive Written (c : Char) : List Char → Prop
  | plain : c ≠ '"' → c ≠ '\\' → 0x20 ≤ c.toNat → Written c [c]
  | escaped {e : Char} {rest : List Char} : 0x20 ≤ e.toNat →
      (∀ d ∈ rest, d ≠ '"' ∧ d ≠ '\\' ∧ 0x20 ≤ d.toNat) → Written c ('\\' :: e :: rest)

variable {c : Char} {written front back cs ds x y : List Char}

/-! ## One character -/

/-- A hexadecimal digit is no quote, no backslash and no control character. -/
theorem digitChar_ne : ∀ d < 16, Nat.digitChar d ≠ '"' ∧ Nat.digitChar d ≠ '\\' ∧
    0x20 ≤ (Nat.digitChar d).toNat := by
  decide

/-- **Every character is written in one of the two ways.** -/
theorem written_quotedChar (c : Char) : Written c (quotedChar c) := by
  unfold quotedChar
  split
  case h_8 hquote hbackslash _ _ _ _ _ =>
    by_cases hcontrol : c.toNat < 0x20
    · rw [if_pos hcontrol]
      refine .escaped (by decide) fun d hd => ?_
      have hdigit : ∃ n < 16, d = Nat.digitChar n := by
        simp only [List.mem_cons, List.not_mem_nil, or_false] at hd
        rcases hd with rfl | rfl | rfl | rfl
        · exact ⟨0, by omega, rfl⟩
        · exact ⟨0, by omega, rfl⟩
        · exact ⟨_, Nat.mod_lt _ (by omega), rfl⟩
        · exact ⟨_, Nat.mod_lt _ (by omega), rfl⟩
      obtain ⟨n, hn, rfl⟩ := hdigit
      exact digitChar_ne n hn
    · rw [if_neg hcontrol]
      exact .plain hquote hbackslash (Nat.le_of_not_lt hcontrol)
  all_goals exact .escaped (by decide) nofun

/-- No control character is left. -/
theorem Written.le_toNat (h : Written c written) : ∀ d ∈ written, 0x20 ≤ d.toNat := by
  cases h with
  | plain _ _ hc =>
    intro d hd
    rwa [List.mem_singleton.mp hd]
  | escaped he hrest =>
    intro d hd
    rcases List.mem_cons.mp hd with rfl | hd
    · decide
    · rcases List.mem_cons.mp hd with rfl | hd
      · exact he
      · exact (hrest d hd).2.2

/-- Without a backslash no escape is opened. -/
theorem foldl_of_not_mem (h : '\\' ∉ cs) :
    cs.foldl (fun isOpen c => !isOpen && c == '\\') false = false := by
  induction cs with
  | nil => rfl
  | cons c cs ih =>
    rw [List.mem_cons, not_or] at h
    have hc : (c == '\\') = false := by simpa using Ne.symm h.1
    rw [List.foldl_cons, hc]
    exact ih h.2

/-- No escape stays open behind a character that is written. -/
theorem Written.opensEscape_eq_false (h : Written c written) : opensEscape written = false := by
  cases h with
  | plain _ hbackslash _ =>
    refine foldl_of_not_mem ?_
    simpa using hbackslash.symm
  | @escaped e rest _ hrest =>
    -- the first character behind the backslash closes the escape
    have hclosed : opensEscape ('\\' :: e :: rest) =
        rest.foldl (fun isOpen c => !isOpen && c == '\\') false := rfl
    rw [hclosed]
    exact foldl_of_not_mem fun hmem => (hrest '\\' hmem).2.1 rfl

/-- A quote in it is escaped. -/
theorem Written.opensEscape_of_eq (h : Written c (front ++ '"' :: back)) :
    opensEscape front = true := by
  generalize hwritten : front ++ '"' :: back = written at h
  cases h with
  | plain hquote _ _ =>
    have hmem : '"' ∈ [c] := hwritten ▸ List.mem_append_right front List.mem_cons_self
    exact absurd (List.mem_singleton.mp hmem).symm hquote
  | @escaped e rest _ hrest =>
    match front with
    | [] => cases hwritten
    | [first] =>
      obtain ⟨rfl, -⟩ := List.cons.inj hwritten
      rfl
    | first :: second :: front =>
      -- no quote stands behind the escaped character
      have hmem : '"' ∈ rest := by
        obtain ⟨-, htail⟩ := List.cons.inj hwritten
        obtain ⟨-, htail⟩ := List.cons.inj htail
        rw [← htail]
        exact List.mem_append_right front List.mem_cons_self
      exact absurd rfl (hrest '"' hmem).1

/-! ## The body of a literal -/

theorem opensEscape_append (h : opensEscape front = false) (back : List Char) :
    opensEscape (front ++ back) = opensEscape back := by
  unfold opensEscape at h ⊢
  rw [List.foldl_append, h]

theorem quotedBody_cons (c : Char) (cs : List Char) :
    quotedBody (c :: cs) = quotedChar c ++ quotedBody cs :=
  List.flatMap_cons

/-- **No escape stays open behind the body of a literal.** -/
theorem opensEscape_quotedBody (cs : List Char) : opensEscape (quotedBody cs) = false := by
  induction cs with
  | nil => rfl
  | cons c cs ih =>
    rw [quotedBody_cons, opensEscape_append (written_quotedChar c).opensEscape_eq_false, ih]

/-- **A quote in the body of a literal is escaped.** -/
theorem opensEscape_of_quotedBody_eq (h : quotedBody cs = front ++ '"' :: back) :
    opensEscape front = true := by
  induction cs generalizing front with
  | nil => exact absurd h.symm (List.append_ne_nil_of_right_ne_nil front (List.cons_ne_nil _ _))
  | cons c cs ih =>
    have hclosed := (written_quotedChar c).opensEscape_eq_false
    rw [quotedBody_cons] at h
    rcases List.append_eq_append_iff.mp h with ⟨inner, rfl, hbody⟩ | ⟨inner, hchar, hbody⟩
    · -- the quote is in the rest of the body
      rw [opensEscape_append hclosed]
      exact ih hbody
    · cases inner with
      | nil =>
        -- the rest of the body would begin with a quote
        have hstart : opensEscape [] = true := ih hbody.symm
        cases hstart
      | cons first inner =>
        obtain ⟨rfl, -⟩ := List.cons.inj hbody
        have hwritten := written_quotedChar c
        rw [hchar] at hwritten
        exact hwritten.opensEscape_of_eq

/-- No control character is left in the body of a literal. -/
theorem le_toNat_of_mem_quotedBody (h : c ∈ quotedBody cs) : 0x20 ≤ c.toNat := by
  obtain ⟨d, -, hd⟩ := List.mem_flatMap.mp h
  exact (written_quotedChar d).le_toNat c hd

/-- A body that goes on behind another one does not go on with a quote. -/
theorem eq_nil_of_quotedBody_eq_append {inner : List Char}
    (hbody : quotedBody ds = quotedBody cs ++ inner) (hrest : '"' :: x = inner ++ '"' :: y) :
    inner = [] := by
  cases inner with
  | nil => rfl
  | cons first inner =>
    obtain ⟨rfl, -⟩ := List.cons.inj hrest
    have hopen := opensEscape_of_quotedBody_eq hbody
    rw [opensEscape_quotedBody] at hopen
    cases hopen

/-- **The body of a literal ends at the first quote that is not escaped**, so it is known
from any text that begins with it and that quote. -/
theorem quotedBody_append_inj (h : quotedBody cs ++ '"' :: x = quotedBody ds ++ '"' :: y) :
    quotedBody cs = quotedBody ds ∧ x = y := by
  rcases List.append_eq_append_iff.mp h with ⟨inner, hbody, hrest⟩ | ⟨inner, hbody, hrest⟩
  · obtain rfl := eq_nil_of_quotedBody_eq_append hbody hrest
    rw [List.append_nil] at hbody
    exact ⟨hbody.symm, (List.cons.inj hrest).2⟩
  · obtain rfl := eq_nil_of_quotedBody_eq_append hbody hrest
    rw [List.append_nil] at hbody
    exact ⟨hbody, (List.cons.inj hrest).2.symm⟩

end MarkupTemplate.Text
