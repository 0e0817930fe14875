import MarkupTemplate.Proofs.Text.Search
import MarkupTemplate.Proofs.Text.Trim
/-!
# Edges — the blanks at the two ends of a text

Trimming at an end takes off all blanks there and nothing else, and what is left is known
from that (`cutAtStart_iff`, `cutAtEnd_iff`). It is also what is left without the first
match of a pattern. At the start a match is as long as the blanks there, since it is
greedy. At the end the pattern is not tied to where it starts, and the match is as long as
the blanks because it is leftmost: one that started among them would have another one in
front of it. The two ends do not meet unless all of the text is blank, so trimming one of
them does not depend on whether the other one is trimmed (`trimStart_trimEnd`).
-/

namespace MarkupTemplate.Text

/-- The blanks at the start of a text. -/
def leadingBlanks : List Atom :=
  [.textStart, .run isBlank]

/-- The blanks at the end of a text. -/
def trailingBlanks : List Atom :=
  [.run isBlank, .textEnd]

/-- The text has no other characters than blanks. -/
def AllBlank (s : String) : Prop :=
  ∀ c ∈ s.toList, isBlank c = true

/-- **All blanks at the start are cut off**, and nothing else: no blank begins what is
left. -/
def CutAtStart (s rest : String) : Prop :=
  ∃ blanks, AllBlank blanks ∧ s = blanks ++ rest ∧ startsBlank rest = false

/-- **All blanks at the end are cut off**, and nothing else: no blank ends what is left. -/
def CutAtEnd (s rest : String) : Prop :=
  ∃ blanks, AllBlank blanks ∧ s = rest ++ blanks ∧ endsBlank rest = false

/-- **Two trims, one for each end**: each cuts off the blanks at its end and is known from
that, they can be made in either order, and a second time they change nothing. -/
structure TrimsEdges (atStart atEnd : String → String) : Prop where
  cutAtStart_iff : ∀ s rest, CutAtStart s rest ↔ rest = atStart s
  cutAtEnd_iff : ∀ s rest, CutAtEnd s rest ↔ rest = atEnd s
  comm : ∀ s, atStart (atEnd s) = atEnd (atStart s)
  atStart_atStart : ∀ s, atStart (atStart s) = atStart s
  atEnd_atEnd : ∀ s, atEnd (atEnd s) = atEnd s

variable {s rest : String} {cs left : List Char} {i k : Nat} {m : Match}
variable {find : List Atom → List Char → Option Match}

/-! ## What is cut off -/

/-- **What is left at the front** is known from having lost blanks alone, and no blank being
first. -/
theorem dropBlankStart_eq_iff : dropBlankStart cs = left ↔
    ∃ blanks, (∀ c ∈ blanks, isBlank c = true) ∧ cs = blanks ++ left ∧
      left.head?.any isBlank = false := by
  constructor
  · rintro rfl
    exact ⟨cs.takeWhile isBlank, fun c hc => List.mem_takeWhile_imp hc,
      List.takeWhile_append_dropWhile.symm, head?_dropBlankStart cs⟩
  · rintro ⟨blanks, hblanks, rfl, hleft⟩
    calc dropBlankStart (blanks ++ left)
        = dropBlankStart left := List.dropWhile_append_of_pos hblanks
      _ = left := dropBlankStart_eq_self hleft

/-- **So is what is left at the back.** -/
theorem dropBlankEnd_eq_iff : dropBlankEnd cs = left ↔
    ∃ blanks, (∀ c ∈ blanks, isBlank c = true) ∧ cs = left ++ blanks ∧
      left.getLast?.any isBlank = false := by
  rw [← List.reverse_inj, reverse_dropBlankEnd, dropBlankStart_eq_iff, List.head?_reverse]
  constructor
  · rintro ⟨blanks, hblanks, hcs, hleft⟩
    refine ⟨blanks.reverse, by simpa using hblanks, ?_, hleft⟩
    rw [← List.reverse_inj, hcs, List.reverse_append, List.reverse_reverse]
  · rintro ⟨blanks, hblanks, rfl, hleft⟩
    exact ⟨blanks.reverse, by simpa using hblanks, List.reverse_append, hleft⟩

/-- Blanks in a text are the characters of a blank text. -/
theorem exists_allBlank_iff (P : List Char → Prop) :
    (∃ blanks, AllBlank blanks ∧ P blanks.toList) ↔
      ∃ blanks, (∀ c ∈ blanks, isBlank c = true) ∧ P blanks := by
  constructor
  · rintro ⟨blanks, hblanks, hP⟩
    exact ⟨blanks.toList, hblanks, hP⟩
  · rintro ⟨blanks, hblanks, hP⟩
    exact ⟨String.ofList blanks, by simpa [AllBlank] using hblanks, by simpa using hP⟩

/-- **Trimming at the start cuts off the blanks there**, and leaves the only text that can
be left. -/
theorem cutAtStart_iff : CutAtStart s rest ↔ rest = trimStart s := by
  rw [← String.toList_inj, toList_trimStart, eq_comm, dropBlankStart_eq_iff]
  simp only [CutAtStart, ← String.toList_inj, String.toList_append]
  exact exists_allBlank_iff fun blanks =>
    s.toList = blanks ++ rest.toList ∧ startsBlank rest = false

/-- **Trimming at the end** does the same there. -/
theorem cutAtEnd_iff : CutAtEnd s rest ↔ rest = trimEnd s := by
  rw [← String.toList_inj, toList_trimEnd, eq_comm, dropBlankEnd_eq_iff]
  simp only [CutAtEnd, ← String.toList_inj, String.toList_append]
  exact exists_allBlank_iff fun blanks =>
    s.toList = rest.toList ++ blanks ∧ endsBlank rest = false

/-! ## The search for blanks -/

/-- At the start, any number of the blanks there match. -/
theorem spans_leadingBlanks_iff : Spans cs leadingBlanks i k ↔
    i = 0 ∧ 0 < k ∧ k ≤ cs.length ∧ ∀ c ∈ cs.take k, isBlank c = true := by
  constructor
  · rintro ⟨_, ⟨rfl, rfl⟩, _, hrun, rfl, -⟩
    exact ⟨rfl, hrun⟩
  · rintro ⟨rfl, hrun⟩
    exact ⟨0, ⟨rfl, rfl⟩, k, hrun, rfl, hrun.2.1⟩

/-- So they do at the end. -/
theorem spans_trailingBlanks_iff : Spans cs trailingBlanks i k ↔
    k = cs.length ∧ i < k ∧ ∀ c ∈ cs.drop i, isBlank c = true := by
  constructor
  · rintro ⟨_, hrun, _, ⟨rfl, rfl⟩, rfl, -⟩
    have hblanks := hrun.2.2
    rw [List.take_length] at hblanks
    exact ⟨rfl, hrun.1, hblanks⟩
  · rintro ⟨rfl, hi, hblanks⟩
    refine ⟨cs.length, ⟨hi, le_rfl, ?_⟩, cs.length, ⟨rfl, rfl⟩, rfl, le_rfl⟩
    rwa [List.take_length]

/-- **At the start the longest match** leaves no blank in front. -/
theorem rest_of_isFirst_leadingBlanks (h : m.IsFirst leadingBlanks cs) :
    m.rest cs = dropBlankStart cs := by
  obtain ⟨i, k⟩ := m
  obtain ⟨rfl, hk, hle, hblanks⟩ := spans_leadingBlanks_iff.mp h.spans
  have hrest : Match.rest ⟨0, k⟩ cs = cs.drop k := rfl
  rw [hrest, eq_comm, dropBlankStart_eq_iff]
  refine ⟨cs.take k, hblanks, (List.take_append_drop k cs).symm, ?_⟩
  by_cases hend : k < cs.length
  · -- with a blank behind it the match would be longer
    rw [List.drop_eq_getElem_cons hend, List.head?_cons, Option.any_some, ← Bool.not_eq_true]
    intro hblank
    have hlonger : Spans cs leadingBlanks 0 (k + 1) := by
      refine spans_leadingBlanks_iff.mpr ⟨rfl, Nat.succ_pos k, hend, ?_⟩
      rw [List.take_succ_eq_append_getElem hend]
      exact List.forall_mem_append.mpr ⟨hblanks, by simpa using hblank⟩
    exact Nat.not_succ_le_self k (h.greedy (k + 1) hlonger)
  · rw [List.drop_of_length_le (Nat.le_of_not_lt hend)]
    rfl

/-- **At the end the leftmost match** leaves no blank behind. -/
theorem rest_of_isFirst_trailingBlanks (h : m.IsFirst trailingBlanks cs) :
    m.rest cs = dropBlankEnd cs := by
  obtain ⟨i, k⟩ := m
  obtain ⟨rfl, hi, hblanks⟩ := spans_trailingBlanks_iff.mp h.spans
  have hrest : Match.rest ⟨i, cs.length⟩ cs = cs.take i := by simp [Match.rest]
  rw [hrest, eq_comm, dropBlankEnd_eq_iff]
  refine ⟨cs.drop i, hblanks, (List.take_append_drop i cs).symm, ?_⟩
  cases i with
  | zero => rfl
  | succ i =>
    -- with a blank in front of it the match would start there
    have hlt : i < cs.length := Nat.lt_of_succ_lt hi
    rw [List.take_succ_eq_append_getElem hlt, List.getLast?_concat, Option.any_some,
      ← Bool.not_eq_true]
    intro hblank
    have hearlier : Spans cs trailingBlanks i cs.length := by
      refine spans_trailingBlanks_iff.mpr ⟨rfl, hlt, ?_⟩
      rw [List.drop_eq_getElem_cons hlt]
      exact List.forall_mem_cons.mpr ⟨hblank, hblanks⟩
    exact Nat.not_succ_le_self i (h.leftmost i _ hearlier)

/-- A text that begins with a blank has some there to be found. -/
theorem dropBlankStart_of_not_spans (h : ∀ i k, ¬ Spans cs leadingBlanks i k) :
    dropBlankStart cs = cs := by
  refine dropBlankStart_eq_self ?_
  cases cs with
  | nil => rfl
  | cons c cs =>
    rw [List.head?_cons, Option.any_some, ← Bool.not_eq_true]
    intro hblank
    refine h 0 1 (spans_leadingBlanks_iff.mpr ⟨rfl, Nat.one_pos, ?_, ?_⟩)
    · exact Nat.succ_pos cs.length
    · simpa using hblank

/-- So has one that ends in a blank. -/
theorem dropBlankEnd_of_not_spans (h : ∀ i k, ¬ Spans cs trailingBlanks i k) :
    dropBlankEnd cs = cs := by
  refine dropBlankEnd_eq_self ?_
  rcases List.eq_nil_or_concat' cs with rfl | ⟨front, c, rfl⟩
  · rfl
  · rw [List.getLast?_concat, Option.any_some, ← Bool.not_eq_true]
    intro hblank
    refine h front.length _ (spans_trailingBlanks_iff.mpr ⟨rfl, ?_, ?_⟩)
    · simp
    · simpa using hblank

/-- **Trimming at the start is taking out the first match** of the blanks there, whatever
search finds it. -/
theorem removeFound_leadingBlanks (h : LeftmostGreedy find) (s : String) :
    removeFound find leadingBlanks s = trimStart s :=
  removeFound_eq h (fun _ hfirst => rest_of_isFirst_leadingBlanks hfirst)
    fun hnone => (dropBlankStart_of_not_spans hnone).symm

/-- **So is trimming at the end.** -/
theorem removeFound_trailingBlanks (h : LeftmostGreedy find) (s : String) :
    removeFound find trailingBlanks s = trimEnd s :=
  removeFound_eq h (fun _ hfirst => rest_of_isFirst_trailingBlanks hfirst)
    fun hnone => (dropBlankEnd_of_not_spans hnone).symm

/-! ## Both ends -/

/-- Of a text that does not begin with a blank, the same is dropped at the back whatever
stands in front of it. -/
theorem dropBlankEnd_append (front : List Char) (hleft : left ≠ [])
    (h : left.head?.any isBlank = false) :
    dropBlankEnd (front ++ left) = front ++ dropBlankEnd left := by
  obtain ⟨dropped, hdropped, hsplit, hlast⟩ := dropBlankEnd_eq_iff.mp (rfl : dropBlankEnd left = _)
  refine dropBlankEnd_eq_iff.mpr ⟨dropped, hdropped, ?_, ?_⟩
  · rw [List.append_assoc, ← hsplit]
  · -- the first character is no blank, so it stays
    have hkept : dropBlankEnd left ≠ [] := by
      intro hnil
      obtain ⟨c, rest, rfl⟩ := List.exists_cons_of_ne_nil hleft
      rw [hnil, List.nil_append] at hsplit
      have hblank : isBlank c = true := hdropped c (hsplit ▸ List.mem_cons_self)
      rw [List.head?_cons, Option.any_some, hblank] at h
      cases h
    rwa [List.getLast?_append_of_ne_nil _ hkept]

/-- **The ends do not depend on each other.** Where all is blank either one takes
everything; elsewhere the blanks at the front are still the ones there when those at the
back are gone. -/
theorem dropBlankStart_dropBlankEnd (cs : List Char) :
    dropBlankStart (dropBlankEnd cs) = dropBlankEnd (dropBlankStart cs) := by
  obtain ⟨blanks, hblanks, hcs, hhead⟩ := dropBlankStart_eq_iff.mp (rfl : dropBlankStart cs = _)
  by_cases hnil : dropBlankStart cs = []
  · rw [hnil, List.append_nil] at hcs
    have hend : dropBlankEnd cs = [] :=
      dropBlankEnd_eq_iff.mpr ⟨cs, hcs ▸ hblanks, (List.nil_append cs).symm, rfl⟩
    rw [hnil, hend]
    rfl
  · refine dropBlankStart_eq_iff.mpr ⟨blanks, hblanks, ?_, head?_dropBlankEnd hhead⟩
    rw [← dropBlankEnd_append blanks hnil hhead, ← hcs]

/-- **The order of the trims does not matter.** -/
theorem trimStart_trimEnd (s : String) : trimStart (trimEnd s) = trimEnd (trimStart s) := by
  rw [← String.toList_inj]
  simp only [toList_trimStart, toList_trimEnd]
  exact dropBlankStart_dropBlankEnd s.toList

/-- **The trims of the library** are two such trims. -/
theorem trimsEdges : TrimsEdges trimStart trimEnd where
  cutAtStart_iff _ _ := cutAtStart_iff
  cutAtEnd_iff _ _ := cutAtEnd_iff
  comm := trimStart_trimEnd
  atStart_atStart s := trimStart_eq_self (startsBlank_trimStart s)
  atEnd_atEnd s := trimEnd_eq_self (endsBlank_trimEnd s)

example : trimStart " \n\tfoo  " = "foo  " ∧ trimEnd "  foo \n" = "  foo" := by
  decide

end MarkupTemplate.Text
