import Mathlib.Algebra.GroupWithZero.Nat
import Mathlib.Data.List.Basic
import MarkupTemplate.Component.BlockParams
/-!
# Parameter lists — the names behind `as`, and the words in them

A parameter run is judged by the text that its names make together. `IsParamList` is
the grammar of the names behind `as`, each with the word that it stands for. A closed
text has two bars, and one of them at its end; where a bar opens the first name, these
are the bar that opens the list and the one that closes it, so that all words are free
of bars (`isClosedRun_iff`).
-/

namespace MarkupTemplate

/-- A word without bars. -/
def BarFree (word : String) : Prop :=
  '|' ∉ word.toList

instance (word : String) : Decidable (BarFree word) := by
  unfold BarFree
  infer_instance

/-- How many bars a name has. -/
def bars (name : String) : Nat :=
  name.toList.count '|'

/-- **The names of a parameter list**, with the words that they stand for: a bar opens
the first name and a bar closes the last, which may be the same one. -/
inductive IsParamList : List String → List String → Prop
  | single {word : String} : BarFree word → IsParamList ["|" ++ word ++ "|"] [word]
  | several {first last : String} {middle : List String} :
      BarFree first → (∀ word ∈ middle, BarFree word) → BarFree last →
      IsParamList (("|" ++ first) :: (middle ++ [last ++ "|"])) (first :: (middle ++ [last]))

variable {names words : List String} {word : String}

/-! ## The text of a run -/

/-- Spaces add no bars. -/
theorem count_bar_joined (pieces : List (List Char)) :
    ([' '].intercalate pieces).count '|' = (pieces.map (List.count '|')).sum := by
  induction pieces with
  | nil => rfl
  | cons piece pieces ih =>
    cases pieces with
    | nil => simp
    | cons next more =>
      rw [List.intercalate_cons_cons, List.count_append, List.count_append, ih]
      simp

/-- A joined text ends with a bar if its last piece does; behind an empty one there is
a space. -/
theorem getLast?_joined_iff (front : List (List Char)) (last : List Char) :
    ([' '].intercalate (front ++ [last])).getLast? = some '|' ↔ last.getLast? = some '|' := by
  induction front with
  | nil => simp
  | cons piece front ih =>
    obtain ⟨next, more, hmore⟩ : ∃ next more, front ++ [last] = next :: more :=
      List.exists_cons_of_ne_nil (by simp)
    rw [hmore] at ih
    rw [List.cons_append, hmore, List.intercalate_cons_cons, List.getLast?_append, ← ih]
    cases ([' '].intercalate (next :: more)).getLast? <;> simp

/-- **A text of names is closed** if the last of them ends with a bar and all of them
have two. -/
theorem isClosedRun_joined_iff (front : List String) (last : String) :
    isClosedRun (" ".intercalate (front ++ [last])) = true ↔
      last.toList.getLast? = some '|' ∧ ((front ++ [last]).map bars).sum = 2 := by
  have htext : (" ".intercalate (front ++ [last])).toList =
      [' '].intercalate ((front ++ [last]).map String.toList) := String.toList_intercalate
  rw [isClosedRun, Bool.and_eq_true, beq_iff_eq, beq_iff_eq, htext, count_bar_joined, List.map_map,
    List.map_append, List.map_singleton, getLast?_joined_iff]
  rfl

/-! ## The bars of a name -/

theorem barFree_iff : BarFree word ↔ bars word = 0 :=
  List.count_eq_zero.symm

theorem bars_append (word other : String) : bars (word ++ other) = bars word + bars other := by
  rw [bars, String.toList_append, List.count_append]
  rfl

@[simp]
theorem bars_as : bars "as" = 0 := rfl

@[simp]
theorem bars_opened (word : String) : bars ("|" ++ word) = bars word + 1 := by
  rw [bars_append, Nat.add_comm]
  rfl

@[simp]
theorem bars_closed (word : String) : bars (word ++ "|") = bars word + 1 := by
  rw [bars_append]
  rfl

/-- A name that begins with a bar is a word behind one. -/
theorem exists_opened {name : String} (h : name.toList.head? = some '|') :
    ∃ word, name = "|" ++ word := by
  obtain ⟨cs, hcs⟩ := List.head?_eq_some_iff.mp h
  refine ⟨String.ofList cs, ?_⟩
  simp [← String.toList_inj, hcs]

/-- A name that ends with a bar is a word in front of one. -/
theorem exists_closed {name : String} (h : name.toList.getLast? = some '|') :
    ∃ word, name = word ++ "|" := by
  obtain ⟨cs, hcs⟩ := List.getLast?_eq_some_iff.mp h
  refine ⟨String.ofList cs, ?_⟩
  simp [← String.toList_inj, hcs]

theorem getLast?_closed (word : String) : (word ++ "|").toList.getLast? = some '|' := by
  rw [String.toList_append]
  exact List.getLast?_concat

/-- Names without bars are bar-free. -/
theorem sum_bars_eq_zero_iff : (words.map bars).sum = 0 ↔ ∀ word ∈ words, BarFree word := by
  induction words with
  | nil => simp
  | cons word words ih =>
    rw [List.map_cons, List.sum_cons, Nat.add_eq_zero_iff, ih, ← barFree_iff,
      List.forall_mem_cons]

/-! ## The grammar of a parameter list -/

/-- The text of one name behind `as` is closed if the name is a word between bars. -/
theorem isParamList_of_isClosedRun_single {name : String} (hopens : name.toList.head? = some '|')
    (h : isClosedRun (" ".intercalate ["as", name]) = true) :
    ∃ words, IsParamList [name] words := by
  obtain ⟨hlast, hbars⟩ := (isClosedRun_joined_iff ["as"] name).mp h
  obtain ⟨tail, rfl⟩ := exists_opened hopens
  have hcount : bars tail = 1 := by
    simp only [List.singleton_append, List.map_cons, List.map_nil, List.sum_cons,
      List.sum_nil, bars_opened, bars_as] at hbars
    omega
  -- the bar at the end is another one than the bar at the start
  have htail : tail.toList.getLast? = some '|' := by
    have hne : tail.toList ≠ [] := by
      intro hnil
      rw [bars, hnil] at hcount
      cases hcount
    rwa [String.toList_append, List.getLast?_append_of_ne_nil _ hne] at hlast
  obtain ⟨word, rfl⟩ := exists_closed htail
  rw [bars_closed] at hcount
  have hword : BarFree word := barFree_iff.mpr (by omega)
  rw [← String.append_assoc]
  exact ⟨[word], .single hword⟩

/-- The text of several names behind `as` is closed if the first opens a list that the
last one closes. -/
theorem isParamList_of_isClosedRun_several {name last : String} {middle : List String}
    (hopens : name.toList.head? = some '|')
    (h : isClosedRun (" ".intercalate ("as" :: name :: (middle ++ [last]))) = true) :
    ∃ words, IsParamList (name :: (middle ++ [last])) words := by
  obtain ⟨hlast, hbars⟩ := (isClosedRun_joined_iff ("as" :: name :: middle) last).mp h
  obtain ⟨first, rfl⟩ := exists_opened hopens
  obtain ⟨final, rfl⟩ := exists_closed hlast
  -- the two bars are the one in front and the one at the end
  have hrest : bars first + (middle.map bars).sum + bars final = 0 := by
    simp only [List.cons_append, List.map_cons, List.map_append, List.map_nil, List.sum_cons,
      List.sum_append, List.sum_nil, bars_opened, bars_closed, bars_as] at hbars
    omega
  have hfirst : BarFree first := barFree_iff.mpr (by omega)
  have hmiddle : ∀ word ∈ middle, BarFree word := sum_bars_eq_zero_iff.mp (by omega)
  have hfinal : BarFree final := barFree_iff.mpr (by omega)
  exact ⟨first :: (middle ++ [final]), .several hfirst hmiddle hfinal⟩

/-- The text of a parameter list is closed. -/
theorem IsParamList.isClosedRun (h : IsParamList names words) :
    isClosedRun (" ".intercalate ("as" :: names)) = true := by
  cases h with
  | single hword =>
    refine (isClosedRun_joined_iff ["as"] _).mpr ⟨getLast?_closed _, ?_⟩
    simp [barFree_iff.mp hword]
  | several hfirst hmiddle hlast =>
    refine (isClosedRun_joined_iff ("as" :: _ :: _) _).mpr ⟨getLast?_closed _, ?_⟩
    simp [barFree_iff.mp hfirst, barFree_iff.mp hlast, sum_bars_eq_zero_iff.mpr hmiddle]

/-- **The text of a run is closed exactly where the names behind `as` are a parameter
list.** -/
theorem isClosedRun_iff {name : String} {names : List String}
    (hopens : name.toList.head? = some '|') :
    isClosedRun (" ".intercalate ("as" :: name :: names)) = true ↔
      ∃ words, IsParamList (name :: names) words := by
  constructor
  · intro h
    rcases List.eq_nil_or_concat' names with rfl | ⟨middle, last, rfl⟩
    · exact isParamList_of_isClosedRun_single hopens h
    · exact isParamList_of_isClosedRun_several hopens h
  · rintro ⟨words, h⟩
    exact h.isClosedRun

/-! ## The words of a parameter list -/

theorem withoutBars_append (word other : String) :
    withoutBars (word ++ other) = withoutBars word ++ withoutBars other := by
  simp [withoutBars]

theorem withoutBars_of_barFree (h : BarFree word) : withoutBars word = word := by
  have hchars : word.toList.filter (· != '|') = word.toList :=
    List.filter_eq_self.mpr fun c hc => by
      have hne : c ≠ '|' := fun heq => h (heq ▸ hc)
      simpa using hne
  rw [withoutBars, hchars, String.ofList_toList]

theorem map_withoutBars_of_barFree (h : ∀ word ∈ words, BarFree word) :
    words.map withoutBars = words :=
  (List.map_congr_left fun word hword => withoutBars_of_barFree (h word hword)).trans
    (List.map_id words)

/-- **The names of a parameter list are its words with bars.** -/
theorem IsParamList.map_withoutBars (h : IsParamList names words) :
    names.map withoutBars = words := by
  have hbar : withoutBars "|" = "" := rfl
  cases h with
  | single hword => simp [withoutBars_append, withoutBars_of_barFree hword, hbar]
  | several hfirst hmiddle hlast =>
    simp [withoutBars_append, withoutBars_of_barFree hfirst, withoutBars_of_barFree hlast,
      map_withoutBars_of_barFree hmiddle, hbar]

end MarkupTemplate
