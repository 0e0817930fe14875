import Mathlib.Data.List.DropRight
/-!
# Search — the first match of a pattern

A pattern is a list of atoms, and matches where they match one behind the other: the
start of the text, its end, and runs of characters of a class. Of all matches the first
one starts farthest to the left and, of those that start there, is the longest; a search
that finds it is `LeftmostGreedy`. A pattern has no alternatives, so this is the match
that comes of letting every run take what it can, and give some of it back only where the
atoms behind it do not match: `search` does that, and finds the first match
(`leftmostGreedy_search`). What carries the proof is that of two matches, one inside of
the other, the inner one can be extended to the end of the outer one (`Spans.extend`).
-/

namespace MarkupTemplate.Text

/-- What a pattern asks of the text at one place. -/
inductive Atom where
  /-- Here the text starts. -/
  | textStart
  /-- Here the text ends. -/
  | textEnd
  /-- Here are one or more characters of a class. -/
  | run (inClass : Char → Bool)

/-- **The atom matches** the characters from one place to another. -/
def Atom.Spans (cs : List Char) : Atom → Nat → Nat → Prop
  | textStart, i, j => i = 0 ∧ j = 0
  | textEnd, i, j => i = cs.length ∧ j = cs.length
  | run inClass, i, j => i < j ∧ j ≤ cs.length ∧ ∀ c ∈ (cs.take j).drop i, inClass c = true

/-- **The pattern matches** the characters from one place to another: its atoms do, one
behind the other. -/
def Spans (cs : List Char) : List Atom → Nat → Nat → Prop
  | [], i, k => i = k ∧ k ≤ cs.length
  | atom :: pattern, i, k => ∃ j, atom.Spans cs i j ∧ Spans cs pattern j k

/-- A match is told by where it starts and where it stops. -/
structure Match where
  start : Nat
  stop : Nat

/-- The characters that are left when those of a match are taken out. -/
def Match.rest (m : Match) (cs : List Char) : List Char :=
  cs.take m.start ++ cs.drop m.stop

/-- **The first match**: no other one starts before it, and none that starts where it does
is longer. -/
structure Match.IsFirst (pattern : List Atom) (cs : List Char) (m : Match) : Prop where
  spans : Spans cs pattern m.start m.stop
  leftmost : ∀ i k, Spans cs pattern i k → m.start ≤ i
  greedy : ∀ k, Spans cs pattern m.start k → k ≤ m.stop

/-- **The search finds the first match** of every pattern in every text, and nothing only
where there is none. -/
structure LeftmostGreedy (find : List Atom → List Char → Option Match) : Prop where
  first : ∀ {pattern cs m}, find pattern cs = some m → m.IsFirst pattern cs
  complete : ∀ {pattern cs}, find pattern cs = none → ∀ i k, ¬ Spans cs pattern i k

/-- The text without the match that a search finds. -/
def removeFound (find : List Atom → List Char → Option Match) (pattern : List Atom)
    (s : String) : String :=
  match find pattern s.toList with
  | some m => String.ofList (m.rest s.toList)
  | none => s

/-- The places where an atom can stop, the farthest of them first. -/
def Atom.stops (cs : List Char) (i : Nat) : Atom → List Nat
  | textStart => if i = 0 then [i] else []
  | textEnd => if i = cs.length then [i] else []
  | run inClass => (List.range' (i + 1) ((cs.drop i).takeWhile inClass).length).reverse

/-- Where a match stops that starts at a place: each atom stops as far behind as the ones
behind it allow. -/
def stop? (cs : List Char) : List Atom → Nat → Option Nat
  | [], i => if i ≤ cs.length then some i else none
  | atom :: pattern, i => (atom.stops cs i).findSome? (stop? cs pattern)

/-- The match at the first place where there is one. -/
def search (pattern : List Atom) (cs : List Char) : Option Match :=
  (List.range (cs.length + 1)).findSome? fun i => (stop? cs pattern i).map (Match.mk i)

variable {cs : List Char} {atom : Atom} {pattern : List Atom} {inClass : Char → Bool}
variable {i j k l : Nat}

/-! ## Matches -/

theorem Atom.Spans.le (h : atom.Spans cs i j) : i ≤ j ∧ j ≤ cs.length := by
  cases atom with
  | textStart =>
    obtain ⟨rfl, rfl⟩ := h
    exact ⟨le_rfl, Nat.zero_le _⟩
  | textEnd =>
    obtain ⟨rfl, rfl⟩ := h
    exact ⟨le_rfl, le_rfl⟩
  | run inClass => exact ⟨h.1.le, h.2.1⟩

/-- A match does not stop before it starts, nor behind the end of the text. -/
theorem Spans.le (h : Spans cs pattern i k) : i ≤ k ∧ k ≤ cs.length := by
  induction pattern generalizing i with
  | nil => exact ⟨h.1.le, h.2⟩
  | cons atom pattern ih =>
    obtain ⟨j, hatom, hpattern⟩ := h
    exact ⟨hatom.le.1.trans (ih hpattern).1, (ih hpattern).2⟩

/-- An atom that matches from `j` to `k`, and around that from `i` to `l`, matches from `j`
to `l`. -/
theorem Atom.Spans.extend (hinner : atom.Spans cs j k) (houter : atom.Spans cs i l) (hij : i ≤ j)
    (hkl : k ≤ l) : atom.Spans cs j l := by
  cases atom with
  | textStart => exact ⟨hinner.1, houter.2⟩
  | textEnd => exact ⟨hinner.1, houter.2⟩
  | run inClass =>
    refine ⟨hinner.1.trans_le hkl, houter.2.1, fun c hc => houter.2.2 c ?_⟩
    exact (List.drop_sublist_drop_left _ hij).mem hc

/-- **So does a pattern.** Its first atom is taken from the match in which that atom stops
farther behind. -/
theorem Spans.extend (hinner : Spans cs pattern j k) (houter : Spans cs pattern i l) (hij : i ≤ j)
    (hkl : k ≤ l) : Spans cs pattern j l := by
  induction pattern generalizing i j with
  | nil =>
    obtain ⟨rfl, -⟩ := hinner
    obtain ⟨rfl, hl⟩ := houter
    exact ⟨le_antisymm hkl hij, hl⟩
  | cons atom pattern ih =>
    obtain ⟨n, hatom, hpattern⟩ := hinner
    obtain ⟨n', hatom', hpattern'⟩ := houter
    rcases le_total n' n with hle | hle
    · exact ⟨n, hatom, ih hpattern hpattern' hle⟩
    · -- the atom of the outer match stops behind that of the inner one, so it is extended
      exact ⟨n', hatom.extend hatom' hij hle, hpattern'⟩

/-! ## The places where an atom can stop -/

/-- The characters at the front of a text are of a class as far as they are taken for it. -/
theorem forall_mem_take_iff (h : j ≤ cs.length) :
    (∀ c ∈ cs.take j, inClass c = true) ↔ j ≤ (cs.takeWhile inClass).length := by
  induction cs generalizing j with
  | nil => simpa using h
  | cons c cs ih =>
    cases j with
    | zero => simp
    | succ j =>
      have hrest := ih (Nat.le_of_succ_le_succ h)
      cases hc : inClass c <;> simp [hc, hrest]

/-- A run stops behind any of the characters of its class that follow its start. -/
theorem spans_run_iff : (Atom.run inClass).Spans cs i j ↔
    i < j ∧ j ≤ i + ((cs.drop i).takeWhile inClass).length := by
  have hdrop : (cs.drop i).length = cs.length - i := List.length_drop
  have htaken : ((cs.drop i).takeWhile inClass).length ≤ (cs.drop i).length :=
    (List.takeWhile_sublist inClass).length_le
  constructor
  · rintro ⟨hij, hj, hclass⟩
    rw [List.drop_take, forall_mem_take_iff (by omega)] at hclass
    omega
  · rintro ⟨hij, hj⟩
    refine ⟨hij, by omega, ?_⟩
    rw [List.drop_take, forall_mem_take_iff (by omega)]
    omega

/-- The places where an atom can stop are those where it matches. -/
theorem mem_stops_iff : j ∈ atom.stops cs i ↔ atom.Spans cs i j := by
  cases atom with
  | run inClass =>
    rw [spans_run_iff, Atom.stops, List.mem_reverse, List.mem_range'_1]
    omega
  | _ =>
    simp only [Atom.stops, Atom.Spans]
    split <;> rename_i hchar <;> simp [hchar]

/-- The farthest of them comes first. -/
theorem pairwise_stops (cs : List Char) (i : Nat) (atom : Atom) :
    (atom.stops cs i).Pairwise (· > ·) := by
  cases atom with
  | run inClass => exact List.pairwise_reverse.mpr List.pairwise_lt_range'
  | _ =>
    simp only [Atom.stops]
    split <;> simp

/-! ## Taking out what is found -/

/-- What is left of a text by a leftmost and greedy search is what the first match leaves, or
all of it where there is no match. -/
theorem removeFound_eq {find : List Atom → List Char → Option Match} {s : String}
    {left : List Char} (h : LeftmostGreedy find)
    (hfirst : ∀ m : Match, m.IsFirst pattern s.toList → m.rest s.toList = left)
    (hnone : (∀ i k, ¬ Spans s.toList pattern i k) → s.toList = left) :
    removeFound find pattern s = String.ofList left := by
  unfold removeFound
  split
  · rename_i m hm
    rw [hfirst m (h.first hm)]
  · rename_i hm
    rw [← hnone (h.complete hm), String.ofList_toList]

/-! ## The search -/

/-- Of a list in order, what is found first comes before all else where something would be
found. -/
theorem exists_of_findSome?_eq_some {α β : Type} {r : α → α → Prop} {f : α → Option β}
    {places : List α} {b : β} (horder : places.Pairwise r) (h : places.findSome? f = some b) :
    ∃ a ∈ places, f a = some b ∧ ∀ x ∈ places, f x = none ∨ x = a ∨ r a x := by
  obtain ⟨before, a, behind, rfl, ha, hbefore⟩ := List.findSome?_eq_some_iff.mp h
  refine ⟨a, by simp, ha, fun x hx => ?_⟩
  rcases List.mem_append.mp hx with hx | hx
  · exact .inl (hbefore x hx)
  · rcases List.mem_cons.mp hx with rfl | hx
    · exact .inr (.inl rfl)
    · have hbehind : (a :: behind).Pairwise r := (List.pairwise_append.mp horder).2.1
      exact .inr (.inr (List.rel_of_pairwise_cons hbehind hx))

/-- Nothing is found at a place only where nothing matches. -/
theorem stop?_eq_none_iff : stop? cs pattern i = none ↔ ∀ k, ¬ Spans cs pattern i k := by
  induction pattern generalizing i with
  | nil => simp [stop?, Spans]
  | cons atom pattern ih =>
    simp only [stop?, List.findSome?_eq_none_iff, mem_stops_iff, ih, Spans, not_exists, not_and]
    exact ⟨fun h k j hatom => h j hatom k, fun h j hatom k => h k j hatom⟩

/-- **What is found at a place is the longest match there.** -/
theorem stop?_eq_some (h : stop? cs pattern i = some k) :
    Spans cs pattern i k ∧ ∀ l, Spans cs pattern i l → l ≤ k := by
  induction pattern generalizing i with
  | nil =>
    obtain ⟨hi, rfl⟩ : i ≤ cs.length ∧ i = k := by simpa [stop?] using h
    exact ⟨⟨rfl, hi⟩, fun l hl => hl.1.ge⟩
  | cons atom pattern ih =>
    obtain ⟨j, hj, hstop, hfirst⟩ := exists_of_findSome?_eq_some (pairwise_stops cs i atom) h
    obtain ⟨hpattern, hlongest⟩ := ih hstop
    refine ⟨⟨j, mem_stops_iff.mp hj, hpattern⟩, ?_⟩
    rintro l ⟨n, hatom', hpattern'⟩
    rcases hfirst n (mem_stops_iff.mpr hatom') with hnone | rfl | hn
    · exact absurd hpattern' (stop?_eq_none_iff.mp hnone l)
    · exact hlongest l hpattern'
    · -- a longer match that goes on from `n` could go on from `j`, which is behind `n`
      by_contra hl
      exact hl (hlongest l (hpattern.extend hpattern' hn.le (Nat.le_of_not_le hl)))

/-- A match starts at a place that is searched. -/
theorem Spans.mem_range (h : Spans cs pattern i k) : i ∈ List.range (cs.length + 1) :=
  List.mem_range.mpr (Nat.lt_succ_of_le (h.le.1.trans h.le.2))

/-- **The search finds the first match.** -/
theorem leftmostGreedy_search : LeftmostGreedy search where
  first := by
    intro pattern cs m h
    obtain ⟨i, -, hi, hfirst⟩ := exists_of_findSome?_eq_some List.pairwise_lt_range h
    obtain ⟨k, hstop, rfl⟩ := Option.map_eq_some_iff.mp hi
    obtain ⟨hspans, hgreedy⟩ := stop?_eq_some hstop
    refine ⟨hspans, fun j l hspans' => ?_, hgreedy⟩
    rcases hfirst j hspans'.mem_range with hnone | rfl | hj
    · exact absurd hspans' (stop?_eq_none_iff.mp (Option.map_eq_none_iff.mp hnone) l)
    · exact le_rfl
    · exact hj.le
  complete := by
    intro pattern cs h i k hspans
    have hnone := List.findSome?_eq_none_iff.mp h i hspans.mem_range
    exact stop?_eq_none_iff.mp (Option.map_eq_none_iff.mp hnone) k hspans

end MarkupTemplate.Text
