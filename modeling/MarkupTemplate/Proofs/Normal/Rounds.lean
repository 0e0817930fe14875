import MarkupTemplate.Proofs.Normal.Idle
import MarkupTemplate.Proofs.Text.Edges
/-!
# Rounds — finishing a program again and again

The two ends of a text are trimmed one after the other, and it does not matter which of
them comes first. A finished program has nothing left to trim. What another round can do
is to drop an empty text that has come to stand in front of an element: the program is
`Thinned`, and all else in it is as the first round left it. So neither the order of the
trims nor the number of rounds changes the text of a program, and the trims are those that
any leftmost and greedy search makes (`trims_of_search`).
-/

namespace MarkupTemplate

/-- The characters of a text between two siblings, with its right end trimmed before its
left one. -/
def trimBetweenEndFirst (edges : Directives) (previous next : Option Node) (chars : String) :
    String :=
  let chars := if trimsEnd edges next then Text.trimEnd chars else chars
  if trimsStart edges previous then Text.trimStart chars else chars

/-- Finish a program, and what comes of it, a number of times. -/
def Program.finishTimes (config : Config) : Nat → Program → Traced Program
  | 0, p => pure p
  | n + 1, p => do
    let q ← p.finish config
    q.finishTimes config n

/-- **A program thinned out**: some empty texts are gone from its body, and nothing else is
changed. -/
structure Program.Thinned (p q : Program) : Prop where
  eq_withBody : q = { p with body := q.body }
  sublist : q.body.Sublist p.body
  dropEmpty_eq : dropEmpty q.body = dropEmpty p.body

variable {config : Config} {edges : Directives} {previous next previous' : Option Node}
variable {node : Node} {nodes : List Node} {p q r : Program}

/-! ## The order of the trims -/

/-- **The order in which the ends are trimmed does not matter.** -/
theorem trimBetweenEndFirst_eq : trimBetweenEndFirst = trimBetween := by
  funext edges previous next chars
  unfold trimBetweenEndFirst trimBetween
  cases trimsStart edges previous with
  | false => rfl
  | true =>
    cases trimsEnd edges next with
    | false => rfl
    | true => exact Text.trimStart_trimEnd chars

/-! ## Another round -/

theorem Program.Thinned.refl (p : Program) : p.Thinned p := by
  obtain ⟨body, blockParams, strip, loc⟩ := p
  exact ⟨rfl, .refl body, rfl⟩

theorem Program.Thinned.trans (hpq : p.Thinned q) (hqr : q.Thinned r) : p.Thinned r where
  eq_withBody := by rw [hqr.eq_withBody, hpq.eq_withBody]
  sublist := hqr.sublist.trans hpq.sublist
  dropEmpty_eq := hqr.dropEmpty_eq.trans hpq.dropEmpty_eq

/-- With nothing to trim, an entry is kept as it is, or is an empty text and dropped. -/
theorem keptNode_of_kept
    (h : ∀ chars loc, node = .text chars loc → keptChars config edges previous next chars = chars) :
    keptNode config edges previous next node = some node ∨
      keptNode config edges previous next node = none ∧ node.isEmptyText = true := by
  cases node with
  | text chars loc =>
    rw [keptNode, h chars loc rfl]
    split
    · rename_i hdropped
      exact .inr ⟨rfl, (Bool.and_eq_true_iff.mp hdropped).1⟩
    · exact .inl rfl
  | _ => exact .inl rfl

/-- What is in front of a list that begins with an element has no part in its being
stable. -/
theorem stable_of_isElement_head? (hnodes : nodes.head?.any Node.isElement = true)
    (h : Stable config edges previous nodes) : Stable config edges previous' nodes := by
  cases nodes with
  | nil => trivial
  | cons element rest =>
    refine ⟨?_, ?_, h.2.2⟩
    · rintro chars loc rfl
      cases hnodes
    · intro hempty
      rw [List.head?_cons, Option.any_some, isElement_of_isEmptyText hempty] at hnodes
      cases hnodes

/-- **The scan of a stable list drops empty texts**, and does nothing else. -/
theorem scanned_of_stable (h : Stable config edges previous nodes) :
    (scanned config edges previous nodes).Sublist nodes ∧
      dropEmpty (scanned config edges previous nodes) = dropEmpty nodes := by
  induction nodes generalizing previous with
  | nil => exact ⟨.slnil, rfl⟩
  | cons node rest ih =>
    obtain ⟨hchars, hbehind, hrest⟩ := h
    rcases keptNode_of_kept hchars with hkept | ⟨hkept, hempty⟩
    · obtain ⟨hsublist, hdrop⟩ := ih hrest
      rw [scanned, hkept]
      refine ⟨hsublist.cons_cons node, ?_⟩
      have hcons : ∀ list, dropEmpty (node :: list) = dropEmpty [node] ++ dropEmpty list :=
        fun list => List.filter_append [node] list
      rw [hcons, hdrop, ← hcons]
    · -- it does not stand behind an element, so it stands in front of one
      have helement : rest.head?.any Node.isElement = true := by
        simpa [hbehind hempty] using (keptNode_eq_none hkept).2
      obtain ⟨hsublist, hdrop⟩ := ih (stable_of_isElement_head? helement hrest)
      rw [scanned, hkept]
      refine ⟨hsublist.cons node, ?_⟩
      have hcons : dropEmpty (node :: rest) = dropEmpty rest :=
        List.filter_cons_of_neg (by simpa using hempty)
      rw [hcons, hdrop]

/-- **Another round thins out a stable program.** -/
theorem thinned_finished (h : p.IsStable config) : p.Thinned (p.finished config) := by
  obtain ⟨hsublist, hdrop⟩ := scanned_of_stable h.2
  rw [← finishedBody_of_isStable h] at hsublist hdrop
  exact ⟨rfl, hsublist, hdrop⟩

/-- **So does any number of rounds.** -/
theorem thinned_finishTimes (n : Nat) (h : p.IsStable config) :
    p.Thinned (p.finishTimes config n).value := by
  induction n generalizing p with
  | zero => exact .refl p
  | succ n ih =>
    rw [Program.finishTimes, Traced.value_bind, value_finish]
    exact (thinned_finished h).trans (ih (isStable_finished config p))

/-! ## What trimming does -/

/-- **The trims are those of a search.** Let an end of a text be trimmed by taking out the
first match of the blanks there, as any leftmost and greedy search finds it. These are two
trims, one for each end, and they are the ones of the library. So the ends of a text
between two siblings can be trimmed in either order, and every further round of finishing
a program only drops empty texts from its body. -/
theorem trims_of_search (find : List Text.Atom → List Char → Option Text.Match)
    (h : Text.LeftmostGreedy find) :
    Text.TrimsEdges (Text.removeFound find Text.leadingBlanks)
        (Text.removeFound find Text.trailingBlanks) ∧
      Text.removeFound find Text.leadingBlanks = Text.trimStart ∧
      Text.removeFound find Text.trailingBlanks = Text.trimEnd ∧
      trimBetweenEndFirst = trimBetween ∧
      ∀ (config : Config) (p : Program) (n : Nat),
        (p.finish config).value.Thinned (p.finishTimes config (n + 1)).value := by
  have hstart : Text.removeFound find Text.leadingBlanks = Text.trimStart :=
    funext (Text.removeFound_leadingBlanks h)
  have hend : Text.removeFound find Text.trailingBlanks = Text.trimEnd :=
    funext (Text.removeFound_trailingBlanks h)
  refine ⟨?_, hstart, hend, trimBetweenEndFirst_eq, fun config p n => ?_⟩
  · rw [hstart, hend]
    exact Text.trimsEdges
  · rw [Program.finishTimes, Traced.value_bind, value_finish]
    exact thinned_finishTimes n (isStable_finished config p)

/-- The search that tries the places one after the other: of the runs of blanks in a text it
takes out the one at the end. -/
theorem trims_of_search_backtracking : Text.LeftmostGreedy Text.search ∧
    Text.removeFound Text.search Text.trailingBlanks "  a \u00a0 b \n\u3000" = "  a \u00a0 b" ∧
    Text.TrimsEdges (Text.removeFound Text.search Text.leadingBlanks)
        (Text.removeFound Text.search Text.trailingBlanks) ∧
      Text.removeFound Text.search Text.leadingBlanks = Text.trimStart ∧
      Text.removeFound Text.search Text.trailingBlanks = Text.trimEnd ∧
      trimBetweenEndFirst = trimBetween ∧
      ∀ (config : Config) (p : Program) (n : Nat),
        (p.finish config).value.Thinned (p.finishTimes config (n + 1)).value :=
  ⟨Text.leftmostGreedy_search, by decide, trims_of_search Text.search Text.leftmostGreedy_search⟩

end MarkupTemplate
