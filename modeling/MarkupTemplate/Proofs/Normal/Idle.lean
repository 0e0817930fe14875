import MarkupTemplate.Proofs.Normal.Content
import MarkupTemplate.Proofs.Normal.TrimTexts
/-!
# Idle texts — what one scan leaves in front of an element

An empty text beside an element is idle, and the scan drops it. It comes to each text
once, from left to right: behind an element it drops every empty text in a row, but of a
row in front of an element it drops the last one alone, since the others had a text next
to them when they were looked at. So no empty text is left behind an element, and one is
left in front of an element exactly where two of them stood there in the body, with its
texts trimmed, and no element was on the other side of their row (`tidyTexts_finish_iff`).
-/

namespace MarkupTemplate

/-- No empty text stands beside an element, on either side. -/
def TidyTexts (nodes : List Node) : Prop :=
  nodes.IsChain fun left right =>
    (left.isEmptyText && right.isElement) = false ∧ (left.isElement && right.isEmptyText) = false

instance (nodes : List Node) : Decidable (TidyTexts nodes) := by
  unfold TidyTexts
  infer_instance

/-- No empty text stands behind an element. -/
def NothingIdleBehind (nodes : List Node) : Prop :=
  nodes.IsChain fun left right => (left.isElement && right.isEmptyText) = false

/-- **An idle row**: two empty texts stand in front of an element, and the last entry
before them that is no empty text, if there is one, is no element. -/
def HasIdleRow (outer : Option Node) (nodes : List Node) : Prop :=
  ∃ before first second element after,
    nodes = before ++ first :: second :: element :: after ∧
    first.isEmptyText = true ∧ second.isEmptyText = true ∧ element.isElement = true ∧
    (dropEmpty (outer.toList ++ before)).getLast?.any Node.isElement = false

variable {config : Config} {edges : Directives} {previous next outer : Option Node}
variable {node last : Node} {nodes rest body : List Node}

theorem tidyTexts_iff : TidyTexts nodes ↔ IdleFree nodes ∧ NothingIdleBehind nodes := by
  induction nodes with
  | nil => exact ⟨fun _ => ⟨.nil, .nil⟩, fun _ => .nil⟩
  | cons node rest ih =>
    cases rest with
    | nil => exact ⟨fun _ => ⟨.singleton node, .singleton node⟩, fun _ => .singleton node⟩
    | cons next rest =>
      simp only [TidyTexts, IdleFree, NothingIdleBehind, List.isChain_cons_cons] at ih ⊢
      rw [ih, and_and_and_comm]

/-- An element is no empty text. -/
theorem isEmptyText_of_isElement (h : node.isElement = true) : node.isEmptyText = false := by
  cases node <;> first | rfl | cases h

/-- So an empty text is no element. -/
theorem isElement_of_isEmptyText (h : node.isEmptyText = true) : node.isElement = false := by
  cases node <;> first | rfl | cases h

/-- Nor is a live node an empty text. -/
theorem isEmptyText_of_isLive (h : node.isLive = true) : node.isEmptyText = false := by
  cases node <;> first | rfl | cases h

/-! ## Behind an element -/

/-- In a stable list no empty text stands behind an element. -/
theorem nothingIdleBehind_of_stable (h : Stable config edges previous nodes) :
    NothingIdleBehind nodes := by
  induction nodes generalizing previous with
  | nil => exact .nil
  | cons node rest ih =>
    obtain ⟨-, -, hrest⟩ := h
    cases rest with
    | nil => exact .singleton node
    | cons next rest =>
      refine .cons_cons ?_ (ih hrest)
      obtain ⟨-, hbehind, -⟩ := hrest
      by_contra hidle
      rw [Bool.not_eq_false, Bool.and_eq_true] at hidle
      have helement : node.isElement = false := hbehind hidle.2
      rw [hidle.1] at helement
      cases helement

/-! ## Idle rows -/

/-- Of the entries in front of a row, an empty text does not count, and any other entry
hides those before it. -/
theorem getLast?_dropEmpty_cons :
    (dropEmpty (outer.toList ++ node :: nodes)).getLast? =
      (dropEmpty ((if node.isEmptyText then outer else some node).toList ++ nodes)).getLast? := by
  by_cases hempty : node.isEmptyText = true
  · simp [dropEmpty, hempty]
  · -- the filter keeps it, so that it or an entry behind it is the last one
    have hfilter : dropEmpty (outer.toList ++ node :: nodes) =
        dropEmpty outer.toList ++ dropEmpty (node :: nodes) := List.filter_append ..
    have hcons : dropEmpty (node :: nodes) = node :: dropEmpty nodes :=
      List.filter_cons_of_pos (by simpa using hempty)
    rw [if_neg hempty, hfilter, hcons, List.getLast?_append_of_ne_nil _ (List.cons_ne_nil _ _),
      ← hcons]
    rfl

/-- One entry in front of a row is an element, or is not. -/
theorem any_isElement_dropEmpty (outer : Option Node) :
    (dropEmpty (outer.toList ++ [])).getLast?.any Node.isElement = outer.any Node.isElement := by
  cases outer with
  | none => rfl
  | some node =>
    by_cases hempty : node.isEmptyText = true
    · simp [dropEmpty, hempty, isElement_of_isEmptyText hempty]
    · simp [dropEmpty, hempty]

/-- **The first entry of a list with an idle row** starts one, or stands in front of
one. -/
theorem hasIdleRow_cons_iff : HasIdleRow outer (node :: rest) ↔
    (node.isEmptyText = true ∧ outer.any Node.isElement = false ∧
      rest.head?.any Node.isEmptyText = true ∧ rest.tail.head?.any Node.isElement = true) ∨
    HasIdleRow (if node.isEmptyText then outer else some node) rest := by
  constructor
  · rintro ⟨before, first, second, element, after, hnodes, hfirst, hsecond, helement, houter⟩
    cases before with
    | nil =>
      obtain ⟨rfl, rfl⟩ := List.cons.inj hnodes
      rw [any_isElement_dropEmpty] at houter
      exact .inl ⟨hfirst, houter, hsecond, helement⟩
    | cons head before =>
      obtain ⟨rfl, rfl⟩ := List.cons.inj hnodes
      rw [getLast?_dropEmpty_cons] at houter
      exact .inr ⟨before, first, second, element, after, rfl, hfirst, hsecond, helement, houter⟩
  · rintro (⟨hnode, houter, hsecond, helement⟩ |
      ⟨before, first, second, element, after, rfl, hfirst, hsecond, helement, houter⟩)
    · match rest with
      | [] => cases hsecond
      | [_] => cases helement
      | second :: element :: after =>
        rw [← any_isElement_dropEmpty] at houter
        exact ⟨[], node, second, element, after, rfl, hnode, hsecond, helement, houter⟩
    · rw [← getLast?_dropEmpty_cons] at houter
      exact ⟨node :: before, first, second, element, after, rfl, hfirst, hsecond, helement, houter⟩

/-- An entry at the end that is no element ends no idle row. -/
theorem hasIdleRow_append_iff (h : last.isElement = false) :
    HasIdleRow outer (nodes ++ [last]) ↔ HasIdleRow outer nodes := by
  constructor
  · rintro ⟨before, first, second, element, after, hnodes, hrow⟩
    rcases List.eq_nil_or_concat' after with rfl | ⟨front, final, rfl⟩
    · -- the element of the row would be at the end
      have hend : nodes ++ [last] = (before ++ [first, second]) ++ [element] := by
        rw [hnodes, List.append_assoc]
        rfl
      obtain rfl : last = element := (List.append_inj_right' hend rfl) |> List.head_eq_of_cons_eq
      rw [hrow.2.2.1] at h
      cases h
    · have hend : nodes ++ [last] = (before ++ first :: second :: element :: front) ++ [final] := by
        rw [hnodes, List.append_assoc]
        rfl
      exact ⟨before, first, second, element, front, List.append_inj_left' hend rfl, hrow⟩
  · rintro ⟨before, first, second, element, after, rfl, hrow⟩
    exact ⟨before, first, second, element, after ++ [last], by simp, hrow⟩

/-! ## Idle rows and the scan -/

/-- Where stripping is off, what is not dropped is kept as it is. -/
theorem keptNode_eq_self (hstripping : config.stripping = false)
    (h : keptNode config edges previous next node ≠ none) :
    keptNode config edges previous next node = some node := by
  obtain ⟨kept, hkept⟩ := Option.ne_none_iff_exists'.mp h
  rw [hkept, eq_of_keptNode_eq_some hstripping hkept]

/-- The first entry that the scan leaves behind a text is an element where one dropped
text stood in between. -/
theorem isElement_head?_scanned_iff (hstripping : config.stripping = false)
    (hprevious : previous.any Node.isElement = false)
    (hnext : rest.head?.any Node.isElement = false) :
    (scanned config edges previous rest).head?.any Node.isElement = true ↔
      rest.head?.any Node.isEmptyText = true ∧ rest.tail.head?.any Node.isElement = true := by
  cases rest with
  | nil => exact iff_of_false nofun nofun
  | cons second rest =>
    rw [List.head?_cons, Option.any_some, List.tail_cons] at *
    rw [scanned]
    cases hkept : keptNode config edges previous rest.head? second with
    | none =>
      have hempty : second.isEmptyText = true := isEmptyText_of_keptNode_eq_none hstripping hkept
      have helement : rest.head?.any Node.isElement = true := by
        simpa [hprevious] using (keptNode_eq_none hkept).2
      cases rest with
      | nil => cases helement
      | cons element rest =>
        have hchars : element.chars? = none := Node.chars?_of_isElement helement
        rw [scanned, keptNode_of_chars?_eq_none hchars]
        exact iff_of_true helement ⟨hempty, helement⟩
    | some kept =>
      obtain rfl : kept = second := eq_of_keptNode_eq_some hstripping hkept
      refine iff_of_false (by simpa using hnext) ?_
      rintro ⟨hempty, helement⟩
      rw [(keptNode_eq_none_iff_of_isEmptyText hempty).mpr (.inr helement)] at hkept
      cases hkept

/-- **Where stripping is off, the scan leaves an empty text in front of an element for
every idle row, and for nothing else.** -/
theorem idleFree_scanned_iff (hstripping : config.stripping = false)
    (h : previous.any Node.isElement = outer.any Node.isElement) :
    IdleFree (scanned config edges previous nodes) ↔ ¬ HasIdleRow outer nodes := by
  induction nodes generalizing previous outer with
  | nil =>
    refine iff_of_true .nil ?_
    rintro ⟨before, _, _, _, _, hnodes, -⟩
    exact List.append_ne_nil_of_right_ne_nil before (List.cons_ne_nil _ _) hnodes.symm
  | cons node rest ih =>
    rw [hasIdleRow_cons_iff, not_or, scanned]
    by_cases hempty : node.isEmptyText = true
    · rw [if_pos hempty, and_iff_right hempty]
      by_cases hbeside : previous.any Node.isElement = true ∨ rest.head?.any Node.isElement = true
      · -- the text is dropped, and no row starts with it
        have hstarts : ¬ (outer.any Node.isElement = false ∧
            rest.head?.any Node.isEmptyText = true ∧
            rest.tail.head?.any Node.isElement = true) := by
          rintro ⟨houter, hsecond, -⟩
          rw [h, houter] at hbeside
          have hnext : rest.head?.any Node.isElement = true :=
            hbeside.resolve_left Bool.false_ne_true
          cases rest with
          | nil => cases hnext
          | cons second rest =>
            have hfull : second.isEmptyText = false := isEmptyText_of_isElement hnext
            exact absurd hsecond (by simpa using hfull)
        rw [(keptNode_eq_none_iff_of_isEmptyText hempty).mpr hbeside, and_iff_right hstarts]
        exact ih h
      · -- the text is kept, and what it comes to stand beside decides
        have hkept : keptNode config edges previous rest.head? node = some node :=
          keptNode_eq_self hstripping fun hdropped =>
            hbeside ((keptNode_eq_none_iff_of_isEmptyText hempty).mp hdropped)
        rw [not_or, Bool.not_eq_true, Bool.not_eq_true] at hbeside
        have helement : node.isElement = false := isElement_of_isEmptyText hempty
        have houter : outer.any Node.isElement = false := h ▸ hbeside.1
        rw [hkept, idleFree_cons_iff, hempty, Bool.true_and, ← Bool.not_eq_true,
          isElement_head?_scanned_iff hstripping (by simpa using helement) hbeside.2,
          and_iff_right houter]
        exact and_congr_right' (ih (helement.trans houter.symm))
    · -- any other entry is kept, and is what a row behind it has on its other side
      have hkept : keptNode config edges previous rest.head? node = some node :=
        keptNode_eq_self hstripping fun hdropped =>
          hempty (isEmptyText_of_keptNode_eq_none hstripping hdropped)
      have hfull : node.isEmptyText = false := by simpa using hempty
      rw [if_neg hempty, hkept, idleFree_cons_iff, hfull, Bool.false_and, and_iff_right rfl,
        and_iff_right (by simp)]
      exact ih rfl

/-! ## Finished bodies -/

/-- The padding of a body stands beside live nodes, and makes no idle row. -/
theorem hasIdleRow_padEnd_padStart_iff :
    HasIdleRow none (padEnd (padStart body)) ↔ HasIdleRow none body := by
  have hend : HasIdleRow none (padEnd (padStart body)) ↔ HasIdleRow none (padStart body) := by
    unfold padEnd
    split
    · exact hasIdleRow_append_iff rfl
    · rfl
  rw [hend]
  unfold padStart
  split
  · rename_i hlive
    have hhead : ¬ body.head?.any Node.isEmptyText = true := by
      cases body with
      | nil => cases hlive
      | cons first _ => simpa using isEmptyText_of_isLive hlive
    rw [hasIdleRow_cons_iff]
    exact or_iff_right fun hstarts => hhead hstarts.2.2.1
  · rfl

/-- **Finishing a body is finishing the body with its texts trimmed**, where stripping
is on, with stripping off. -/
theorem finishedBody_eq_trimTexts (config : Config) (edges : Directives) (body : List Node) :
    finishedBody config edges body = finishedBody (config.withStripping false) edges
      (trimTexts (if config.stripping then some edges else none) none body) := by
  obtain ⟨stripping, concatHelper⟩ := config
  cases stripping with
  | false => rw [if_neg Bool.false_ne_true, trimTexts_none]; rfl
  | true => exact (finishedBody_trimTexts ⟨true, concatHelper⟩ edges body).symm

/-- **Where empty texts are left beside elements.** A finished program has none behind
an element; and it has none in front of one either if and only if its body, with the
texts trimmed where stripping is on, had no idle row. -/
theorem tidyTexts_finish_iff (config : Config) (p : Program) :
    NothingIdleBehind (p.finish config).value.body ∧
      (TidyTexts (p.finish config).value.body ↔ ¬ HasIdleRow none
        (trimTexts (if config.stripping then some p.strip else none) none p.body)) := by
  have hbehind : NothingIdleBehind (p.finished config).body :=
    nothingIdleBehind_of_stable (isStable_finished config p).2
  rw [value_finish]
  refine ⟨hbehind, tidyTexts_iff.trans ((and_iff_left hbehind).trans ?_)⟩
  rw [Program.finished, finishedBody_eq_trimTexts, finishedBody, idleFree_scanned_iff rfl rfl,
    hasIdleRow_padEnd_padStart_iff]

/-- **A finished program can have an empty text in front of an element**: of two, the
scan drops the second and has passed the first. -/
theorem not_forall_tidyTexts_finish :
    ¬ ∀ (config : Config) (p : Program), TidyTexts (p.finish config).value.body := by
  intro h
  have htidy := h .default
    (.build [Node.emptyText, Node.emptyText, .element (.build "p" [])] none)
  revert htidy
  decide

end MarkupTemplate
