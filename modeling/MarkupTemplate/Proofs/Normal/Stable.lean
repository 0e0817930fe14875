import MarkupTemplate.Proofs.Normal.Scan
import MarkupTemplate.Proofs.Text.Trim
/-!
# Stable bodies — what a second scan finds

The scan leaves a list in which every text has been trimmed between the siblings that it
now has, and no empty text stands behind an element: the list is `Stable`. A second scan
has nothing to trim there. It may still drop something, since an empty text that stood
in front of another one may stand in front of an element now; where the list is
`IdleFree` it changes nothing (`scanned_eq_self`), and elsewhere it leaves a shorter list
(`idleFree_of_length_scanned`).
-/

namespace MarkupTemplate

/-- No empty text stands right in front of an element. -/
def IdleFree (nodes : List Node) : Prop :=
  nodes.IsChain fun left right => (left.isEmptyText && right.isElement) = false

instance (nodes : List Node) : Decidable (IdleFree nodes) := by
  unfold IdleFree
  infer_instance

/-- The entries behind `previous` are as a scan leaves them: it would keep all
characters of the texts, and no empty text stands behind an element. -/
def Stable (config : Config) (edges : Directives) (previous : Option Node) : List Node → Prop
  | [] => True
  | node :: rest =>
    (∀ chars loc, node = .text chars loc →
      keptChars config edges previous rest.head? chars = chars) ∧
    (node.isEmptyText = true → previous.any Node.isElement = false) ∧
    Stable config edges (some node) rest

variable {config : Config} {edges : Directives} {previous next previous' next' : Option Node}
variable {node kept : Node} {nodes rest body : List Node} {chars : String}

/-! ## The characters of one text -/

/-- A text that is trimmed on the left does not begin with a blank. -/
theorem startsBlank_trimBetween (h : trimsStart edges previous = true) :
    Text.startsBlank (trimBetween edges previous next chars) = false := by
  have hstart : Text.startsBlank (Text.trimStart chars) = false := Text.startsBlank_trimStart chars
  unfold trimBetween
  rw [if_pos h]
  split
  · exact Text.startsBlank_trimEnd hstart
  · exact hstart

/-- A text that is trimmed on the right does not end in a blank. -/
theorem endsBlank_trimBetween (h : trimsEnd edges next = true) :
    Text.endsBlank (trimBetween edges previous next chars) = false := by
  unfold trimBetween
  rw [if_pos h]
  exact Text.endsBlank_trimEnd _

/-- **Trimming changes nothing exactly where no blank stands at an end that it
trims.** -/
theorem trimBetween_eq_self_iff : trimBetween edges previous next chars = chars ↔
    (trimsStart edges previous = true → Text.startsBlank chars = false) ∧
      (trimsEnd edges next = true → Text.endsBlank chars = false) := by
  constructor
  · intro h
    constructor
    · intro hstart
      rw [← h]
      exact startsBlank_trimBetween hstart
    · intro hend
      rw [← h]
      exact endsBlank_trimBetween hend
  · rintro ⟨hstart, hend⟩
    have hfirst : (if trimsStart edges previous then Text.trimStart chars else chars) = chars := by
      split
      · rename_i h
        exact Text.trimStart_eq_self (hstart h)
      · rfl
    rw [trimBetween, hfirst]
    split
    · rename_i h
      exact Text.trimEnd_eq_self (hend h)
    · rfl

/-- Trimming again changes nothing. -/
theorem trimBetween_trimBetween :
    trimBetween edges previous next (trimBetween edges previous next chars) =
      trimBetween edges previous next chars :=
  trimBetween_eq_self_iff.mpr ⟨startsBlank_trimBetween, endsBlank_trimBetween⟩

/-- **What is kept of a text is kept again**, also when the next sibling is another one
that asks for the same. -/
theorem keptChars_keptChars (h : trimsEnd edges next' = trimsEnd edges next) :
    keptChars config edges previous next' (keptChars config edges previous next chars) =
      keptChars config edges previous next chars := by
  have hnext : trimBetween edges previous next' = trimBetween edges previous next := by
    funext chars
    rw [trimBetween, trimBetween, h]
  unfold keptChars
  split
  · rw [hnext, trimBetween_trimBetween]
  · rfl

/-- An empty text has nothing to trim. -/
theorem trimBetween_empty : trimBetween edges previous next "" = "" :=
  trimBetween_eq_self_iff.mpr ⟨fun _ => rfl, fun _ => rfl⟩

/-- An empty text stays empty. -/
theorem keptChars_empty : keptChars config edges previous next "" = "" := by
  rw [keptChars, trimBetween_empty, ite_self]

/-! ## What the scan leaves -/

/-- **Behind a text, the scan leaves a next sibling that asks for the same.** Where it
drops the next text, an element comes next, and neither of the two has directives. -/
theorem trimsEnd_scanned (h : previous.any Node.isElement = false) :
    trimsEnd edges (scanned config edges previous rest).head? = trimsEnd edges rest.head? := by
  cases rest with
  | nil => rfl
  | cons next rest =>
    cases hkept : keptNode config edges previous rest.head? next with
    | none =>
      obtain ⟨chars, loc, rfl⟩ : ∃ chars loc, next = .text chars loc := by
        cases next with
        | text chars loc => exact ⟨chars, loc, rfl⟩
        | _ => cases hkept
      have helement : rest.head?.any Node.isElement = true := by
        simpa [h] using (keptNode_eq_none hkept).2
      cases rest with
      | nil => cases helement
      | cons element rest =>
        -- the element is kept, and is the first that the scan leaves
        have hfacing : element.facing = .empty := Node.facing_of_isElement helement
        rw [scanned, hkept, scanned,
          keptNode_of_chars?_eq_none (Node.chars?_of_isElement helement)]
        exact congrArg (Directives.contains · .left) hfacing
    | some kept =>
      rw [scanned, hkept]
      rcases keptNode_eq_some hkept with rfl | ⟨chars, trimmed, loc, rfl, rfl⟩
      · rfl
      · rfl

/-- **What the scan leaves is stable.** -/
theorem stable_scanned (previous : Option Node) (nodes : List Node) :
    Stable config edges previous (scanned config edges previous nodes) := by
  induction nodes generalizing previous with
  | nil => trivial
  | cons node rest ih =>
    cases hkept : keptNode config edges previous rest.head? node with
    | none =>
      rw [scanned, hkept]
      exact ih previous
    | some kept =>
      rw [scanned, hkept]
      cases node with
      | text chars loc =>
        simp only [keptNode, Option.ite_none_left_eq_some, Option.some.injEq, Bool.and_eq_true,
          Bool.or_eq_true] at hkept
        obtain ⟨hbeside, rfl⟩ := hkept
        refine ⟨?_, ?_, ih _⟩
        · rintro _ _ ⟨rfl, rfl⟩
          exact keptChars_keptChars (trimsEnd_scanned rfl)
        · intro hempty
          by_contra helement
          exact hbeside ⟨hempty, .inl (by simpa using helement)⟩
      | _ =>
        cases hkept
        refine ⟨?_, ?_, ih _⟩
        · intro _ _ htext
          cases htext
        · intro hempty
          cases hempty

/-! ## A second scan -/

theorem idleFree_cons_iff : IdleFree (node :: nodes) ↔
    (node.isEmptyText && nodes.head?.any Node.isElement) = false ∧ IdleFree nodes := by
  cases nodes with
  | nil => simp [IdleFree]
  | cons next rest => simp [IdleFree]

/-- **A stable list without idle texts is kept.** -/
theorem scanned_eq_self (h : Stable config edges previous nodes) (hidle : IdleFree nodes) :
    scanned config edges previous nodes = nodes := by
  induction nodes generalizing previous with
  | nil => rfl
  | cons node rest ih =>
    obtain ⟨hchars, hbehind, hrest⟩ := h
    obtain ⟨hfront, hidle⟩ := idleFree_cons_iff.mp hidle
    have hkept : keptNode config edges previous rest.head? node = some node := by
      cases node with
      | text chars loc =>
        have hbeside : ¬ (chars.isEmpty = true ∧
            (previous.any Node.isElement = true ∨ rest.head?.any Node.isElement = true)) := by
          rintro ⟨hempty, helement | helement⟩
          · rw [hbehind hempty] at helement
            cases helement
          · have hempty : (Node.text chars loc).isEmptyText = true := hempty
            rw [hempty, helement] at hfront
            cases hfront
        rw [keptNode, hchars chars loc rfl, if_neg (by simpa using hbeside)]
      | _ => rfl
    rw [scanned, hkept]
    exact congrArg (node :: ·) (ih hrest hidle)

/-- The scan adds no entry. -/
theorem length_scanned_le (previous : Option Node) (nodes : List Node) :
    (scanned config edges previous nodes).length ≤ nodes.length := by
  induction nodes generalizing previous with
  | nil => exact le_rfl
  | cons node rest ih =>
    rw [scanned]
    split
    · exact (ih previous).trans (Nat.le_succ _)
    · exact Nat.succ_le_succ (ih _)

/-- An empty text is dropped beside an element, and nowhere else. -/
theorem keptNode_eq_none_iff_of_isEmptyText (hempty : node.isEmptyText = true) :
    keptNode config edges previous next node = none ↔
      previous.any Node.isElement = true ∨ next.any Node.isElement = true := by
  cases node with
  | text chars loc =>
    obtain rfl : chars = "" := by simpa [Node.isEmptyText] using hempty
    simp [keptNode, keptChars_empty, or_iff_not_imp_left]
  | _ => cases hempty

/-- **If the scan drops nothing, there is no idle text.** -/
theorem idleFree_of_length_scanned
    (h : (scanned config edges previous nodes).length = nodes.length) : IdleFree nodes := by
  induction nodes generalizing previous with
  | nil => exact .nil
  | cons node rest ih =>
    cases hkept : keptNode config edges previous rest.head? node with
    | none =>
      have hle : (scanned config edges previous rest).length ≤ rest.length :=
        length_scanned_le previous rest
      rw [scanned, hkept, List.length_cons] at h
      simp only at h
      omega
    | some kept =>
      rw [scanned, hkept] at h
      refine idleFree_cons_iff.mpr ⟨?_, ih (Nat.succ.inj h)⟩
      by_contra hidle
      rw [Bool.not_eq_false, Bool.and_eq_true] at hidle
      rw [(keptNode_eq_none_iff_of_isEmptyText hidle.1).mpr (.inr hidle.2)] at hkept
      cases hkept

/-! ## Bodies -/

/-- A body with static edges needs no padding. -/
theorem padEnd_padStart_eq_self (h : StaticEdges body) : padEnd (padStart body) = body := by
  have hstart : padStart body = body := by simp [padStart, h.1]
  rw [hstart, padEnd, h.2]
  rfl

/-- The body of the program has static edges, and a scan would have nothing to trim in
it. -/
def Program.IsStable (config : Config) (p : Program) : Prop :=
  StaticEdges p.body ∧ Stable config p.strip none p.body

/-- **A finished program is stable.** -/
theorem isStable_finished (config : Config) (p : Program) :
    (p.finished config).IsStable config :=
  ⟨staticEdges_finishedBody config p.strip p.body, stable_scanned none _⟩

/-- A stable program is scanned as it is. -/
theorem finishedBody_of_isStable {p : Program} (h : p.IsStable config) :
    finishedBody config p.strip p.body = scanned config p.strip none p.body := by
  rw [finishedBody, padEnd_padStart_eq_self h.1]

end MarkupTemplate
