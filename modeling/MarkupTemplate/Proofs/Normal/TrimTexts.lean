import MarkupTemplate.Proofs.Normal.Stable
/-!
# Trimmed lists — texts trimmed ahead of the scan

`trimTexts` trims the texts of a list as it stands, each between the siblings that it
has there. The steps that a list goes through do not change what faces a text: gaps and
paddings stand beside live nodes, and where the scan drops a text an element is on one
side of it. So spacing and padding commute with trimming, and to scan the trimmed list
with stripping off is to scan the list with stripping on (`finishedBody_trimTexts`).
-/

namespace MarkupTemplate

/-- A node between two siblings of a list that is scanned with the given directives at
its edges: a text is trimmed as they ask. Without directives the list is not scanned. -/
def Node.trimmedBetween (edges? : Option Directives) (previous next : Option Node) :
    Node → Node
  | .text chars loc =>
    match edges? with
    | some edges => .text (trimBetween edges previous next chars) loc
    | none => .text chars loc
  | node => node

/-- The texts of a list behind `previous`, trimmed; nothing else is changed. -/
def trimTexts (edges? : Option Directives) (previous : Option Node) : List Node → List Node
  | [] => []
  | node :: rest =>
    node.trimmedBetween edges? previous rest.head? :: trimTexts edges? (some node) rest

variable {config : Config} {edges? : Option Directives} {edges : Directives}
variable {previous next previous' next' : Option Node} {node : Node} {nodes rest body : List Node}

/-! ## One text -/

/-- An empty text has nothing to trim. -/
theorem trimmedBetween_emptyText :
    Node.emptyText.trimmedBetween edges? previous next = Node.emptyText := by
  cases edges? with
  | none => rfl
  | some edges => exact congrArg (Node.text · none) trimBetween_empty

/-- What is no text has nothing to trim. -/
theorem trimmedBetween_of_chars?_eq_none (h : node.chars? = none) :
    node.trimmedBetween edges? previous next = node := by
  cases node <;> first | rfl | cases h

/-- A live node has nothing to trim. -/
theorem trimmedBetween_of_isLive (h : node.isLive = true) :
    node.trimmedBetween edges? previous next = node :=
  trimmedBetween_of_chars?_eq_none (Node.chars?_of_isLive h)

/-- In a list that is not scanned, texts stay as they are. -/
theorem trimmedBetween_none : node.trimmedBetween none previous next = node := by
  cases node <;> rfl

theorem trimmedBetween_congr (hprevious : previous'.map Node.facing = previous.map Node.facing)
    (hnext : next'.map Node.facing = next.map Node.facing) :
    node.trimmedBetween edges? previous' next' = node.trimmedBetween edges? previous next := by
  cases node with
  | text chars loc =>
    cases edges? with
    | none => rfl
    | some edges => simp only [Node.trimmedBetween, trimBetween_congr hprevious hnext]
  | _ => rfl

@[simp]
theorem isLive_trimmedBetween :
    (node.trimmedBetween edges? previous next).isLive = node.isLive := by
  cases node with
  | text _ _ => cases edges? <;> rfl
  | _ => rfl

@[simp]
theorem isElement_trimmedBetween :
    (node.trimmedBetween edges? previous next).isElement = node.isElement := by
  cases node with
  | text _ _ => cases edges? <;> rfl
  | _ => rfl

@[simp]
theorem isCustomElement_trimmedBetween :
    (node.trimmedBetween edges? previous next).isCustomElement = node.isCustomElement := by
  cases node with
  | text _ _ => cases edges? <;> rfl
  | _ => rfl

/-! ## The texts of a list -/

/-- The first entry of a list that is trimmed. -/
theorem any_head?_trimTexts {P : Node → Bool}
    (h : ∀ node previous next, P (node.trimmedBetween edges? previous next) = P node) :
    (trimTexts edges? previous nodes).head?.any P = nodes.head?.any P := by
  cases nodes with
  | nil => rfl
  | cons node rest => simp [trimTexts, h]

/-- **Gaps do not come between a text and its siblings**, so spacing and trimming
commute. -/
theorem trimTexts_spacedFrom (hprevious : previous'.any Node.isLive = previous.any Node.isLive) :
    trimTexts edges? previous (spacedFrom previous nodes) =
      spacedFrom previous' (trimTexts edges? previous nodes) := by
  induction nodes generalizing previous previous' with
  | nil => rfl
  | cons node rest ih =>
    have hrest : trimTexts edges? (some node) (spacedFrom (some node) rest) =
        spacedFrom (some (node.trimmedBetween edges? previous rest.head?))
          (trimTexts edges? (some node) rest) :=
      ih (by simp)
    have hgap : gap previous' (node.trimmedBetween edges? previous rest.head?) =
        gap previous node := by
      rw [gap, gap, hprevious, isLive_trimmedBetween]
    rw [trimTexts, spacedFrom, spacedFrom, hgap, ← hrest]
    by_cases hlive : node.isLive = true
    · -- a live node is not trimmed, and nor is the gap before it
      have hnode : ∀ previous next, node.trimmedBetween edges? previous next = node :=
        fun _ _ => trimmedBetween_of_isLive hlive
      unfold gap
      split
      · simp only [List.singleton_append, trimTexts, trimmedBetween_emptyText, hnode]
      · simp only [List.nil_append, trimTexts, hnode]
    · -- no gap is next to it, so its siblings are the same
      have hempty : gap previous node = [] := by simp [gap, hlive]
      have hhead : (spacedFrom (some node) rest).head? = rest.head? := by
        cases rest with
        | nil => rfl
        | cons next _ => simp [spacedFrom, gap, hlive]
      rw [hempty, List.nil_append, List.nil_append, trimTexts, hhead]

/-- An empty text in front of a live first entry changes nothing for the texts. -/
theorem padStart_trimTexts :
    padStart (trimTexts edges? none body) = trimTexts edges? none (padStart body) := by
  unfold padStart
  rw [any_head?_trimTexts fun _ _ _ => isLive_trimmedBetween]
  split
  · rename_i hlive
    cases body with
    | nil => cases hlive
    | cons first rest =>
      have hfirst : ∀ previous next, first.trimmedBetween edges? previous next = first :=
        fun _ _ => trimmedBetween_of_isLive hlive
      simp only [trimTexts, trimmedBetween_emptyText, hfirst]
  · rfl

/-- The last entry of a list that is trimmed is live if the last entry of the list
is. -/
theorem any_isLive_getLast?_trimTexts : (trimTexts edges? previous body).getLast?.any Node.isLive =
    body.getLast?.any Node.isLive := by
  induction body generalizing previous with
  | nil => rfl
  | cons node rest ih =>
    cases rest with
    | nil => simp [trimTexts]
    | cons next rest =>
      have hrest : (trimTexts edges? (some node) (next :: rest)).getLast?.any Node.isLive =
          (next :: rest).getLast?.any Node.isLive := ih
      simp only [trimTexts, List.getLast?_cons_cons] at hrest ⊢
      exact hrest

/-- Behind a live entry an empty text changes nothing for the other texts. -/
theorem trimTexts_append_emptyText (h : body.getLast?.any Node.isLive = true) :
    trimTexts edges? previous (body ++ [Node.emptyText]) =
      trimTexts edges? previous body ++ [Node.emptyText] := by
  induction body generalizing previous with
  | nil => cases h
  | cons node rest ih =>
    cases rest with
    | nil =>
      have hnode : ∀ previous next, node.trimmedBetween edges? previous next = node :=
        fun _ _ => trimmedBetween_of_isLive h
      simp only [List.singleton_append, trimTexts, trimmedBetween_emptyText, hnode]
    | cons next rest =>
      rw [List.getLast?_cons_cons] at h
      have hrest : trimTexts edges? (some node) (next :: rest ++ [Node.emptyText]) =
          trimTexts edges? (some node) (next :: rest) ++ [Node.emptyText] := ih h
      rw [List.cons_append, trimTexts, hrest, trimTexts, List.cons_append]
      rfl

/-- The same for an empty text behind a live last entry. -/
theorem padEnd_trimTexts :
    padEnd (trimTexts edges? none body) = trimTexts edges? none (padEnd body) := by
  unfold padEnd
  rw [any_isLive_getLast?_trimTexts]
  split
  · rename_i hlive
    exact (trimTexts_append_emptyText hlive).symm
  · rfl

/-- A list that is not scanned is not changed. -/
theorem trimTexts_none : trimTexts none previous nodes = nodes := by
  induction nodes generalizing previous with
  | nil => rfl
  | cons node rest ih => rw [trimTexts, trimmedBetween_none, ih]

/-! ## The scan -/

/-- **The scan trims each text between the siblings that it had.** With stripping on it
leaves what it leaves of the trimmed list with stripping off. Behind a dropped text the
entry in front is another one than in the list, but then it is an element, or the next
entry is, and nothing is trimmed on that side. -/
theorem scanned_trimTexts
    (h : nodes.head?.any (fun node => node.chars?.isSome) = true →
      trimsStart edges previous = trimsStart edges previous') :
    scanned (config.withStripping true) edges previous nodes =
      scanned (config.withStripping false) edges previous
        (trimTexts (some edges) previous' nodes) := by
  induction nodes generalizing previous previous' with
  | nil => rfl
  | cons node rest ih =>
    cases node with
    | text chars loc =>
      have hstart : trimsStart edges previous = trimsStart edges previous' := h rfl
      have hchars : trimBetween edges previous' rest.head? chars =
          trimBetween edges previous rest.head? chars := by
        rw [trimBetween, trimBetween, hstart]
      have helement : (trimTexts (some edges) (some (.text chars loc)) rest).head?.any
          Node.isElement = rest.head?.any Node.isElement :=
        any_head?_trimTexts fun _ _ _ => isElement_trimmedBetween
      simp only [trimTexts, Node.trimmedBetween, scanned, keptNode, keptChars, Config.withStripping,
        if_true, Bool.false_eq_true, if_false, hchars, helement]
      split
      · rename_i hdropped
        -- nothing is dropped beside the next text unless an element is in front
        refine ih fun htext => ?_
        have hprevious : previous.any Node.isElement = true := by
          split at hdropped
          · rename_i hcondition
            rw [Bool.and_eq_true, Bool.or_eq_true] at hcondition
            refine hcondition.2.resolve_right fun hnext => ?_
            cases rest with
            | nil => cases hnext
            | cons next _ =>
              have hchars : next.chars? = none := Node.chars?_of_isElement hnext
              simp [hchars] at htext
          · cases hdropped
        cases previous with
        | none => cases hprevious
        | some last =>
          have hfacing : last.facing = .empty := Node.facing_of_isElement hprevious
          rw [trimsStart, hfacing]
          rfl
      · rename_i kept hkept
        split at hkept
        · cases hkept
        · cases hkept
          exact congrArg _ (ih fun _ => rfl)
    | _ => exact congrArg _ (ih fun _ => rfl)

/-- **Finishing a body with stripping on is finishing the trimmed body with stripping
off.** -/
theorem finishedBody_trimTexts (config : Config) (edges : Directives) (body : List Node) :
    finishedBody (config.withStripping false) edges (trimTexts (some edges) none body) =
      finishedBody (config.withStripping true) edges body := by
  rw [finishedBody, finishedBody, padStart_trimTexts, padEnd_trimTexts]
  exact (scanned_trimTexts fun _ => rfl).symm

end MarkupTemplate
