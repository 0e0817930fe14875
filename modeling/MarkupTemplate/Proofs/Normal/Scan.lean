import MarkupTemplate.Program.Finish
import MarkupTemplate.Proofs.Normal.Spacing
/-!
# The scan — what finishing does to a body

`scanned` is the body that the scan leaves, one `keptNode` after the other, and
`finishedBody` the body of a finished program; `value_finish` reads both off the
definitions that also report. A dropped entry is a text beside an element, and a
kept one differs from the entry it stands for in its characters alone. From these
two facts follow the edges, the spacing and the entries of a finished body. What the
scan asks of the siblings is their `outside`, so a change behind it commutes with
finishing.
-/

namespace MarkupTemplate

/-! ## What siblings can tell of a node -/

/-- What the siblings of a node, and the scan, can tell of it. -/
structure Outside where
  live : Bool
  element : Bool
  facing : Directives
  chars? : Option String
deriving DecidableEq

namespace Node

/-- The outside of a node. -/
def outside (node : Node) : Outside :=
  { live := node.isLive
    element := node.isElement
    facing := node.facing
    chars? := node.chars? }

variable {node other : Node}

theorem isLive_of_outside (h : node.outside = other.outside) : node.isLive = other.isLive :=
  congrArg Outside.live h

theorem chars?_of_outside (h : node.outside = other.outside) : node.chars? = other.chars? :=
  congrArg Outside.chars? h

theorem facing_of_outside (h : node.outside = other.outside) : node.facing = other.facing :=
  congrArg Outside.facing h

/-- An element faces its siblings with no directives. -/
theorem facing_of_isElement (h : node.isElement = true) : node.facing = .empty := by
  cases node <;> first | rfl | cases h

/-- An element is no text. -/
theorem chars?_of_isElement (h : node.isElement = true) : node.chars? = none := by
  cases node <;> first | rfl | cases h

/-- A live node is no text. -/
theorem chars?_of_isLive (h : node.isLive = true) : node.chars? = none := by
  cases node <;> first | rfl | cases h

/-- An element is not live. -/
theorem isLive_of_isElement (h : node.isElement = true) : node.isLive = false := by
  cases node <;> first | rfl | cases h

/-- Where an element stands, no live node does. -/
theorem any_isLive_of_any_isElement {sibling : Option Node}
    (h : sibling.any Node.isElement = true) : sibling.any Node.isLive = false := by
  cases sibling with
  | none => rfl
  | some node => exact isLive_of_isElement h

end Node

/-! ## The scan, without its reports -/

/-- What the scan keeps of an entry between two siblings: a text that is empty once
it is trimmed goes if it stands beside an element. -/
def keptNode (config : Config) (edges : Directives) (previous next : Option Node) :
    Node → Option Node
  | .text chars loc =>
    let kept := keptChars config edges previous next chars
    if kept.isEmpty && (previous.any Node.isElement || next.any Node.isElement) then
      none
    else
      some (.text kept loc)
  | node => some node

/-- The entries that the scan keeps behind `previous`. -/
def scanned (config : Config) (edges : Directives) (previous : Option Node) :
    List Node → List Node
  | [] => []
  | node :: rest =>
    match keptNode config edges previous rest.head? node with
    | none => scanned config edges previous rest
    | some kept => kept :: scanned config edges (some kept) rest

/-- The body of a finished program. -/
def finishedBody (config : Config) (edges : Directives) (body : List Node) : List Node :=
  scanned config edges none (padEnd (padStart body))

/-- The program with its body finished. -/
def Program.finished (config : Config) (p : Program) : Program :=
  { p with body := finishedBody config p.strip p.body }

variable {config : Config} {edges : Directives} {previous next : Option Node}
variable {node kept : Node} {nodes rest body : List Node} {index : Nat}

/-- **The scan leaves the kept entries.** -/
theorem value_scanBody : (scanBody config edges previous index nodes).value =
    scanned config edges previous nodes := by
  induction nodes generalizing previous index with
  | nil => rfl
  | cons node rest ih =>
    cases node with
    | text chars loc =>
      rw [scanBody, scanned, keptNode]
      by_cases hidle : ((keptChars config edges previous rest.head? chars).isEmpty &&
          (previous.any Node.isElement || rest.head?.any Node.isElement)) = true
      · simp only [hidle, if_true]
        exact ih
      · simp only [hidle]
        exact congrArg _ ih
    | _ => simp [scanBody, scanned, keptNode, ih]

/-- **Finishing a program changes its body alone.** -/
theorem value_finish (config : Config) (p : Program) :
    (p.finish config).value = p.finished config := by
  obtain ⟨body, blockParams, strip, loc⟩ := p
  unfold Program.finish Program.finished finishedBody
  cases body with
  | nil => rfl
  | cons first rest => simp [value_scanBody]

/-! ## One entry -/

/-- A dropped entry is a text without child lists, beside an element. -/
theorem keptNode_eq_none (h : keptNode config edges previous next node = none) :
    node.isLive = false ∧
      (previous.any Node.isElement = true ∨ next.any Node.isElement = true) := by
  cases node with
  | text chars loc =>
    simp only [keptNode, ite_eq_left_iff, reduceCtorEq, imp_false, Decidable.not_not,
      Bool.and_eq_true, Bool.or_eq_true] at h
    exact ⟨rfl, h.2⟩
  | _ => cases h

/-- A kept entry is the one it stands for, or a text in the place of a text. -/
theorem keptNode_eq_some (h : keptNode config edges previous next node = some kept) :
    kept = node ∨ ∃ chars trimmed loc, node = .text chars loc ∧ kept = .text trimmed loc := by
  cases node with
  | text chars loc =>
    simp only [keptNode, Option.ite_none_left_eq_some, Option.some.injEq] at h
    exact .inr ⟨chars, _, loc, rfl, h.2.symm⟩
  | _ => exact .inl (Option.some.inj h).symm

/-- Whatever is no text is kept. -/
theorem keptNode_of_chars?_eq_none (h : node.chars? = none) :
    keptNode config edges previous next node = some node := by
  cases node <;> first | rfl | cases h

/-- A kept entry is live if the one it stands for is. -/
theorem isLive_keptNode (h : keptNode config edges previous next node = some kept) :
    kept.isLive = node.isLive := by
  rcases keptNode_eq_some h with rfl | ⟨chars, trimmed, loc, rfl, rfl⟩
  · rfl
  · rfl

/-- The start of a text is trimmed by what its previous sibling faces it with. -/
theorem trimsStart_eq (edges : Directives) (previous : Option Node) :
    trimsStart edges previous =
      ((previous.map Node.facing).map fun s => s.contains .right).getD (edges.contains .left) := by
  cases previous <;> rfl

/-- The end of a text is trimmed by what its next sibling faces it with. -/
theorem trimsEnd_eq (edges : Directives) (next : Option Node) :
    trimsEnd edges next =
      ((next.map Node.facing).map fun s => s.contains .left).getD (edges.contains .right) := by
  cases next <;> rfl

/-- What is trimmed of a text depends on what its siblings face it with. -/
theorem trimBetween_congr {previous' next' : Option Node}
    (hprevious : previous'.map Node.facing = previous.map Node.facing)
    (hnext : next'.map Node.facing = next.map Node.facing) :
    trimBetween edges previous' next' = trimBetween edges previous next := by
  have hstart : trimsStart edges previous' = trimsStart edges previous := by
    rw [trimsStart_eq, hprevious, ← trimsStart_eq]
  have hend : trimsEnd edges next' = trimsEnd edges next := by
    rw [trimsEnd_eq, hnext, ← trimsEnd_eq]
  funext chars
  rw [trimBetween, trimBetween, hstart, hend]

/-- What is kept depends on the outside of the siblings alone. -/
theorem keptNode_congr {previous' next' : Option Node}
    (hprevious : previous'.map Node.outside = previous.map Node.outside)
    (hnext : next'.map Node.outside = next.map Node.outside) :
    keptNode config edges previous' next' node = keptNode config edges previous next node := by
  cases node with
  | text chars loc =>
    -- both questions to a sibling are answered by its outside
    have hany : ∀ sibling : Option Node,
        sibling.any Node.isElement = (sibling.map Node.outside).any Outside.element := by
      rintro (_ | sibling) <;> rfl
    have hfacing : ∀ sibling : Option Node,
        sibling.map Node.facing = (sibling.map Node.outside).map Outside.facing := by
      rintro (_ | sibling) <;> rfl
    have hchars : keptChars config edges previous' next' chars =
        keptChars config edges previous next chars := by
      have hstart : previous'.map Node.facing = previous.map Node.facing := by
        rw [hfacing, hprevious, ← hfacing]
      have hend : next'.map Node.facing = next.map Node.facing := by
        rw [hfacing, hnext, ← hfacing]
      rw [keptChars, keptChars, trimBetween_congr hstart hend]
    rw [keptNode, keptNode, hchars, hany previous', hany next', hprevious, hnext, ← hany, ← hany]
  | _ => rfl

/-- Of the configuration, what is kept of a text depends on stripping alone. -/
theorem keptChars_of_stripping {config' : Config} (h : config'.stripping = config.stripping) :
    keptChars config' = keptChars config := by
  funext edges previous next chars
  rw [keptChars, keptChars, h]

/-- So does the scan. -/
theorem scanned_of_stripping {config' : Config} (h : config'.stripping = config.stripping) :
    scanned config' edges previous nodes = scanned config edges previous nodes := by
  have hkept : keptNode config' = keptNode config := by
    funext edges previous next node
    cases node with
    | text chars loc => rw [keptNode, keptNode, keptChars_of_stripping h]
    | _ => rfl
  induction nodes generalizing previous with
  | nil => rfl
  | cons node rest ih =>
    rw [scanned, scanned, hkept]
    split
    · exact ih
    · exact congrArg _ ih

/-! ## The edges of a finished body -/

/-- Neither the first nor the last entry of a body is live. -/
def StaticEdges (body : List Node) : Prop :=
  body.head?.any Node.isLive = false ∧ body.getLast?.any Node.isLive = false

instance (body : List Node) : Decidable (StaticEdges body) := by
  unfold StaticEdges
  infer_instance

/-- A static first entry is kept, or an element takes its place. -/
theorem head?_scanned (hprevious : previous.any Node.isElement = false)
    (h : nodes.head?.any Node.isLive = false) :
    (scanned config edges previous nodes).head?.any Node.isLive = false := by
  induction nodes with
  | nil => rfl
  | cons node rest ih =>
    rw [scanned]
    cases hkept : keptNode config edges previous rest.head? node with
    | none =>
      -- no element is in front, so the one that the text stands beside comes next
      have hnext : rest.head?.any Node.isElement = true := by
        simpa [hprevious] using (keptNode_eq_none hkept).2
      exact ih (Node.any_isLive_of_any_isElement hnext)
    | some kept => simpa [isLive_keptNode hkept] using h

/-- A static last entry is kept, or an element takes its place. -/
theorem getLast?_scanned (previous : Option Node)
    (h : (previous.toList ++ nodes).getLast?.any Node.isLive = false) :
    (previous.toList ++ scanned config edges previous nodes).getLast?.any Node.isLive = false := by
  induction nodes generalizing previous with
  | nil => exact h
  | cons node rest ih =>
    rw [scanned]
    cases hkept : keptNode config edges previous rest.head? node with
    | none =>
      refine ih previous ?_
      cases rest with
      | cons _ _ => simpa [List.getLast?_append, List.getLast?_cons_cons] using h
      | nil =>
        -- the last entry goes, and the element before it is the last one now
        have helement : previous.any Node.isElement = true := by
          simpa using (keptNode_eq_none hkept).2
        cases previous with
        | none => rfl
        | some last => exact Node.isLive_of_isElement helement
    | some kept =>
      have hlast : (kept :: rest).getLast?.any Node.isLive = false := by
        cases rest with
        | nil => simpa [isLive_keptNode hkept] using h
        | cons next _ =>
          rw [List.getLast?_append_of_ne_nil _ (List.cons_ne_nil node _)] at h
          exact h
      rw [List.getLast?_append_of_ne_nil _ (List.cons_ne_nil kept _)]
      exact ih (some kept) hlast

/-- An empty text goes before a live first entry, so the first entry is static. -/
theorem head?_padStart (body : List Node) : (padStart body).head?.any Node.isLive = false := by
  unfold padStart
  split
  · rfl
  · rename_i hstatic
    exact eq_false_of_ne_true hstatic

/-- Behind the end nothing changes at the start. -/
theorem head?_padEnd (h : body.head?.any Node.isLive = false) :
    (padEnd body).head?.any Node.isLive = false := by
  unfold padEnd
  split
  · cases body with
    | nil => rfl
    | cons first _ => exact h
  · exact h

/-- An empty text goes behind a live last entry, so the last entry is static. -/
theorem getLast?_padEnd (body : List Node) : (padEnd body).getLast?.any Node.isLive = false := by
  unfold padEnd
  split
  · rw [List.getLast?_append_of_ne_nil _ (List.cons_ne_nil Node.emptyText [])]
    rfl
  · rename_i hstatic
    exact eq_false_of_ne_true hstatic

/-- **A finished body has static edges.** -/
theorem staticEdges_finishedBody (config : Config) (edges : Directives) (body : List Node) :
    StaticEdges (finishedBody config edges body) :=
  ⟨head?_scanned rfl (head?_padEnd (head?_padStart body)),
    getLast?_scanned none (getLast?_padEnd (padStart body))⟩

/-! ## The spacing of a finished body -/

/-- **The scan brings no live nodes together**: what it drops stands beside an
element, which is not live. -/
theorem apart_scanned (previous : Option Node) (h : Apart (previous.toList ++ nodes)) :
    Apart (previous.toList ++ scanned config edges previous nodes) := by
  induction nodes generalizing previous with
  | nil => exact h
  | cons node rest ih =>
    rw [scanned]
    cases hkept : keptNode config edges previous rest.head? node with
    | none =>
      refine ih previous ?_
      cases previous with
      | none => exact (apart_cons_iff.mp h).2
      | some last =>
        have hrest : Apart rest := (apart_cons_iff.mp (apart_cons_iff.mp h).2).2
        -- of the two that meet where the text was, one is an element
        refine apart_cons_iff.mpr ⟨?_, hrest⟩
        rcases (keptNode_eq_none hkept).2 with helement | helement
        · have hlast : last.isLive = false := Node.isLive_of_isElement helement
          rw [hlast, Bool.false_and]
        · have hnext : rest.head?.any Node.isLive = false :=
            Node.any_isLive_of_any_isElement helement
          rw [List.append_eq, List.nil_append, hnext, Bool.and_false]
    | some kept =>
      have hlive : kept.isLive = node.isLive := isLive_keptNode hkept
      have hrest : Apart (kept :: rest) := by
        have hnode : Apart (node :: rest) := (List.isChain_append.mp h).2.1
        rw [apart_cons_iff] at hnode ⊢
        rwa [hlive]
      have hscanned : Apart (kept :: scanned config edges (some kept) rest) := ih (some kept) hrest
      cases previous with
      | none => exact hscanned
      | some last =>
        refine apart_cons_iff.mpr ⟨?_, hscanned⟩
        simpa [hlive] using (apart_cons_iff.mp h).1

/-- An empty text at the start leaves the rest apart. -/
theorem apart_padStart (h : Apart body) : Apart (padStart body) := by
  unfold padStart
  split
  · exact apart_cons_iff.mpr ⟨rfl, h⟩
  · exact h

/-- An empty text at the end leaves the rest apart. -/
theorem apart_padEnd (h : Apart body) : Apart (padEnd body) := by
  unfold padEnd
  split
  · refine List.isChain_append.mpr ⟨h, .singleton _, ?_⟩
    intro last _ first hfirst
    cases hfirst
    exact Bool.and_false _
  · exact h

/-- **Finishing keeps a body apart.** -/
theorem apart_finishedBody (h : Apart body) : Apart (finishedBody config edges body) :=
  apart_scanned none (apart_padEnd (apart_padStart h))

/-! ## The entries of a finished body -/

/-- What the scan leaves was there, or is a text. -/
theorem mem_scanned (h : node ∈ scanned config edges previous nodes) :
    node ∈ nodes ∨ ∃ chars loc, node = .text chars loc := by
  induction nodes generalizing previous with
  | nil => cases h
  | cons first rest ih =>
    rw [scanned] at h
    cases hkept : keptNode config edges previous rest.head? first with
    | none =>
      rw [hkept] at h
      exact (ih h).imp_left (List.mem_cons_of_mem first)
    | some kept =>
      rw [hkept] at h
      rcases List.mem_cons.mp h with rfl | hrest
      · rcases keptNode_eq_some hkept with rfl | ⟨_, trimmed, loc, _, rfl⟩
        · exact .inl List.mem_cons_self
        · exact .inr ⟨trimmed, loc, rfl⟩
      · exact (ih hrest).imp_left (List.mem_cons_of_mem first)

/-- What stands at the start was there, or is an empty text. -/
theorem mem_padStart (h : node ∈ padStart body) : node ∈ body ∨ node = Node.emptyText := by
  unfold padStart at h
  split at h
  · exact (List.mem_cons.mp h).symm
  · exact .inl h

/-- What stands at the end was there, or is an empty text. -/
theorem mem_padEnd (h : node ∈ padEnd body) : node ∈ body ∨ node = Node.emptyText := by
  unfold padEnd at h
  split at h
  · exact (List.mem_append.mp h).imp_right List.mem_singleton.mp
  · exact .inl h

/-- **Finishing adds nothing but texts.** -/
theorem mem_finishedBody (h : node ∈ finishedBody config edges body) :
    node ∈ body ∨ ∃ chars loc, node = .text chars loc := by
  rcases mem_scanned h with h | htext
  · rcases mem_padEnd h with h | rfl
    · rcases mem_padStart h with h | rfl
      · exact .inl h
      · exact .inr ⟨"", none, rfl⟩
    · exact .inr ⟨"", none, rfl⟩
  · exact .inr htext

/-- The scan drops nothing but texts. -/
theorem mem_scanned_of_chars?_eq_none (hchars : node.chars? = none) (h : node ∈ nodes) :
    node ∈ scanned config edges previous nodes := by
  induction nodes generalizing previous with
  | nil => cases h
  | cons first rest ih =>
    rw [scanned]
    rcases List.mem_cons.mp h with rfl | hrest
    · rw [keptNode_of_chars?_eq_none hchars]
      exact List.mem_cons_self
    · split
      · exact ih hrest
      · exact List.mem_cons_of_mem _ (ih hrest)

/-- **So does finishing.** -/
theorem mem_finishedBody_of_chars?_eq_none (hchars : node.chars? = none) (h : node ∈ body) :
    node ∈ finishedBody config edges body := by
  refine mem_scanned_of_chars?_eq_none hchars ?_
  have hstart : node ∈ padStart body := by
    unfold padStart
    split
    · exact List.mem_cons_of_mem _ h
    · exact h
  unfold padEnd
  split
  · exact List.mem_append_left _ hstart
  · exact hstart

/-- What all texts have, all entries of a finished body have if those of the body have
it. -/
theorem forall_mem_finishedBody_iff {P : Node → Prop}
    (htext : ∀ chars loc, P (.text chars loc)) :
    (∀ node ∈ finishedBody config edges body, P node) ↔ ∀ node ∈ body, P node := by
  constructor
  · intro h node hnode
    cases hchars : node.chars? with
    | none => exact h node (mem_finishedBody_of_chars?_eq_none hchars hnode)
    | some chars =>
      cases node with
      | text chars loc => exact htext chars loc
      | _ => cases hchars
  · intro h node hnode
    rcases mem_finishedBody hnode with hnode | ⟨chars, loc, rfl⟩
    · exact h node hnode
    · exact htext chars loc

/-! ## Finishing and changes behind the outside -/

section Map

variable {f : Node → Node} {place : Option Span → Option Span} {previous' next' : Option Node}

/-- What is kept of a changed entry is what is kept of the entry, changed. -/
theorem keptNode_map (htext : ∀ chars loc, f (.text chars loc) = .text chars (place loc))
    (hnode : (f node).outside = node.outside) :
    keptNode config edges previous next (f node) =
      (keptNode config edges previous next node).map f := by
  cases node with
  | text chars loc =>
    rw [htext, keptNode, keptNode]
    split
    · rfl
    · rw [Option.map_some, htext]
  | _ =>
    -- no other node has the outside of a text
    rw [keptNode_of_chars?_eq_none (Node.chars?_of_outside hnode),
      keptNode_of_chars?_eq_none rfl, Option.map_some]

/-- **The scan commutes with a change behind the outside** that leaves texts as they
are, but for their places. -/
theorem scanned_map (htext : ∀ chars loc, f (.text chars loc) = .text chars (place loc))
    (hprevious : previous'.map Node.outside = previous.map Node.outside)
    (hnodes : ∀ node ∈ nodes, (f node).outside = node.outside) :
    scanned config edges previous' (nodes.map f) = (scanned config edges previous nodes).map f := by
  induction nodes generalizing previous previous' with
  | nil => rfl
  | cons node rest ih =>
    have hrest : ∀ other ∈ rest, (f other).outside = other.outside := fun other h =>
      hnodes other (List.mem_cons_of_mem node h)
    have hnext : (rest.map f).head?.map Node.outside = rest.head?.map Node.outside := by
      cases rest with
      | nil => rfl
      | cons next _ => exact congrArg some (hrest next List.mem_cons_self)
    have hkept : keptNode config edges previous' (rest.map f).head? (f node) =
        (keptNode config edges previous rest.head? node).map f := by
      rw [keptNode_congr hprevious hnext]
      exact keptNode_map htext (hnodes node List.mem_cons_self)
    rw [List.map_cons, scanned, scanned, hkept]
    cases hsome : keptNode config edges previous rest.head? node with
    | none => exact ih hprevious hrest
    | some kept =>
      -- the next entries see the kept one, which has the outside of its change
      have houtside : (f kept).outside = kept.outside := by
        rcases keptNode_eq_some hsome with rfl | ⟨_, trimmed, loc, _, rfl⟩
        · exact hnodes kept List.mem_cons_self
        · rw [htext]
          rfl
      exact congrArg (f kept :: ·) (ih (congrArg some houtside) hrest)

/-- Where an empty text goes is a matter of the live nodes. -/
theorem padStart_map (hempty : f Node.emptyText = Node.emptyText)
    (hbody : ∀ node ∈ body, (f node).isLive = node.isLive) :
    padStart (body.map f) = (padStart body).map f := by
  have hhead : (body.map f).head?.any Node.isLive = body.head?.any Node.isLive := by
    cases body with
    | nil => rfl
    | cons first _ => exact hbody first List.mem_cons_self
  unfold padStart
  rw [hhead]
  split
  · rw [List.map_cons, hempty]
  · rfl

/-- The same at the end. -/
theorem padEnd_map (hempty : f Node.emptyText = Node.emptyText)
    (hbody : ∀ node ∈ body, (f node).isLive = node.isLive) :
    padEnd (body.map f) = (padEnd body).map f := by
  have hlast : (body.map f).getLast?.any Node.isLive = body.getLast?.any Node.isLive := by
    rw [List.getLast?_map]
    cases h : body.getLast? with
    | none => rfl
    | some last => exact hbody last (List.mem_of_getLast? h)
  unfold padEnd
  rw [hlast]
  split
  · rw [List.map_append, List.map_singleton, hempty]
  · rfl

/-- **So does finishing a body.** -/
theorem finishedBody_map (hempty : f Node.emptyText = Node.emptyText)
    (htext : ∀ chars loc, f (.text chars loc) = .text chars (place loc))
    (hbody : ∀ node ∈ body, (f node).outside = node.outside) :
    finishedBody config edges (body.map f) = (finishedBody config edges body).map f := by
  have hstart : ∀ node ∈ padStart body, (f node).outside = node.outside := by
    intro node h
    rcases mem_padStart h with h | rfl
    · exact hbody node h
    · rw [hempty]
  have hend : ∀ node ∈ padEnd (padStart body), (f node).outside = node.outside := by
    intro node h
    rcases mem_padEnd h with h | rfl
    · exact hstart node h
    · rw [hempty]
  rw [finishedBody, padStart_map hempty fun node h => Node.isLive_of_outside (hbody node h),
    padEnd_map hempty fun node h => Node.isLive_of_outside (hstart node h),
    scanned_map htext rfl hend, finishedBody]

end Map

end MarkupTemplate
