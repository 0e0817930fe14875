import MarkupTemplate.Proofs.Normal.Form
import MarkupTemplate.Proofs.Tree.Rebuilt
/-!
# Content — what a compilation keeps

The content of a template is the tree without its empty texts. Where stripping is
off, compiling adds empty texts and drops empty texts, and turns custom elements
into components: `content_compile` says that it does nothing else, since the content
of the result is the content of the template with every custom element replaced by
its invocation. The lemmas follow the three passes over a list: spacing, the static
edges, and the scan.
-/

namespace MarkupTemplate

/-- The entries of a list that are not empty texts. -/
def dropEmpty (nodes : List Node) : List Node :=
  nodes.filter fun node => !node.isEmptyText

/-- The invocation of an element if its tag asks for one, or else the element. -/
def Element.invoked (e : Element) : Node :=
  if isCustomTag e.tag then .component e.invocation else .element e

/-- A node without the empty texts in it. -/
def Node.content : Node → Node :=
  Node.rebuild dropEmpty .element

/-- A node without the empty texts in it, and with its custom elements replaced by
their invocations. -/
def Node.invokedContent : Node → Node :=
  Node.rebuild dropEmpty Element.invoked

/-- A template without its empty texts. -/
def Program.content : Program → Program :=
  Program.rebuild dropEmpty .element

/-- A template without its empty texts, and with its custom elements replaced by their
invocations. -/
def Program.invokedContent : Program → Program :=
  Program.rebuild dropEmpty Element.invoked

/-- What nodes contain, without the empty texts among them and in them. -/
def contents (nodes : List Node) : List Node :=
  dropEmpty (nodes.map Node.content)

variable {config : Config} {edges : Directives} {previous next : Option Node}
variable {node kept : Node} {nodes rest body : List Node}

/-! ## The contents of a list -/

theorem contents_append (nodes rest : List Node) :
    contents (nodes ++ rest) = contents nodes ++ contents rest := by
  simp [contents, dropEmpty]

theorem contents_cons (node : Node) (rest : List Node) :
    contents (node :: rest) = contents [node] ++ contents rest :=
  contents_append [node] rest

/-- An empty text contains nothing. -/
theorem contents_of_isEmptyText (h : node.isEmptyText = true) : contents [node] = [] := by
  cases node with
  | text chars loc =>
    have hcontent : (Node.text chars loc).content = .text chars loc := rfl
    rw [contents, List.map_singleton, hcontent, dropEmpty]
    simp [h]
  | _ => cases h

/-- **Spacing adds no content.** -/
theorem contents_spacedFrom (previous : Option Node) (nodes : List Node) :
    contents (spacedFrom previous nodes) = contents nodes := by
  induction nodes generalizing previous with
  | nil => rfl
  | cons node nodes ih =>
    have hgap : contents (gap previous node) = [] := by
      unfold gap
      split
      · exact contents_of_isEmptyText rfl
      · rfl
    rw [spacedFrom, contents_append, hgap, List.nil_append, contents_cons, ih, ← contents_cons]

/-- Nor does a static edge at the start. -/
theorem contents_padStart (body : List Node) : contents (padStart body) = contents body := by
  unfold padStart
  split
  · rw [contents_cons, contents_of_isEmptyText rfl, List.nil_append]
  · rfl

/-- Nor does one at the end. -/
theorem contents_padEnd (body : List Node) : contents (padEnd body) = contents body := by
  unfold padEnd
  split
  · rw [contents_append, contents_of_isEmptyText rfl, List.append_nil]
  · rfl

/-- Where stripping is off, a dropped entry is an empty text. -/
theorem isEmptyText_of_keptNode_eq_none (hstripping : config.stripping = false)
    (h : keptNode config edges previous next node = none) : node.isEmptyText = true := by
  cases node with
  | text chars loc =>
    simp only [keptNode, keptChars, hstripping, Bool.false_eq_true, if_false, ite_eq_left_iff,
      reduceCtorEq, imp_false, Decidable.not_not, Bool.and_eq_true] at h
    exact h.1
  | _ => cases h

/-- Where stripping is off, a kept entry is kept as it is. -/
theorem eq_of_keptNode_eq_some (hstripping : config.stripping = false)
    (h : keptNode config edges previous next node = some kept) : kept = node := by
  cases node with
  | text chars loc =>
    simp only [keptNode, keptChars, hstripping, Bool.false_eq_true, if_false,
      Option.ite_none_left_eq_some, Option.some.injEq] at h
    exact h.2.symm
  | _ => exact (Option.some.inj h).symm

/-- **The scan loses no content.** -/
theorem contents_scanned (hstripping : config.stripping = false) :
    contents (scanned config edges previous nodes) = contents nodes := by
  induction nodes generalizing previous with
  | nil => rfl
  | cons node rest ih =>
    rw [scanned, contents_cons node rest]
    cases hkept : keptNode config edges previous rest.head? node with
    | none =>
      have hempty := isEmptyText_of_keptNode_eq_none hstripping hkept
      rw [contents_of_isEmptyText hempty, List.nil_append]
      exact ih
    | some kept =>
      have hsame := eq_of_keptNode_eq_some hstripping hkept
      rw [contents_cons, hsame, ih]

/-! ## The content of a program -/

theorem content_program (p : Program) : p.content = { p with body := contents p.body } :=
  rebuild_program p

/-- **Finishing a program keeps its content.** -/
theorem content_finished (hstripping : config.stripping = false) (p : Program) :
    (p.finished config).content = p.content := by
  have hbody : contents (finishedBody config p.strip p.body) = contents p.body := by
    rw [finishedBody, contents_scanned hstripping, contents_padEnd, contents_padStart]
  rw [content_program, content_program, Program.finished, hbody]

/-- So does finishing it again. -/
theorem content_refinished (hstripping : config.stripping = false) (before : List Node)
    (p : Program) : (p.refinished config before).content = p.content := by
  unfold Program.refinished
  split
  · exact content_finished hstripping p
  · rfl

/-! ## The content of a normal form -/

/-- Where the normal form of each entry has the content of the entry, so does a list
of them, spaced anew or not. -/
theorem contents_respaced (h : ∀ node ∈ nodes, (node.normal config).content = node.invokedContent) :
    contents (respaced nodes (nodes.map (Node.normal config))) =
      dropEmpty (nodes.map Node.invokedContent) := by
  have hmap : contents (nodes.map (Node.normal config)) =
      dropEmpty (nodes.map Node.invokedContent) := by
    rw [contents, List.map_map]
    exact congrArg dropEmpty (List.map_congr_left h)
  unfold respaced
  split
  · rw [contents_spacedFrom, hmap]
  · exact hmap

/-- The same for programs. -/
theorem content_normal_program (hstripping : config.stripping = false) {p : Program}
    (h : ∀ node ∈ p.body, (node.normal config).content = node.invokedContent) :
    (p.normal config).content = p.invokedContent := by
  rw [normal_program, content_finished hstripping, content_program, contents_respaced h]
  exact (rebuild_program p).symm

/-- **The normal form of a node has its content**, with its custom elements replaced
by their invocations. -/
theorem content_normal (hstripping : config.stripping = false) (node : Node) :
    (node.normal config).content = node.invokedContent := by
  induction node with
  | element e ih =>
    have hbody := contents_respaced ih
    rw [Node.content, Node.invokedContent, rebuild_element e]
    by_cases htag : isCustomTag e.tag = true
    · -- both are the invocation, and finishing its program keeps the content
      have hfinished := content_finished hstripping (.build
        (respaced e.children (e.children.map (Node.normal config))) (boundNames e.attributes))
      rw [content_program (.build _ _), Program.build, hbody] at hfinished
      rw [normal_element_of_custom htag, rebuild_component]
      exact (congrArg (fun program => Node.component
        ⟨e.tag, keptAttributes e.attributes, program, e.loc⟩) hfinished).trans (if_pos htag).symm
    · -- the element stays, with the contents of its children
      have hplain : isCustomTag e.tag = false := by simpa using htag
      rw [normal_element_of_plain hplain, rebuild_element]
      exact (congrArg (fun children => Node.element { e with children }) hbody).trans
        (if_neg htag).symm
  | block b ih ih' =>
    have hprogram := content_normal_program hstripping ih
    have hinverse : b.inverse.map (fun p => (p.normal config).content) =
        b.inverse.map Program.invokedContent :=
      Option.map_congr fun p hp => content_normal_program hstripping (ih' p hp)
    rw [normal_block, Node.content, Node.invokedContent, rebuild_block, rebuild_block,
      Option.map_map]
    exact congrArg₂ (fun program inverse => Node.block { b with program, inverse }) hprogram
      hinverse
  | component c ih =>
    rw [normal_component, Node.content, Node.invokedContent, rebuild_component, rebuild_component]
    refine congrArg (fun program => Node.component { c with program }) ?_
    refine (content_refinished hstripping c.program.body _).trans ?_
    rw [content_program, contents_respaced ih]
    exact (rebuild_program c.program).symm
  | leaf node h =>
    rw [normal_of_lists_eq_nil h, Node.content, Node.invokedContent, rebuild_of_lists_eq_nil h,
      rebuild_of_lists_eq_nil h]

/-- **Compiling neither loses nor invents content.** Where stripping is off, what a
template compiles to is, up to empty texts, the template with every custom element
replaced by its invocation. -/
theorem content_compile (config : Config) (p q : Program) (hstripping : config.stripping = false)
    (h : outcome (p.compile config) = .ok q) : q.content = p.invokedContent := by
  obtain ⟨-, rfl⟩ := outcome_compile_eq_ok_iff.mp h
  exact content_normal_program hstripping fun node _ => content_normal hstripping node

theorem content_compile_menu :
    ∃ q, outcome (menu.compile .default) = .ok q ∧ q.content = menu.invokedContent :=
  ⟨_, rfl, content_compile .default menu _ rfl rfl⟩

end MarkupTemplate
