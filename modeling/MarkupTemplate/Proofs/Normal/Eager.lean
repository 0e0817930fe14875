import MarkupTemplate.Proofs.Normal.Form
import MarkupTemplate.Proofs.Tree.Rebuilt
/-!
# Eager conversion — components made while elements are closed

A reader may convert a custom element as soon as it is closed, and a compilation
converts the ones that are left. `Program.eager` is the first way on a whole tree:
every list is built one sibling at a time, each entry after what is in it, and a
custom element is finished behind its children; programs of blocks are not finished.
`compile_eager` says that it does not matter which way is taken. The eager tree is
`Program.eagerForm`, and the proof is that normalizing it gives the normal form:
spacing and finishing commute with normalization, since neither looks behind the
outside of an entry.
-/

namespace MarkupTemplate

mutual

/-- A node with its lists built anew and its custom elements converted; the node
itself is converted behind its children. -/
def Node.eager (config : Config) : Node → Compiling Node
  | .block ⟨expression, program, inverse, openStrip, closeStrip, loc⟩ => do
    let program ← program.eager config
    let inverse ← eagerInverse config inverse
    pure (.block ⟨expression, program, inverse, openStrip, closeStrip, loc⟩)
  | .component ⟨tag, attributes, program, loc⟩ => do
    let program ← program.eager config
    pure (.component ⟨tag, attributes, program, loc⟩)
  | .element ⟨tag, attributes, children, loc⟩ => do
    let children ← eagerEach config [] children
    convertElement config ⟨tag, attributes, children, loc⟩
  | node => pure node

/-- Siblings and further nodes, each added, as a child is, once it is converted. -/
def eagerEach (config : Config) (siblings : List Node) : List Node → Compiling (List Node)
  | [] => pure siblings
  | node :: nodes => do
    let node ← node.eager config
    let siblings ← addSibling siblings node
    eagerEach config siblings nodes

/-- The program of a block that is not always there. -/
def eagerInverse (config : Config) : Option Program → Compiling (Option Program)
  | none => pure none
  | some program => do
    let program ← program.eager config
    pure (some program)

/-- A program with its body built anew. It is not finished. -/
def Program.eager (config : Config) : Program → Compiling Program
  | ⟨body, blockParams, strip, loc⟩ => do
    let body ← eagerEach config [] body
    pure ⟨body, blockParams, strip, loc⟩

end

/-- What a node is built to where nothing is at fault. -/
def Node.eagerForm (config : Config) : Node → Node :=
  Node.rebuild (spacedFrom none) (Element.converted config)

/-- What a program is built to where nothing is at fault. -/
def Program.eagerForm (config : Config) : Program → Program :=
  Program.rebuild (spacedFrom none) (Element.converted config)

variable {config : Config} {nodes siblings : List Node} {node : Node}

/-! ## One level at a time -/

theorem eagerForm_element (config : Config) (e : Element) :
    (Node.element e).eagerForm config = Element.converted config
      { e with children := spacedFrom none (e.children.map (Node.eagerForm config)) } :=
  rebuild_element e

theorem eagerForm_block (config : Config) (b : Block) : (Node.block b).eagerForm config =
    .block { b with
      program := b.program.eagerForm config
      inverse := b.inverse.map (Program.eagerForm config) } :=
  rebuild_block b

theorem eagerForm_component (config : Config) (c : Component) :
    (Node.component c).eagerForm config =
      .component { c with program := c.program.eagerForm config } :=
  rebuild_component c

theorem eagerForm_of_lists_eq_nil (h : node.lists = []) : node.eagerForm config = node :=
  rebuild_of_lists_eq_nil h

theorem eagerForm_program (config : Config) (p : Program) : p.eagerForm config =
    { p with body := spacedFrom none (p.body.map (Node.eagerForm config)) } :=
  rebuild_program p

/-! ## The outcome -/

/-- If each node of a list ends in its eager form or its first fault, so does the
list, and the siblings before it are as they were. -/
theorem outcome_eagerEach_of (siblings : List Node) (h : ∀ node ∈ nodes,
      outcome (node.eager config) =
        settle (firstFault? node.customElements) (node.eagerForm config)) :
    outcome (eagerEach config siblings nodes) =
      settle (firstFault? (customElementsOf nodes))
        (siblings ++ spacedFrom siblings.getLast? (nodes.map (Node.eagerForm config))) := by
  induction nodes generalizing siblings with
  | nil => simp [eagerEach, customElementsOf, firstFault?, spacedFrom]
  | cons node nodes ih =>
    have hnode := h node List.mem_cons_self
    have hnodes := fun siblings => ih siblings fun other hother =>
      h other (List.mem_cons_of_mem node hother)
    simp only [eagerEach, outcome_bind, hnode, outcome_lift, value_addSibling, hnodes]
    rw [customElementsOf, firstFault?_append]
    -- the others are added behind the first, which is behind its gap
    refine (settle_bind fun node => siblings ++ gap siblings.getLast? node ++ [node] ++
      spacedFrom (siblings ++ gap siblings.getLast? node ++ [node]).getLast?
        (nodes.map (Node.eagerForm config))).trans ?_
    simp [spacedFrom]

/-- So does a program whose body does. -/
theorem outcome_eager_of (p : Program) (h : ∀ node ∈ p.body,
      outcome (node.eager config) =
        settle (firstFault? node.customElements) (node.eagerForm config)) :
    outcome (p.eager config) = settle p.fault? (p.eagerForm config) := by
  obtain ⟨body, blockParams, strip, loc⟩ := p
  simp only [Program.eager, outcome_bind, outcome_eagerEach_of [] h, outcome_pure]
  rw [eagerForm_program]
  exact settle_bind_ok _

/-- **A node is built to its eager form, or ends in its first fault.** -/
theorem Node.outcome_eager (config : Config) (node : Node) : outcome (node.eager config) =
    settle (firstFault? node.customElements) (node.eagerForm config) := by
  induction node with
  | element e ih =>
    obtain ⟨tag, attributes, children, loc⟩ := e
    simp only [Node.eager, outcome_bind, outcome_eagerEach_of [] ih, outcome_convertElement]
    rw [Node.customElements, firstFault?_append, firstFault?_own ⟨tag, attributes, children, loc⟩,
      eagerForm_element]
    change (_ >>= fun after => settle (Element.fault? ⟨tag, attributes, children, loc⟩)
      (Element.converted config ⟨tag, attributes, after, loc⟩)) = _
    exact settle_bind _
  | block b ih ih' =>
    obtain ⟨expression, program, inverse, openStrip, closeStrip, loc⟩ := b
    have hprogram := outcome_eager_of program ih
    have hinverse : outcome (eagerInverse config inverse) =
        settle (firstFault? (customElementsOfInverse inverse))
          (inverse.map (Program.eagerForm config)) := by
      cases inverse with
      | none => rfl
      | some other =>
        simp only [eagerInverse, outcome_bind, outcome_eager_of other (ih' other rfl), outcome_pure]
        exact settle_bind_ok some
    -- the program's fault counts before the one of the inverse
    simp only [Node.eager, outcome_bind, hprogram, hinverse, outcome_pure, settle_bind_ok,
      settle_bind]
    rw [Node.customElements, firstFault?_append, eagerForm_block]
    rfl
  | component c ih =>
    obtain ⟨tag, attributes, program, loc⟩ := c
    simp only [Node.eager, outcome_bind, outcome_eager_of program ih, outcome_pure]
    rw [Node.customElements, eagerForm_component]
    exact settle_bind_ok _
  | leaf node h => cases node <;> first | rfl | cases h

/-- So is a program. -/
theorem Program.outcome_eager (config : Config) (p : Program) :
    outcome (p.eager config) = settle p.fault? (p.eagerForm config) :=
  outcome_eager_of p fun node _ => node.outcome_eager config

/-! ## Nothing is left to convert -/

/-- No custom element is built. -/
theorem isCustomElement_eagerForm (config : Config) (node : Node) :
    (node.eagerForm config).isCustomElement = false := by
  cases node with
  | element e =>
    rw [eagerForm_element]
    exact isCustomElement_converted config _
  | block b => rw [eagerForm_block]; rfl
  | component c => rw [eagerForm_component]; rfl
  | _ => rfl

theorem customElementsOf_eq_nil_iff :
    customElementsOf nodes = [] ↔ ∀ node ∈ nodes, node.customElements = [] := by
  induction nodes with
  | nil => simp [customElementsOf]
  | cons node nodes ih => simp [customElementsOf, ih]

/-- Gaps are no custom elements, nor is anything in them. -/
theorem customElementsOf_spacedFrom (h : ∀ node ∈ nodes, node.customElements = []) :
    customElementsOf (spacedFrom none nodes) = [] := by
  have hempty : Node.emptyText.customElements = [] := rfl
  exact customElementsOf_eq_nil_iff.mpr ((forall_mem_spacedFrom_iff hempty).mpr h)

/-- A converted element holds no custom elements if its children hold none. -/
theorem customElements_converted {e : Element} (h : customElementsOf e.children = []) :
    (e.converted config).customElements = [] := by
  obtain ⟨tag, attributes, children, loc⟩ := e
  unfold Element.converted
  by_cases htag : isCustomTag tag = true
  · rw [if_pos htag, Node.customElements]
    refine customElementsOf_eq_nil_iff.mpr ((forall_mem_finishedBody_iff fun _ _ => rfl).mpr ?_)
    exact customElementsOf_eq_nil_iff.mp h
  · rw [if_neg htag, Node.customElements, if_neg htag, List.append_nil]
    exact h

/-- What is built of nodes holds no custom elements if the built nodes hold none. -/
theorem customElementsOf_built
    (h : ∀ node ∈ nodes, (node.eagerForm config).customElements = []) :
    customElementsOf (spacedFrom none (nodes.map (Node.eagerForm config))) = [] := by
  refine customElementsOf_spacedFrom fun node hnode => ?_
  obtain ⟨original, horiginal, rfl⟩ := List.mem_map.mp hnode
  exact h original horiginal

/-- The same for a program. -/
theorem customElements_eagerForm_program {p : Program}
    (h : ∀ node ∈ p.body, (node.eagerForm config).customElements = []) :
    (p.eagerForm config).customElements = [] := by
  rw [eagerForm_program, Program.customElements]
  exact customElementsOf_built h

/-- **No custom element is left in an eager form.** -/
theorem customElements_eagerForm (config : Config) (node : Node) :
    (node.eagerForm config).customElements = [] := by
  induction node with
  | element e ih =>
    rw [eagerForm_element]
    exact customElements_converted (customElementsOf_built ih)
  | block b ih ih' =>
    rw [eagerForm_block, Node.customElements]
    refine List.append_eq_nil_iff.mpr ⟨customElements_eagerForm_program ih, ?_⟩
    cases hinverse : b.inverse with
    | none => rfl
    | some other => exact customElements_eagerForm_program (ih' other hinverse)
  | component c ih =>
    rw [eagerForm_component, Node.customElements]
    exact customElements_eagerForm_program ih
  | leaf node h =>
    rw [eagerForm_of_lists_eq_nil h]
    cases node <;> first | rfl | cases h

/-! ## The normal form of an eager form -/

/-- A list without custom elements holds none once it is finished as a body. -/
theorem any_isCustomElement_finishedBody (config : Config) (edges : Directives)
    (h : nodes.any Node.isCustomElement = false) :
    (finishedBody config edges nodes).any Node.isCustomElement = false := by
  rw [List.any_eq_false] at h ⊢
  exact (forall_mem_finishedBody_iff fun _ _ => Bool.false_ne_true).mpr h

/-- **An element may be converted before its children are normal.** -/
theorem normal_converted {e : Element} (h : e.children.any Node.isCustomElement = false) :
    (e.converted config).normal config =
      Element.converted config { e with children := e.children.map (Node.normal config) } := by
  obtain ⟨tag, attributes, children, loc⟩ := e
  unfold Element.converted
  by_cases htag : isCustomTag tag = true
  · -- the finished body is not finished again, and finishing goes before normalizing
    have hcommutes : (finishedBody config .empty children).map (Node.normal config) =
        finishedBody config .empty (children.map (Node.normal config)) :=
      (finishedBody_map rfl (normal_text config) fun node hnode =>
        outside_normal (by simpa using List.any_eq_false.mp h node hnode)).symm
    have hfinished := any_isCustomElement_finishedBody config .empty h
    rw [if_pos htag, if_pos htag, normal_component]
    simp only [Element.invocation, Program.finished, Program.build, Program.refinished, respaced,
      hfinished, Bool.false_eq_true, if_false, hcommutes]
  · rw [if_neg htag, if_neg htag, normal_element_of_plain (Bool.not_eq_true _ ▸ htag), respaced, h]
    rfl

/-- Normalizing what was built of a list leaves what normalizing the list does. -/
theorem normal_built (hapart : Apart nodes)
    (h : ∀ node ∈ nodes, (node.eagerForm config).normal config = node.normal config) :
    (spacedFrom none (nodes.map (Node.eagerForm config))).map (Node.normal config) =
      respaced nodes (nodes.map (Node.normal config)) := by
  have houtside : ∀ node ∈ nodes.map (Node.eagerForm config),
      (node.normal config).isLive = node.isLive := by
    intro node hnode
    obtain ⟨original, horiginal, rfl⟩ := List.mem_map.mp hnode
    exact Node.isLive_of_outside (outside_normal (isCustomElement_eagerForm config original))
  rw [respaced_normal hapart, ← spacedFrom_map (normal_text config _ _) rfl houtside,
    List.map_map]
  exact congrArg (spacedFrom none) (List.map_congr_left h)

/-- No gap is a custom element, and nothing that is built is one. -/
theorem any_isCustomElement_built (config : Config) (nodes : List Node) :
    (spacedFrom none (nodes.map (Node.eagerForm config))).any Node.isCustomElement = false := by
  refine List.any_eq_false.mpr ((forall_mem_spacedFrom_iff Bool.false_ne_true).mpr ?_)
  simp [isCustomElement_eagerForm]

/-- A program's eager form has the normal form of the program if that is so of its
entries. -/
theorem normal_eagerForm_program {p : Program} (hapart : Apart p.body)
    (h : ∀ node ∈ p.body, (node.eagerForm config).normal config = node.normal config) :
    (p.eagerForm config).normal config = p.normal config := by
  have hbuilt := normal_built hapart h
  have hcustom := any_isCustomElement_built config p.body
  rw [eagerForm_program, normal_program, normal_program]
  simp only [respaced, hcustom, Bool.false_eq_true, if_false]
  rw [hbuilt, respaced]

/-- **The eager form of an entry has its normal form**, in a template whose lists are
apart and hold no components. -/
theorem normal_eagerForm (config : Config) (node : Node)
    (h : node.Within fun node => ∀ c, node ≠ .component c) :
    (node.eagerForm config).normal config = node.normal config := by
  induction node with
  | element e ih =>
    have hlist := everywhere_apartWith_iff.mp (h.2 e.children List.mem_cons_self)
    have hbuilt : (spacedFrom none (e.children.map (Node.eagerForm config))).map
        (Node.normal config) = respaced e.children (e.children.map (Node.normal config)) := by
      refine normal_built hlist.1 ?_
      intro node hnode
      exact ih node hnode (hlist.2 node hnode)
    rw [eagerForm_element, normal_converted (any_isCustomElement_built config _),
      normal_element]
    exact congrArg (fun children => Element.converted config { e with children }) hbuilt
  | block b ih ih' =>
    have hprogram : (b.program.eagerForm config).normal config = b.program.normal config := by
      have hlist := everywhere_apartWith_iff.mp (h.2 b.program.body List.mem_cons_self)
      refine normal_eagerForm_program hlist.1 ?_
      intro node hnode
      exact ih node hnode (hlist.2 node hnode)
    have hinverse : (b.inverse.map (Program.eagerForm config)).map (Program.normal config) =
        b.inverse.map (Program.normal config) := by
      rw [Option.map_map]
      refine Option.map_congr fun p hp => ?_
      have hlist := everywhere_apartWith_iff.mp (h.2 p.body (by simp [hp]))
      refine normal_eagerForm_program hlist.1 ?_
      intro node hnode
      exact ih' p hp node hnode (hlist.2 node hnode)
    rw [eagerForm_block, normal_block, normal_block]
    simp only [hprogram, hinverse]
  | component c ih => exact absurd rfl (h.1 c)
  | leaf node hleaf => rw [eagerForm_of_lists_eq_nil hleaf]

/-! ## Both ways -/

/-- **It does not matter when custom elements are converted.** In a template without
components whose lists are apart, if one is at fault as the template is built eagerly,
then compiling the template ends in the same fault; if none is, then the template and
what is built of it compile, and to the same tree. -/
theorem compile_eager (config : Config) (p : Program)
    (hapart : ∀ list, Reaches p.body list → Apart list)
    (hnone : ∀ list, Reaches p.body list → ∀ c, .component c ∉ list) :
    (∀ fault, outcome (p.eager config) = .error fault →
        outcome (p.compile config) = .error fault) ∧
      ∀ built, outcome (p.eager config) = .ok built →
        ∃ q, outcome (p.compile config) = .ok q ∧ outcome (built.compile config) = .ok q := by
  have hentries : Apart p.body ∧
      ∀ node ∈ p.body, node.Within fun node => ∀ c, node ≠ .component c := by
    refine everywhere_apartWith_iff.mp fun list hlist => ⟨hapart list hlist, ?_⟩
    rintro _ hnode c rfl
    exact hnone list hlist c hnode
  have hnormal : (p.eagerForm config).normal config = p.normal config := by
    refine normal_eagerForm_program hentries.1 ?_
    intro node hnode
    exact normal_eagerForm config node (hentries.2 node hnode)
  have hfaultless : (p.eagerForm config).fault? = none := by
    have hnothing : (p.eagerForm config).customElements = [] :=
      customElements_eagerForm_program fun node _ => customElements_eagerForm config node
    rw [Program.fault?, hnothing]
    rfl
  rw [Program.outcome_eager, outcome_compile]
  cases hfault : p.fault? with
  | some fault =>
    constructor
    · exact fun _ h => h
    · intro built h
      cases h
  | none =>
    constructor
    · intro fault h
      cases h
    · intro built h
      -- what is built is the eager form, which compiles without a fault
      obtain rfl : p.eagerForm config = built := Except.ok.inj h
      refine ⟨p.normal config, rfl, ?_⟩
      rw [outcome_compile, hfaultless, hnormal, settle_none]

theorem compile_eager_menu : ∃ built q, outcome (menu.eager .default) = .ok built ∧
    outcome (menu.compile .default) = .ok q ∧ outcome (built.compile .default) = .ok q := by
  have hapart : Everywhere Apart menu.body := by decide
  have hnone : Everywhere (fun list => ∀ node ∈ list, node.kind ≠ .component) menu.body := by
    decide
  obtain ⟨-, h⟩ := compile_eager .default menu hapart
    fun list hlist c hc => hnone list hlist _ hc rfl
  exact ⟨_, (h _ rfl).imp fun q hq => ⟨rfl, hq⟩⟩

end MarkupTemplate
