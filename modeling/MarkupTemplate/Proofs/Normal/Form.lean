import MarkupTemplate.Proofs.Normal.Convert
import MarkupTemplate.Proofs.Tree.Reached
/-!
# The normal form — what a compilation ends in

Compiling goes through a tree with faults and reports on the way. Here the two are
taken apart: `Program.normal` is the tree that compiling ends in where nothing is at
fault, and `Program.fault?` the first fault, found by looking at the custom elements
in the order in which they are closed. `outcome_compile` puts them together again;
whatever is said of compiled templates is said of the normal form.
-/

namespace MarkupTemplate

/-- A normalized list, spaced anew if an element of it was converted. -/
def respaced (before after : List Node) : List Node :=
  if before.any Node.isCustomElement then spacedFrom none after else after

/-- A component's program, finished again if an element of its body was converted. -/
def Program.refinished (config : Config) (before : List Node) (p : Program) : Program :=
  if before.any Node.isCustomElement then p.finished config else p

mutual

/-- The normal form of a node. -/
def Node.normal (config : Config) : Node → Node
  | .block ⟨expression, program, inverse, openStrip, closeStrip, loc⟩ =>
    .block ⟨expression, program.normal config, normalInverse config inverse, openStrip,
      closeStrip, loc⟩
  | .component ⟨tag, attributes, ⟨body, blockParams, strip, programLoc⟩, loc⟩ =>
    let spaced := respaced body (normalEach config body)
    .component ⟨tag, attributes,
      Program.refinished config body ⟨spaced, blockParams, strip, programLoc⟩, loc⟩
  | .element ⟨tag, attributes, children, loc⟩ =>
    let spaced := respaced children (normalEach config children)
    Element.converted config ⟨tag, attributes, spaced, loc⟩
  | node => node

/-- The normal forms of nodes. -/
def normalEach (config : Config) : List Node → List Node
  | [] => []
  | node :: nodes => node.normal config :: normalEach config nodes

/-- The normal form of a program that is not always there. -/
def normalInverse (config : Config) : Option Program → Option Program
  | none => none
  | some program => some (program.normal config)

/-- The normal form of a program. -/
def Program.normal (config : Config) : Program → Program
  | ⟨body, blockParams, strip, loc⟩ =>
    Program.finished config ⟨respaced body (normalEach config body), blockParams, strip, loc⟩

end

mutual

/-- The custom elements in a node, each behind the ones in it: the order in which they
are closed. -/
def Node.customElements : Node → List Element
  | .block ⟨_, program, inverse, _, _, _⟩ =>
    program.customElements ++ customElementsOfInverse inverse
  | .component ⟨_, _, program, _⟩ => program.customElements
  | .element ⟨tag, attributes, children, loc⟩ =>
    customElementsOf children ++
      if isCustomTag tag then [⟨tag, attributes, children, loc⟩] else []
  | _ => []

/-- The custom elements in nodes, from left to right. -/
def customElementsOf : List Node → List Element
  | [] => []
  | node :: nodes => node.customElements ++ customElementsOf nodes

/-- The custom elements in a program that is not always there. -/
def customElementsOfInverse : Option Program → List Element
  | none => []
  | some program => program.customElements

/-- The custom elements in a program. -/
def Program.customElements : Program → List Element
  | ⟨body, _, _, _⟩ => customElementsOf body

end

/-- The first fault among elements that are closed one after the other. -/
def firstFault? (elements : List Element) : Option TemplateFault :=
  elements.findSome? fun e => runFault? e.attributes

/-- The first fault of a program. -/
def Program.fault? (p : Program) : Option TemplateFault :=
  firstFault? p.customElements

variable {config : Config} {nodes : List Node} {node : Node}

/-! ## One level at a time -/

theorem normalEach_eq_map (config : Config) (nodes : List Node) :
    normalEach config nodes = nodes.map (Node.normal config) := by
  induction nodes with
  | nil => rfl
  | cons node nodes ih => rw [normalEach, ih, List.map_cons]

theorem normal_element (config : Config) (e : Element) : (Node.element e).normal config =
    Element.converted config
      { e with children := respaced e.children (e.children.map (Node.normal config)) } := by
  obtain ⟨tag, attributes, children, loc⟩ := e
  rw [Node.normal, normalEach_eq_map]

/-- A custom element becomes a component: its children, normal and spaced anew, are
finished as the body of a program. -/
theorem normal_element_of_custom {e : Element} (h : isCustomTag e.tag = true) :
    (Node.element e).normal config = .component
      { tag := e.tag
        attributes := keptAttributes e.attributes
        program := Program.finished config (.build
          (respaced e.children (e.children.map (Node.normal config))) (boundNames e.attributes))
        loc := e.loc } := by
  rw [normal_element]
  exact if_pos h

/-- Any other element stays one. -/
theorem normal_element_of_plain {e : Element} (h : isCustomTag e.tag = false) :
    (Node.element e).normal config = .element
      { e with children := respaced e.children (e.children.map (Node.normal config)) } := by
  rw [normal_element]
  exact if_neg (by simp [h])

theorem normal_block (config : Config) (b : Block) : (Node.block b).normal config =
    .block { b with
      program := b.program.normal config
      inverse := b.inverse.map (Program.normal config) } := by
  obtain ⟨expression, program, inverse, openStrip, closeStrip, loc⟩ := b
  cases inverse <;> rfl

theorem normal_component (config : Config) (c : Component) : (Node.component c).normal config =
    .component { c with
      program := Program.refinished config c.program.body { c.program with
        body := respaced c.program.body (c.program.body.map (Node.normal config)) } } := by
  obtain ⟨tag, attributes, ⟨body, blockParams, strip, programLoc⟩, loc⟩ := c
  rw [Node.normal, normalEach_eq_map]

theorem normal_of_lists_eq_nil (h : node.lists = []) : node.normal config = node := by
  cases node <;> first | rfl | cases h

theorem normal_program (config : Config) (p : Program) : p.normal config =
    Program.finished config
      { p with body := respaced p.body (p.body.map (Node.normal config)) } := by
  obtain ⟨body, blockParams, strip, loc⟩ := p
  rw [Program.normal, normalEach_eq_map]

/-! ## The outcome -/

theorem outcome_respace (before after : List Node) :
    outcome (respace before after) = .ok (respaced before after) := by
  unfold respace respaced
  split
  · rw [outcome_lift, value_spaced]
  · rfl

theorem outcome_refinish (config : Config) (before : List Node) (p : Program) :
    outcome (refinish config before p) = .ok (p.refinished config before) := by
  unfold refinish Program.refinished
  split
  · rw [outcome_lift, value_finish]
  · rfl

/-- Of elements in a row, the first fault counts. -/
theorem firstFault?_append (first rest : List Element) :
    firstFault? (first ++ rest) = (firstFault? first).or (firstFault? rest) :=
  List.findSome?_append

/-- An element's own fault is looked for behind the faults inside it. -/
theorem firstFault?_own (e : Element) :
    firstFault? (if isCustomTag e.tag then [e] else []) = e.fault? := by
  unfold firstFault? Element.fault?
  by_cases htag : isCustomTag e.tag = true
  · simp [htag]
  · simp [htag]

/-- If each node of a list ends in its normal form or its first fault, so does the
list. -/
theorem outcome_normalizeEach_of (h : ∀ node ∈ nodes,
      outcome (node.normalize config) =
        settle (firstFault? node.customElements) (node.normal config)) :
    outcome (normalizeEach config nodes) =
      settle (firstFault? (customElementsOf nodes)) (nodes.map (Node.normal config)) := by
  induction nodes with
  | nil => rfl
  | cons node nodes ih =>
    have hnode := h node List.mem_cons_self
    have hnodes := ih fun other hother => h other (List.mem_cons_of_mem node hother)
    simp only [normalizeEach, outcome_bind, hnode, hnodes, outcome_pure, settle_bind_ok,
      settle_bind]
    rw [customElementsOf, firstFault?_append, List.map_cons]

/-- So does a program whose body does. -/
theorem outcome_normalize_of (p : Program) (h : ∀ node ∈ p.body,
      outcome (node.normalize config) =
        settle (firstFault? node.customElements) (node.normal config)) :
    outcome (p.normalize config) = settle p.fault? (p.normal config) := by
  obtain ⟨body, blockParams, strip, loc⟩ := p
  simp only [Program.normalize, outcome_bind, outcome_normalizeEach_of h, outcome_respace,
    outcome_lift, value_finish]
  rw [Program.fault?, Program.customElements, Program.normal, normalEach_eq_map]
  exact settle_bind_ok _

/-- **A node ends in its normal form, or in its first fault.** -/
theorem Node.outcome_normalize (config : Config) (node : Node) :
    outcome (node.normalize config) =
      settle (firstFault? node.customElements) (node.normal config) := by
  induction node with
  | element e ih =>
    obtain ⟨tag, attributes, children, loc⟩ := e
    simp only [Node.normalize, outcome_bind, outcome_normalizeEach_of ih, outcome_respace,
      outcome_convertElement]
    rw [Node.normal, normalEach_eq_map, Node.customElements, firstFault?_append,
      firstFault?_own ⟨tag, attributes, children, loc⟩]
    -- the children do not matter to the element's own fault
    change (_ >>= fun after => settle (Element.fault? ⟨tag, attributes, children, loc⟩)
      (Element.converted config ⟨tag, attributes, respaced children after, loc⟩)) = _
    exact settle_bind _
  | block b ih ih' =>
    obtain ⟨expression, program, inverse, openStrip, closeStrip, loc⟩ := b
    have hprogram := outcome_normalize_of program ih
    have hinverse : outcome (normalizeInverse config inverse) =
        settle (firstFault? (customElementsOfInverse inverse)) (normalInverse config inverse) := by
      cases inverse with
      | none => rfl
      | some other =>
        simp only [normalizeInverse, outcome_bind, outcome_normalize_of other (ih' other rfl),
          outcome_pure]
        exact settle_bind_ok some
    -- the program's fault counts before the one of the inverse
    simp only [Node.normalize, outcome_bind, hprogram, hinverse, outcome_pure, settle_bind_ok,
      settle_bind]
    rw [Node.customElements, firstFault?_append, Node.normal, Program.fault?]
  | component c ih =>
    obtain ⟨tag, attributes, ⟨body, blockParams, strip, programLoc⟩, loc⟩ := c
    simp only [Node.normalize, outcome_bind, outcome_normalizeEach_of ih, outcome_respace,
      outcome_refinish, outcome_pure]
    rw [Node.normal, normalEach_eq_map, Node.customElements, Program.customElements]
    exact settle_bind_ok _
  | leaf node h => cases node <;> first | rfl | cases h

/-- **A program ends in its normal form, or in its first fault.** -/
theorem Program.outcome_normalize (config : Config) (p : Program) :
    outcome (p.normalize config) = settle p.fault? (p.normal config) :=
  outcome_normalize_of p fun node _ => node.outcome_normalize config

/-- **So does a compilation.** -/
theorem outcome_compile (config : Config) (p : Program) :
    outcome (p.compile config) = settle p.fault? (p.normal config) := by
  rw [Program.compile, outcome_reporting, Program.outcome_normalize]

/-- A template compiles to its normal form where nothing is at fault. -/
theorem outcome_compile_eq_ok_iff {p q : Program} :
    outcome (p.compile config) = .ok q ↔ p.fault? = none ∧ p.normal config = q := by
  rw [outcome_compile, settle_eq_ok_iff]

/-! ## What siblings see of a normal form -/

/-- A text is its own normal form. -/
theorem normal_text (config : Config) (chars : String) (loc : Option Span) :
    (Node.text chars loc).normal config = .text chars loc := rfl

/-- **No custom element is normal.** -/
theorem isCustomElement_normal (config : Config) (node : Node) :
    (node.normal config).isCustomElement = false := by
  cases node with
  | element e =>
    rw [normal_element]
    exact isCustomElement_converted config _
  | block b => rw [normal_block]; rfl
  | component c => rw [normal_component]; rfl
  | _ => rfl

/-- **What is not converted keeps its outside.** -/
theorem outside_normal (h : node.isCustomElement = false) :
    (node.normal config).outside = node.outside := by
  cases node with
  | element e =>
    have htag : isCustomTag e.tag = false := h
    rw [normal_element_of_plain htag]
    rfl
  | block b => rw [normal_block]; rfl
  | component c => rw [normal_component]; rfl
  | _ => rfl

/-- **What is converted becomes live**, and keeps the rest of its outside: neither a
custom element nor a component has directives. -/
theorem outside_normal_of_custom (h : node.isCustomElement = true) :
    (node.normal config).outside = { node.outside with live := true, element := false } := by
  cases node with
  | element e =>
    have htag : isCustomTag e.tag = true := h
    rw [normal_element_of_custom htag]
    rfl
  | _ => cases h

/-- Every node keeps the directives that face its siblings. -/
theorem facing_normal (config : Config) (node : Node) :
    (node.normal config).facing = node.facing := by
  by_cases h : node.isCustomElement = true
  · exact congrArg Outside.facing (outside_normal_of_custom h)
  · exact Node.facing_of_outside (outside_normal (by simpa using h))

/-- A node is a text in its normal form if it is one. -/
theorem chars?_normal (config : Config) (node : Node) :
    (node.normal config).chars? = node.chars? := by
  by_cases h : node.isCustomElement = true
  · exact congrArg Outside.chars? (outside_normal_of_custom h)
  · exact Node.chars?_of_outside (outside_normal (by simpa using h))

/-- In a list without custom elements the live entries stay where they are. -/
theorem isLive_normal_of_mem (h : nodes.any Node.isCustomElement = false) (hnode : node ∈ nodes) :
    (node.normal config).isLive = node.isLive :=
  Node.isLive_of_outside (outside_normal (by simpa using List.any_eq_false.mp h node hnode))

/-- **A list that is apart can be spaced anew whether or not an element of it was
converted.** -/
theorem respaced_normal (h : Apart nodes) : respaced nodes (nodes.map (Node.normal config)) =
    spacedFrom none (nodes.map (Node.normal config)) := by
  unfold respaced
  split
  · rfl
  · -- without a conversion the live entries are where they were, and need no gaps
    rename_i hcustom
    have hmap : Apart (nodes.map (Node.normal config)) := by
      refine (List.isChain_map _).mpr (h.imp_of_mem_imp fun left right hleft hright hlive => ?_)
      rw [isLive_normal_of_mem (by simpa using hcustom) hleft,
        isLive_normal_of_mem (by simpa using hcustom) hright]
      exact hlive
    exact (spacedFrom_eq_self none hmap).symm

/-- What empty texts have, all entries of a normalized list have if the normal forms
have it. -/
theorem forall_mem_respaced_iff {P : Node → Prop} (hempty : P Node.emptyText) :
    (∀ node ∈ respaced nodes (nodes.map (Node.normal config)), P node) ↔
      ∀ node ∈ nodes, P (node.normal config) := by
  unfold respaced
  split
  · exact (forall_mem_spacedFrom_iff hempty).trans List.forall_mem_map
  · exact List.forall_mem_map

/-! ## All entries of a normal form -/

/-- The entries that finishing leaves of a list have what texts have if the normal forms
of the list's entries have it. -/
theorem forall_mem_finishedBody_respaced_iff {P : Node → Prop} {edges : Directives}
    (htext : ∀ chars loc, P (.text chars loc)) :
    (∀ node ∈ finishedBody config edges (respaced nodes (nodes.map (Node.normal config))),
      P node) ↔ ∀ node ∈ nodes, P (node.normal config) :=
  (forall_mem_finishedBody_iff htext).trans (forall_mem_respaced_iff (htext "" none))

/-- The same for the body of a program. -/
theorem forall_mem_normal_body_iff {P : Node → Prop} (htext : ∀ chars loc, P (.text chars loc))
    (p : Program) :
    (∀ node ∈ (p.normal config).body, P node) ↔ ∀ node ∈ p.body, P (node.normal config) := by
  rw [normal_program]
  exact forall_mem_finishedBody_respaced_iff htext

/-- **A normal form has a property throughout exactly where the normal form of every
entry has it**, if the texts have it, which are all that is added or dropped. -/
theorem throughout_normal_iff {A : Node → Prop} (htext : ∀ chars loc, A (.text chars loc))
    (node : Node) :
    (node.normal config).Throughout A ↔ node.Throughout fun node => A (node.normal config) := by
  have htexts : ∀ chars loc, (Node.text chars loc).Throughout A := fun chars loc =>
    (throughout_of_lists_eq_nil rfl).mpr (htext chars loc)
  -- at each kind of node, spacing and finishing leave the entries but for texts
  induction node with
  | element e ih =>
    rw [throughout_element, ← forall₂_congr ih]
    by_cases htag : isCustomTag e.tag = true
    · rw [normal_element_of_custom htag, throughout_component]
      exact and_congr_right' (forall_mem_finishedBody_respaced_iff htexts)
    · rw [normal_element_of_plain (by simpa using htag), throughout_element]
      exact and_congr_right' (forall_mem_respaced_iff (htexts "" none))
  | block b ih ih' =>
    rw [normal_block, throughout_block, throughout_block, normal_block,
      forall_mem_normal_body_iff htexts b.program, forall₂_congr ih]
    refine and_congr_right' (and_congr_right' ?_)
    cases hinverse : b.inverse with
    | none => simp
    | some p =>
      simpa using (forall_mem_normal_body_iff htexts p).trans (forall₂_congr (ih' p hinverse))
  | component c ih =>
    rw [normal_component, throughout_component, throughout_component, normal_component,
      ← forall₂_congr ih]
    refine and_congr_right' ?_
    unfold Program.refinished
    split
    · exact forall_mem_finishedBody_respaced_iff htexts
    · exact forall_mem_respaced_iff (htexts "" none)
  | leaf node h =>
    rw [normal_of_lists_eq_nil h, throughout_of_lists_eq_nil h, throughout_of_lists_eq_nil h,
      normal_of_lists_eq_nil h]

/-- **The same for a template**, and everything that is reached in it. -/
theorem everywhere_normal_iff {A : Node → Prop} (htext : ∀ chars loc, A (.text chars loc))
    (p : Program) :
    Everywhere (fun list => ∀ node ∈ list, A node) (p.normal config).body ↔
      Everywhere (fun list => ∀ node ∈ list, A (node.normal config)) p.body := by
  have htexts : ∀ chars loc, (Node.text chars loc).Throughout A := fun chars loc =>
    (throughout_of_lists_eq_nil rfl).mpr (htext chars loc)
  rw [everywhere_forall_mem_iff, everywhere_forall_mem_iff, forall_mem_normal_body_iff htexts p]
  exact forall₂_congr fun node _ => throughout_normal_iff htext node

/-- A block's programs are finished. -/
theorem exists_finished_of_mem_programs {b : Block} {r : Program}
    (h : r ∈ ((Node.block b).normal config).programs) : ∃ p, r = Program.finished config p := by
  rw [normal_block] at h
  rcases List.mem_cons.mp h with rfl | h
  · exact ⟨_, normal_program config b.program⟩
  · obtain ⟨other, -, rfl⟩ := Option.map_eq_some_iff.mp (Option.mem_toList.mp h)
    exact ⟨_, normal_program config other⟩

/-! ## A template -/

/-- A custom element beside a mustache; it binds a name, and a block in it holds
another custom element. -/
def menu : Program :=
  let item := Node.element (.build "x-item" [])
  let items := Node.buildBlock (.ofText "each") [] [] (.build [item] none) none
  let list := Node.element
    { tag := "x-menu"
      attributes := [.build "as" (.ofText ""), .build "|dish|" (.ofText "")]
      children := [items]
      loc := none }
  .build [.ofText "Today", list, .buildMustache (.ofText "total") [] [] true] none

end MarkupTemplate
