import MarkupTemplate.Proofs.Normal.Fault
import MarkupTemplate.Proofs.Normal.TrimTexts
import MarkupTemplate.Proofs.Tree.Rebuilt
/-!
# Trimming — the strip directives, honoured ahead of the compilation

Where stripping is on, texts are trimmed in the very scan that drops neighbours, behind
the steps that convert them and put gaps between them. `Program.trimmed` trims the texts
of a template as it stands, in the lists that the compilation is going to scan.
`compile_trimmed` says that this comes to the same: with stripping on a template ends in
what the trimmed one ends in with stripping off. A conversion has no directives before
or after, so trimming commutes with normalizing, one level after the other.
-/

namespace MarkupTemplate

mutual

/-- A node with the texts in it trimmed. -/
def Node.trimmed : Node → Node
  | .block ⟨expression, program, inverse, openStrip, closeStrip, loc⟩ =>
    .block ⟨expression, program.trimmed, trimmedInverse inverse, openStrip, closeStrip, loc⟩
  | .component ⟨tag, attributes, ⟨body, blockParams, strip, programLoc⟩, loc⟩ =>
    -- a finished component is scanned again if an element of its body is converted
    let edges? := if body.any Node.isCustomElement then some strip else none
    .component ⟨tag, attributes, ⟨trimmedEach edges? none body, blockParams, strip, programLoc⟩,
      loc⟩
  | .element ⟨tag, attributes, children, loc⟩ =>
    -- the program that a custom element becomes has no directives of its own
    let edges? := if isCustomTag tag then some .empty else none
    .element ⟨tag, attributes, trimmedEach edges? none children, loc⟩
  | node => node

/-- The entries of a list behind `previous`, each trimmed between the siblings that it
has in the list. -/
def trimmedEach (edges? : Option Directives) (previous : Option Node) : List Node → List Node
  | [] => []
  | node :: rest =>
    node.trimmed.trimmedBetween edges? previous rest.head? :: trimmedEach edges? (some node) rest

/-- The program of a block that is not always there. -/
def trimmedInverse : Option Program → Option Program
  | none => none
  | some program => some program.trimmed

/-- A template with its texts trimmed. -/
def Program.trimmed : Program → Program
  | ⟨body, blockParams, strip, loc⟩ => ⟨trimmedEach (some strip) none body, blockParams, strip, loc⟩

end

/-- A text without its characters; any other node as it is. -/
def Node.withoutChars : Node → Node
  | .text _ loc => .text "" loc
  | node => node

/-- A node, but for the characters of the texts in it. -/
def Node.outline : Node → Node :=
  Node.rebuild (List.map Node.withoutChars) .element

/-- A template, but for the characters of its texts. -/
def Program.outline : Program → Program :=
  Program.rebuild (List.map Node.withoutChars) .element

variable {config : Config} {edges? : Option Directives} {previous next previous' : Option Node}
variable {node : Node} {nodes : List Node}

/-! ## One level at a time -/

theorem trimmed_element (e : Element) : (Node.element e).trimmed =
    .element { e with
      children := trimmedEach (if isCustomTag e.tag then some .empty else none) none
        e.children } := by
  obtain ⟨tag, attributes, children, loc⟩ := e
  rw [Node.trimmed]

theorem trimmed_program (p : Program) : p.trimmed =
    { p with body := trimmedEach (some p.strip) none p.body } := by
  obtain ⟨body, blockParams, strip, loc⟩ := p
  rw [Program.trimmed]

theorem trimmed_block (b : Block) : (Node.block b).trimmed =
    .block { b with
      program := b.program.trimmed
      inverse := b.inverse.map Program.trimmed } := by
  obtain ⟨expression, program, inverse, openStrip, closeStrip, loc⟩ := b
  cases inverse <;> rfl

theorem trimmed_component (c : Component) : (Node.component c).trimmed =
    .component { c with
      program := { c.program with
        body := trimmedEach
          (if c.program.body.any Node.isCustomElement then some c.program.strip else none) none
          c.program.body } } := by
  obtain ⟨tag, attributes, ⟨body, blockParams, strip, programLoc⟩, loc⟩ := c
  rw [Node.trimmed]

theorem trimmed_of_lists_eq_nil (h : node.lists = []) : node.trimmed = node := by
  cases node <;> first | rfl | cases h

/-- Trimming what is inside of a node, its tag stays. -/
theorem isCustomElement_trimmed (node : Node) :
    node.trimmed.isCustomElement = node.isCustomElement := by
  cases node with
  | element e => rw [trimmed_element]; rfl
  | block b => rw [trimmed_block]; rfl
  | component c => rw [trimmed_component]; rfl
  | _ => rfl

/-- The custom elements of a list stay where they are. -/
theorem any_isCustomElement_trimmedEach :
    (trimmedEach edges? previous nodes).any Node.isCustomElement =
      nodes.any Node.isCustomElement := by
  induction nodes generalizing previous with
  | nil => rfl
  | cons node rest ih => simp [trimmedEach, ih, isCustomElement_trimmed]

/-- Trimming a node among its siblings commutes with normalizing it. -/
theorem normal_trimmedBetween : (node.trimmedBetween edges? previous next).normal config =
    (node.normal config).trimmedBetween edges? previous next := by
  cases hchars : node.chars? with
  | none =>
    have hnormal : (node.normal config).chars? = none := by rw [chars?_normal, hchars]
    rw [trimmedBetween_of_chars?_eq_none hchars, trimmedBetween_of_chars?_eq_none hnormal]
  | some chars =>
    cases node with
    | text chars loc => cases edges? <;> rfl
    | _ => cases hchars

/-! ## The normal form of a trimmed tree -/

/-- If trimming each entry of a list and normalizing it with stripping off is
normalizing it with stripping on, then trimming the list is left of the two. -/
theorem map_normal_trimmedEach (hprevious : previous'.map Node.facing = previous.map Node.facing)
    (h : ∀ node ∈ nodes, node.trimmed.normal (config.withStripping false) =
      node.normal (config.withStripping true)) :
    (trimmedEach edges? previous nodes).map (Node.normal (config.withStripping false)) =
      trimTexts edges? previous' (nodes.map (Node.normal (config.withStripping true))) := by
  induction nodes generalizing previous previous' with
  | nil => rfl
  | cons node rest ih =>
    have hnode := h node List.mem_cons_self
    have hrest : (trimmedEach edges? (some node) rest).map
          (Node.normal (config.withStripping false)) =
        trimTexts edges? (some (node.normal (config.withStripping true)))
          (rest.map (Node.normal (config.withStripping true))) :=
      ih (congrArg some (facing_normal _ node)) fun other hother =>
        h other (List.mem_cons_of_mem node hother)
    have hnext : (rest.map (Node.normal (config.withStripping true))).head?.map Node.facing =
        rest.head?.map Node.facing := by
      cases rest with
      | nil => rfl
      | cons next _ => exact congrArg some (facing_normal _ next)
    rw [trimmedEach, List.map_cons, List.map_cons, trimTexts, normal_trimmedBetween, hnode,
      trimmedBetween_congr hprevious hnext, hrest]

/-- So it is for the list when it is spaced anew, or left alone. -/
theorem respaced_trimmedEach (h : ∀ node ∈ nodes,
      node.trimmed.normal (config.withStripping false) =
        node.normal (config.withStripping true)) :
    respaced (trimmedEach edges? none nodes)
        ((trimmedEach edges? none nodes).map (Node.normal (config.withStripping false))) =
      trimTexts edges? none
        (respaced nodes (nodes.map (Node.normal (config.withStripping true)))) := by
  rw [respaced, respaced, any_isCustomElement_trimmedEach, map_normal_trimmedEach rfl h]
  split
  · exact (trimTexts_spacedFrom rfl).symm
  · rfl

/-- **A program**: trimmed, and normalized with stripping off. -/
theorem normal_trimmed_program {p : Program} (h : ∀ node ∈ p.body,
      node.trimmed.normal (config.withStripping false) =
        node.normal (config.withStripping true)) :
    p.trimmed.normal (config.withStripping false) = p.normal (config.withStripping true) := by
  rw [trimmed_program, normal_program, normal_program, respaced_trimmedEach h]
  simp only [Program.finished, finishedBody_trimTexts]

/-- **A node**: trimming it and normalizing it with stripping off is normalizing it with
stripping on. -/
theorem normal_trimmed (config : Config) (node : Node) :
    node.trimmed.normal (config.withStripping false) =
      node.normal (config.withStripping true) := by
  induction node with
  | element e ih =>
    rw [trimmed_element, normal_element, normal_element, respaced_trimmedEach ih]
    unfold Element.converted
    by_cases htag : isCustomTag e.tag = true
    · -- the children are finished as a body without directives at its edges
      simp only [htag, if_true, Element.invocation, Program.finished, Program.build,
        finishedBody_trimTexts]
    · -- the children are not scanned
      simp only [htag, Bool.false_eq_true, if_false, trimTexts_none]
  | block b ih ih' =>
    have hprogram : b.program.trimmed.normal (config.withStripping false) =
        b.program.normal (config.withStripping true) := normal_trimmed_program ih
    have hinverse : (b.inverse.map Program.trimmed).map
          (Program.normal (config.withStripping false)) =
        b.inverse.map (Program.normal (config.withStripping true)) := by
      rw [Option.map_map]
      exact Option.map_congr fun p hp => normal_trimmed_program (ih' p hp)
    rw [trimmed_block, normal_block, normal_block]
    simp only [hprogram, hinverse]
  | component c ih =>
    rw [trimmed_component, normal_component, normal_component]
    simp only [Program.refinished, any_isCustomElement_trimmedEach, respaced_trimmedEach ih]
    by_cases hcustom : c.program.body.any Node.isCustomElement = true
    · simp only [hcustom, if_true, Program.finished, finishedBody_trimTexts]
    · simp only [hcustom, Bool.false_eq_true, if_false, trimTexts_none]
  | leaf node h =>
    rw [trimmed_of_lists_eq_nil h, normal_of_lists_eq_nil h, normal_of_lists_eq_nil h]

/-! ## The outline of a template -/

theorem outline_element (e : Element) : (Node.element e).outline =
    .element { e with children := (e.children.map Node.outline).map Node.withoutChars } :=
  rebuild_element e

theorem outline_block (b : Block) : (Node.block b).outline =
    .block { b with program := b.program.outline, inverse := b.inverse.map Program.outline } :=
  rebuild_block b

theorem outline_component (c : Component) : (Node.component c).outline =
    .component { c with program := c.program.outline } :=
  rebuild_component c

theorem outline_of_lists_eq_nil (h : node.lists = []) : node.outline = node :=
  rebuild_of_lists_eq_nil h

theorem outline_program (p : Program) : p.outline =
    { p with body := (p.body.map Node.outline).map Node.withoutChars } :=
  rebuild_program p

/-- A text that is trimmed loses nothing but characters. -/
theorem withoutChars_outline_trimmedBetween :
    (node.trimmedBetween edges? previous next).outline.withoutChars =
      node.outline.withoutChars := by
  cases node with
  | text chars loc => cases edges? <;> rfl
  | _ => rfl

/-- A list whose entries keep their outlines keeps its own. -/
theorem outlines_trimmedEach (h : ∀ node ∈ nodes, node.trimmed.outline = node.outline) :
    ((trimmedEach edges? previous nodes).map Node.outline).map Node.withoutChars =
      (nodes.map Node.outline).map Node.withoutChars := by
  induction nodes generalizing previous with
  | nil => rfl
  | cons node rest ih =>
    have hnode := h node List.mem_cons_self
    have hrest := fun other hother => h other (List.mem_cons_of_mem node hother)
    simp only [trimmedEach, List.map_cons, withoutChars_outline_trimmedBetween, hnode, ih hrest]

/-- So does a program. -/
theorem outline_trimmed_program {p : Program}
    (h : ∀ node ∈ p.body, node.trimmed.outline = node.outline) :
    p.trimmed.outline = p.outline := by
  rw [trimmed_program, outline_program, outline_program, outlines_trimmedEach h]

/-- **Trimming keeps the outline of a node.** -/
theorem outline_trimmed (node : Node) : node.trimmed.outline = node.outline := by
  induction node with
  | element e ih =>
    rw [trimmed_element, outline_element, outline_element, outlines_trimmedEach ih]
  | block b ih ih' =>
    have hprogram : b.program.trimmed.outline = b.program.outline := outline_trimmed_program ih
    have hinverse : (b.inverse.map Program.trimmed).map Program.outline =
        b.inverse.map Program.outline := by
      rw [Option.map_map]
      exact Option.map_congr fun p hp => outline_trimmed_program (ih' p hp)
    rw [trimmed_block, outline_block, outline_block]
    simp only [hprogram, hinverse]
  | component c ih =>
    rw [trimmed_component, outline_component, outline_component, outline_program, outline_program,
      outlines_trimmedEach ih]
  | leaf node h => rw [trimmed_of_lists_eq_nil h]

/-- If the outlines of entries have the attributes of their custom elements, so has the
outline of a list. -/
theorem attributes_customElementsOf_outlines (h : ∀ node ∈ nodes,
      node.outline.customElements.map Element.attributes =
        node.customElements.map Element.attributes) :
    (customElementsOf ((nodes.map Node.outline).map Node.withoutChars)).map Element.attributes =
      (customElementsOf nodes).map Element.attributes := by
  rw [List.map_map]
  refine attributes_customElementsOf_map fun node hnode => ?_
  have htext : node.outline.withoutChars.customElements = node.outline.customElements := by
    cases node.outline <;> rfl
  rw [Function.comp_apply, htext]
  exact h node hnode

/-- **Custom elements keep their attributes** whatever the characters of texts are. -/
theorem attributes_customElements_outline (node : Node) :
    node.outline.customElements.map Element.attributes =
      node.customElements.map Element.attributes := by
  induction node with
  | element e ih =>
    rw [outline_element, customElements_element, customElements_element, List.map_append,
      List.map_append, attributes_customElementsOf_outlines ih]
    split <;> rfl
  | block b ih ih' =>
    rw [outline_block, customElements_block, customElements_block, List.map_append,
      List.map_append, outline_program, attributes_customElementsOf_outlines ih]
    cases hinverse : b.inverse with
    | none => rfl
    | some other =>
      have hother := attributes_customElementsOf_outlines (ih' other hinverse)
      simp [outline_program, -List.map_map, hother]
  | component c ih =>
    rw [outline_component, customElements_component, customElements_component, outline_program]
    exact attributes_customElementsOf_outlines ih
  | leaf node h => rw [outline_of_lists_eq_nil h]

/-- Texts have no part in a fault. -/
theorem fault?_outline (p : Program) : p.outline.fault? = p.fault? := by
  refine firstFault?_congr ?_
  rw [outline_program, customElements_program, customElements_program]
  exact attributes_customElementsOf_outlines fun node _ => attributes_customElements_outline node

/-! ## Compiling a trimmed template -/

/-- **Stripping can be done ahead of the compilation.** Trimming changes a template in
nothing but the characters of its texts, and with stripping on the template ends in the
tree or the fault that the trimmed one ends in with stripping off. -/
theorem compile_trimmed (config : Config) (p : Program) :
    p.trimmed.outline = p.outline ∧
      outcome (p.compile (config.withStripping true)) =
        outcome (p.trimmed.compile (config.withStripping false)) := by
  have houtline : p.trimmed.outline = p.outline :=
    outline_trimmed_program fun node _ => outline_trimmed node
  have hfault : p.trimmed.fault? = p.fault? := by
    rw [← fault?_outline, houtline, fault?_outline]
  have hnormal : p.trimmed.normal (config.withStripping false) =
      p.normal (config.withStripping true) :=
    normal_trimmed_program fun node _ => normal_trimmed config node
  rw [outcome_compile, outcome_compile, hfault, hnormal]
  exact ⟨houtline, rfl⟩

end MarkupTemplate
