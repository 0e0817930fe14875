import MarkupTemplate.Proofs.Normal.Form
/-!
# Faults — which templates are rejected, and for what

A compilation ends in a fault when a custom element has a malformed parameter run,
and the fault is the one of the first such element, in the order in which elements are
closed. `mem_customElements_iff` says that no reached custom element is missed by that
order, `firstFault?_eq_some_iff` finds the first fault in it. The components of a
template are none of its custom elements: `Program.withArguments` gives them other
attributes, and no fault comes or goes.
-/

namespace MarkupTemplate

/-- The parameter run of an element cannot be taken. -/
def Element.IsRefused (e : Element) : Prop :=
  ∃ fault, e.takeBlockParams (.build e.children none) = .error fault

variable {e : Element} {node : Node} {nodes : List Node} {elements : List Element}
variable {fault : TemplateFault}

/-! ## Faults of one element -/

/-- Taking the parameter run fails with the fault that the attributes have. -/
theorem takeBlockParams_eq_error_iff :
    e.takeBlockParams (.build e.children none) = .error fault ↔
      runFault? e.attributes = some fault := by
  rw [takeBlockParams_build]
  cases runFault? e.attributes <;> simp

theorem isRefused_iff : e.IsRefused ↔ runFault? e.attributes ≠ none := by
  rw [Option.ne_none_iff_exists']
  exact exists_congr fun _ => takeBlockParams_eq_error_iff

/-- **The first fault is the fault of an element that none in front of it shares.** -/
theorem firstFault?_eq_some_iff : firstFault? elements = some fault ↔
    ∃ before e after, elements = before ++ e :: after ∧ (∀ d ∈ before, ¬ d.IsRefused) ∧
      e.takeBlockParams (.build e.children none) = .error fault := by
  rw [firstFault?, List.findSome?_eq_some_iff]
  constructor
  · rintro ⟨before, e, after, rfl, hfault, hbefore⟩
    refine ⟨before, e, after, rfl, fun d hd => ?_, takeBlockParams_eq_error_iff.mpr hfault⟩
    rw [isRefused_iff, hbefore d hd]
    exact fun h => h rfl
  · rintro ⟨before, e, after, rfl, hbefore, hfault⟩
    refine ⟨before, e, after, rfl, takeBlockParams_eq_error_iff.mp hfault, fun d hd => ?_⟩
    exact not_ne_iff.mp (isRefused_iff.not.mp (hbefore d hd))

/-- There is a first fault if an element has one. -/
theorem exists_firstFault?_iff :
    (∃ fault, firstFault? elements = some fault) ↔ ∃ e ∈ elements, e.IsRefused := by
  rw [← Option.isSome_iff_exists, firstFault?, List.findSome?_isSome_iff]
  simp only [isRefused_iff, Option.isSome_iff_ne_none]

/-! ## One level at a time -/

theorem customElementsOf_eq_flatMap (nodes : List Node) :
    customElementsOf nodes = nodes.flatMap Node.customElements := by
  induction nodes with
  | nil => rfl
  | cons node nodes ih => rw [customElementsOf, ih, List.flatMap_cons]

theorem customElements_element (e : Element) : (Node.element e).customElements =
    customElementsOf e.children ++ if isCustomTag e.tag then [e] else [] := by
  obtain ⟨tag, attributes, children, loc⟩ := e
  rw [Node.customElements]

theorem customElements_block (b : Block) : (Node.block b).customElements =
    customElementsOf b.program.body ++
      (b.inverse.toList.map Program.body).flatMap customElementsOf := by
  obtain ⟨expression, ⟨body, _, _, _⟩, inverse, openStrip, closeStrip, loc⟩ := b
  cases inverse with
  | none => rfl
  | some other =>
    obtain ⟨otherBody, _, _, _⟩ := other
    simp [Node.customElements, Program.customElements, customElementsOfInverse]

theorem customElements_component (c : Component) :
    (Node.component c).customElements = customElementsOf c.program.body := by
  obtain ⟨tag, attributes, ⟨body, _, _, _⟩, loc⟩ := c
  rw [Node.customElements, Program.customElements]

theorem customElements_of_lists_eq_nil (h : node.lists = []) : node.customElements = [] := by
  cases node <;> first | rfl | cases h

theorem customElements_program (p : Program) : p.customElements = customElementsOf p.body := by
  obtain ⟨body, blockParams, strip, loc⟩ := p
  rw [Program.customElements]

/-! ## The custom elements of a template -/

/-- If the custom elements of each node are the ones that are reached in it, and the
node itself, then those of a list are the ones that are reached from the list. -/
theorem mem_customElementsOf_of (h : ∀ node ∈ nodes, (e ∈ node.customElements ↔
      isCustomTag e.tag = true ∧ (node = .element e ∨
        ∃ inner ∈ node.lists, ∃ list, Reaches inner list ∧ .element e ∈ list))) :
    e ∈ customElementsOf nodes ↔
      isCustomTag e.tag = true ∧ ∃ list, Reaches nodes list ∧ .element e ∈ list := by
  rw [customElementsOf_eq_flatMap, List.mem_flatMap]
  constructor
  · rintro ⟨node, hnode, he⟩
    obtain ⟨htag, rfl | ⟨inner, hinner, list, hlist, he⟩⟩ := (h node hnode).mp he
    · exact ⟨htag, nodes, .root, hnode⟩
    · exact ⟨htag, list, .of_held hnode hinner hlist, he⟩
  · rintro ⟨htag, list, hlist, he⟩
    rcases hlist.cases_held with rfl | ⟨node, hnode, inner, hinner, hlist⟩
    · exact ⟨_, he, (h _ he).mpr ⟨htag, .inl rfl⟩⟩
    · exact ⟨node, hnode, (h node hnode).mpr ⟨htag, .inr ⟨inner, hinner, list, hlist, he⟩⟩⟩

/-- An element is one of its own custom elements if its tag asks for a component. -/
theorem mem_own_iff (d : Element) : e ∈ (if isCustomTag d.tag then [d] else []) ↔
    isCustomTag e.tag = true ∧ Node.element d = .element e := by
  rw [Node.element.injEq]
  by_cases htag : isCustomTag d.tag = true
  · rw [if_pos htag, List.mem_singleton]
    constructor
    · rintro rfl
      exact ⟨htag, rfl⟩
    · rintro ⟨-, rfl⟩
      rfl
  · rw [if_neg htag]
    refine ⟨nofun, ?_⟩
    rintro ⟨hcustom, rfl⟩
    exact absurd hcustom htag

/-- The custom elements in a node are the ones that are reached in it, and the node
itself. -/
theorem Node.mem_customElements_iff (e : Element) (node : Node) : e ∈ node.customElements ↔
    isCustomTag e.tag = true ∧ (node = .element e ∨
      ∃ inner ∈ node.lists, ∃ list, Reaches inner list ∧ .element e ∈ list) := by
  induction node with
  | element d ih =>
    rw [customElements_element, List.mem_append, mem_customElementsOf_of ih, mem_own_iff,
      ← and_or_left, or_comm]
    simp only [Node.lists_element, List.mem_singleton, exists_eq_left]
  | block b ih ih' =>
    have hbody := mem_customElementsOf_of ih
    rw [customElements_block, List.mem_append, hbody]
    cases hinverse : b.inverse with
    | none => simp [hinverse]
    | some other =>
      have hother := mem_customElementsOf_of (ih' other hinverse)
      simp [hinverse, hother, and_or_left]
  | component c ih =>
    rw [customElements_component, mem_customElementsOf_of ih]
    simp
  | leaf node h =>
    rw [customElements_of_lists_eq_nil h, h]
    cases node <;> first | (simp; done) | cases h

/-- **The custom elements of a template are the ones in its reached lists.** -/
theorem mem_customElements_iff (e : Element) (p : Program) : e ∈ p.customElements ↔
    isCustomTag e.tag = true ∧ ∃ list, Reaches p.body list ∧ .element e ∈ list := by
  rw [customElements_program]
  exact mem_customElementsOf_of fun node _ => node.mem_customElements_iff e

/-! ## Other attributes for components -/

section

variable (attributesOf : Component → List Attr)

mutual

/-- A node with other attributes for the components in it. -/
def Node.withArguments : Node → Node
  | .block ⟨expression, program, inverse, openStrip, closeStrip, loc⟩ =>
    .block ⟨expression, program.withArguments, inverseWithArguments inverse, openStrip,
      closeStrip, loc⟩
  | .component ⟨tag, attributes, program, loc⟩ =>
    .component ⟨tag, attributesOf ⟨tag, attributes, program, loc⟩, program.withArguments, loc⟩
  | .element ⟨tag, attributes, children, loc⟩ =>
    .element ⟨tag, attributes, eachWithArguments children, loc⟩
  | node => node

/-- Nodes with other attributes for the components among them and in them. -/
def eachWithArguments : List Node → List Node
  | [] => []
  | node :: nodes => node.withArguments :: eachWithArguments nodes

/-- The program of a block that is not always there. -/
def inverseWithArguments : Option Program → Option Program
  | none => none
  | some program => some program.withArguments

/-- A template with other attributes for its components. -/
def Program.withArguments : Program → Program
  | ⟨body, blockParams, strip, loc⟩ => ⟨eachWithArguments body, blockParams, strip, loc⟩

end

end

theorem eachWithArguments_eq_map (attributesOf : Component → List Attr) (nodes : List Node) :
    eachWithArguments attributesOf nodes = nodes.map (Node.withArguments attributesOf) := by
  induction nodes with
  | nil => rfl
  | cons node nodes ih => rw [eachWithArguments, ih, List.map_cons]

/-! ## Changes that keep the attributes of custom elements -/

/-- A change that keeps the attributes of the custom elements in each node keeps those
of a list. -/
theorem attributes_customElementsOf_map {f : Node → Node}
    (h : ∀ node ∈ nodes, (f node).customElements.map Element.attributes =
      node.customElements.map Element.attributes) :
    (customElementsOf (nodes.map f)).map Element.attributes =
      (customElementsOf nodes).map Element.attributes := by
  rw [customElementsOf_eq_flatMap, customElementsOf_eq_flatMap, List.flatMap_map,
    List.map_flatMap, List.map_flatMap]
  exact List.flatMap_congr h

/-- **Custom elements keep their attributes** whatever the attributes of components
are. -/
theorem attributes_customElements_withArguments (attributesOf : Component → List Attr)
    (node : Node) : (node.withArguments attributesOf).customElements.map Element.attributes =
      node.customElements.map Element.attributes := by
  induction node with
  | element e ih =>
    obtain ⟨tag, attributes, children, loc⟩ := e
    have hchildren := attributes_customElementsOf_map ih
    rw [Node.withArguments, customElements_element, customElements_element, List.map_append,
      List.map_append, eachWithArguments_eq_map, hchildren]
    split <;> rfl
  | block b ih ih' =>
    obtain ⟨expression, ⟨body, _, _, _⟩, inverse, openStrip, closeStrip, loc⟩ := b
    have hbody := attributes_customElementsOf_map ih
    rw [Node.withArguments, customElements_block, customElements_block, List.map_append,
      List.map_append, Program.withArguments, eachWithArguments_eq_map, hbody]
    cases inverse with
    | none => rfl
    | some other =>
      obtain ⟨otherBody, _, _, _⟩ := other
      have hother := attributes_customElementsOf_map (ih' _ rfl)
      simp [inverseWithArguments, Program.withArguments, eachWithArguments_eq_map, hother]
  | component c ih =>
    obtain ⟨tag, attributes, ⟨body, _, _, _⟩, loc⟩ := c
    rw [Node.withArguments, customElements_component, customElements_component,
      Program.withArguments, eachWithArguments_eq_map]
    exact attributes_customElementsOf_map ih
  | leaf node h => cases node <;> first | rfl | cases h

/-- A fault is a matter of the attributes alone. -/
theorem firstFault?_congr {others : List Element}
    (h : others.map Element.attributes = elements.map Element.attributes) :
    firstFault? others = firstFault? elements := by
  have hattributes : ∀ row : List Element,
      firstFault? row = (row.map Element.attributes).findSome? runFault? := by
    intro row
    rw [List.findSome?_map]
    rfl
  rw [hattributes, hattributes, h]

/-- A template has the same fault with other attributes for its components. -/
theorem fault?_withArguments (attributesOf : Component → List Attr) (p : Program) :
    (p.withArguments attributesOf).fault? = p.fault? := by
  obtain ⟨body, blockParams, strip, loc⟩ := p
  refine firstFault?_congr ?_
  rw [Program.withArguments, customElements_program, eachWithArguments_eq_map]
  exact attributes_customElementsOf_map fun node _ =>
    attributes_customElements_withArguments attributesOf node

/-! ## Rejected templates -/

/-- A compilation ends in the first fault of the template, if there is one. -/
theorem outcome_compile_eq_error_iff {config : Config} {p : Program} {fault : CompileFault} :
    outcome (p.compile config) = .error fault ↔
      ∃ first, p.fault? = some first ∧ fault = .template first := by
  rw [outcome_compile]
  cases p.fault? with
  | none => simp
  | some first => simp [eq_comm]

/-- **A template is rejected if a custom element that is reached has a malformed
parameter run**, and else it compiles. -/
theorem exists_fault_compile_iff (config : Config) (p : Program) :
    (∃ fault, outcome (p.compile config) = .error fault) ↔
      ∃ list, Reaches p.body list ∧
        ∃ e, .element e ∈ list ∧ isCustomTag e.tag = true ∧ e.IsRefused := by
  have hfault : (∃ fault, outcome (p.compile config) = .error fault) ↔
      ∃ first, p.fault? = some first := by
    constructor
    · rintro ⟨fault, h⟩
      obtain ⟨first, hfirst, -⟩ := outcome_compile_eq_error_iff.mp h
      exact ⟨first, hfirst⟩
    · rintro ⟨first, hfirst⟩
      exact ⟨_, outcome_compile_eq_error_iff.mpr ⟨first, hfirst, rfl⟩⟩
  rw [hfault, Program.fault?, exists_firstFault?_iff]
  constructor
  · rintro ⟨e, he, hrefused⟩
    obtain ⟨htag, list, hlist, hmem⟩ := (mem_customElements_iff e p).mp he
    exact ⟨list, hlist, e, hmem, htag, hrefused⟩
  · rintro ⟨list, hlist, e, hmem, htag, hrefused⟩
    exact ⟨e, (mem_customElements_iff e p).mpr ⟨htag, list, hlist, hmem⟩, hrefused⟩

/-- **The fault is the one of the first such element** in the order in which elements
are closed. -/
theorem fault_compile_iff (config : Config) (p : Program) (fault : CompileFault) :
    outcome (p.compile config) = .error fault ↔
      ∃ before e after params span, p.customElements = before ++ e :: after ∧
        (∀ d ∈ before, ¬ d.IsRefused) ∧
        e.takeBlockParams (.build e.children none) = .error (.malformedParams params span) ∧
        fault = .template (.malformedParams params span) := by
  rw [outcome_compile_eq_error_iff]
  constructor
  · rintro ⟨⟨params, span⟩, hfirst, rfl⟩
    obtain ⟨before, e, after, helements, hbefore, he⟩ := firstFault?_eq_some_iff.mp hfirst
    exact ⟨before, e, after, params, span, helements, hbefore, he, rfl⟩
  · rintro ⟨before, e, after, params, span, helements, hbefore, he, rfl⟩
    exact ⟨_, firstFault?_eq_some_iff.mpr ⟨before, e, after, helements, hbefore, he⟩, rfl⟩

/-- **A template is rejected for its first malformed parameter run, and for nothing
else.** There is a fault if the run of a reached custom element is malformed; the fault
is the one of the first such element, as elements are closed; and neither the
configuration nor the attributes of components have a part in it. -/
theorem rejected_compile_iff (p : Program) :
    (∀ config, (∃ fault, outcome (p.compile config) = .error fault) ↔
      ∃ list, Reaches p.body list ∧
        ∃ e, .element e ∈ list ∧ isCustomTag e.tag = true ∧ e.IsRefused) ∧
    (∀ config fault, outcome (p.compile config) = .error fault ↔
      ∃ before e after params span, p.customElements = before ++ e :: after ∧
        (∀ d ∈ before, ¬ d.IsRefused) ∧
        e.takeBlockParams (.build e.children none) = .error (.malformedParams params span) ∧
        fault = .template (.malformedParams params span)) ∧
    (∀ config config' fault, outcome (p.compile config) = .error fault ↔
      outcome (p.compile config') = .error fault) ∧
    ∀ config attributesOf fault,
      outcome ((p.withArguments attributesOf).compile config) = .error fault ↔
        outcome (p.compile config) = .error fault := by
  refine ⟨fun config => exists_fault_compile_iff config p,
    fun config fault => fault_compile_iff config p fault, ?_, ?_⟩
  · intro config config' fault
    rw [outcome_compile_eq_error_iff, outcome_compile_eq_error_iff]
  · intro config attributesOf fault
    rw [outcome_compile_eq_error_iff, outcome_compile_eq_error_iff, fault?_withArguments]

end MarkupTemplate
