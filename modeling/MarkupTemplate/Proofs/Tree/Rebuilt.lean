import MarkupTemplate.Proofs.Tree.Reached
/-!
# Rebuilt trees — a change made from the leaves up

`Node.rebuild list element` changes every reached child list by `list` and every
reached element by `element`, once what is inside has been changed; everything else
of a node stays. The equations say what this does to each kind of node, with the
entries of a list rebuilt one by one.
-/

namespace MarkupTemplate

section

variable (list : List Node → List Node) (element : Element → Node)

mutual

/-- A node rebuilt from the leaves up. -/
def Node.rebuild : Node → Node
  | .block ⟨expression, program, inverse, openStrip, closeStrip, loc⟩ =>
    .block ⟨expression, program.rebuild, rebuildInverse inverse, openStrip, closeStrip, loc⟩
  | .component ⟨tag, attributes, program, loc⟩ =>
    .component ⟨tag, attributes, program.rebuild, loc⟩
  | .element ⟨tag, attributes, children, loc⟩ =>
    element ⟨tag, attributes, list (rebuildEach children), loc⟩
  | node => node

/-- Nodes rebuilt one by one. -/
def rebuildEach : List Node → List Node
  | [] => []
  | node :: nodes => node.rebuild :: rebuildEach nodes

/-- The rebuilt program of a block that is not always there. -/
def rebuildInverse : Option Program → Option Program
  | none => none
  | some program => some program.rebuild

/-- A program with its body rebuilt. -/
def Program.rebuild : Program → Program
  | ⟨body, blockParams, strip, loc⟩ => ⟨list (rebuildEach body), blockParams, strip, loc⟩

end

end

variable {list : List Node → List Node} {element : Element → Node}

theorem rebuildEach_eq_map (nodes : List Node) :
    rebuildEach list element nodes = nodes.map (Node.rebuild list element) := by
  induction nodes with
  | nil => rfl
  | cons node nodes ih => rw [rebuildEach, ih, List.map_cons]

theorem rebuild_element (e : Element) : (Node.element e).rebuild list element =
    element { e with children := list (e.children.map (Node.rebuild list element)) } := by
  obtain ⟨tag, attributes, children, loc⟩ := e
  rw [Node.rebuild, rebuildEach_eq_map]

theorem rebuild_block (b : Block) : (Node.block b).rebuild list element =
    .block { b with
      program := b.program.rebuild list element
      inverse := b.inverse.map (Program.rebuild list element) } := by
  obtain ⟨expression, program, inverse, openStrip, closeStrip, loc⟩ := b
  cases inverse <;> rfl

theorem rebuild_component (c : Component) : (Node.component c).rebuild list element =
    .component { c with program := c.program.rebuild list element } := by
  obtain ⟨tag, attributes, program, loc⟩ := c
  rw [Node.rebuild]

theorem rebuild_of_lists_eq_nil {node : Node} (h : node.lists = []) :
    node.rebuild list element = node := by
  cases node <;> first | rfl | cases h

theorem rebuild_program (p : Program) : p.rebuild list element =
    { p with body := list (p.body.map (Node.rebuild list element)) } := by
  obtain ⟨body, blockParams, strip, loc⟩ := p
  rw [Program.rebuild, rebuildEach_eq_map]

end MarkupTemplate
