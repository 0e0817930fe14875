import MarkupTemplate.Proofs.Tree.Reached
/-!
# Erasure — a tree without its places

`withoutLocs` erases every place in a tree: those of nodes and programs, of attributes
and paths, and of the values in attributes and arguments. It goes further than the
reached lists do, so it descends through every structure of the family; the equations
say what is left of each structure that holds a child list.
-/

namespace MarkupTemplate

/-- A path without its place. -/
def Path.withoutLoc (p : Path) : Path :=
  { p with loc := none }

mutual

/-- A node without the places of it and in it. -/
def Node.withoutLocs : Node → Node
  | .program p => .program p.withoutLocs
  | .element e => .element e.withoutLocs
  | .component c => .component c.withoutLocs
  | .text chars _ => .text chars none
  | .mustache m => .mustache m.withoutLocs
  | .block b => .block b.withoutLocs
  | .comment value _ => .comment value none
  | .concat parts _ => .concat (nodesWithoutLocs parts) none
  | .subExpression e => .subExpression e.withoutLocs
  | .path p => .path p.withoutLoc
  | .string value _ => .string value none
  | .number value _ => .number value none
  | .boolean value _ => .boolean value none

/-- Nodes without their places. -/
def nodesWithoutLocs : List Node → List Node
  | [] => []
  | node :: nodes => node.withoutLocs :: nodesWithoutLocs nodes

/-- A program without its places. -/
def Program.withoutLocs : Program → Program
  | ⟨body, blockParams, strip, _⟩ => ⟨nodesWithoutLocs body, blockParams, strip, none⟩

/-- The program of a block that is not always there. -/
def inverseWithoutLocs : Option Program → Option Program
  | none => none
  | some program => some program.withoutLocs

/-- An element without its places. -/
def Element.withoutLocs : Element → Element
  | ⟨tag, attributes, children, _⟩ =>
    ⟨tag, attrsWithoutLocs attributes, nodesWithoutLocs children, none⟩

/-- An attribute without its places. -/
def Attr.withoutLocs : Attr → Attr
  | ⟨name, value, _⟩ => ⟨name, value.withoutLocs, none⟩

/-- Attributes without their places. -/
def attrsWithoutLocs : List Attr → List Attr
  | [] => []
  | attr :: attrs => attr.withoutLocs :: attrsWithoutLocs attrs

/-- A component without its places. -/
def Component.withoutLocs : Component → Component
  | ⟨tag, attributes, program, _⟩ =>
    ⟨tag, attrsWithoutLocs attributes, program.withoutLocs, none⟩

/-- An expression without its places. -/
def Expression.withoutLocs : Expression → Expression
  | ⟨path, params, hash⟩ => ⟨path.withoutLoc, nodesWithoutLocs params, pairsWithoutLocs hash⟩

/-- A named argument without its places. -/
def Pair.withoutLocs : Pair → Pair
  | ⟨key, value⟩ => ⟨key, value.withoutLocs⟩

/-- Named arguments without their places. -/
def pairsWithoutLocs : List Pair → List Pair
  | [] => []
  | pair :: pairs => pair.withoutLocs :: pairsWithoutLocs pairs

/-- A mustache without its places. -/
def Mustache.withoutLocs : Mustache → Mustache
  | ⟨expression, escaped, strip, _⟩ => ⟨expression.withoutLocs, escaped, strip, none⟩

/-- A block without its places. -/
def Block.withoutLocs : Block → Block
  | ⟨expression, program, inverse, openStrip, closeStrip, _⟩ =>
    ⟨expression.withoutLocs, program.withoutLocs, inverseWithoutLocs inverse, openStrip,
      closeStrip, none⟩

/-- A subexpression without its places. -/
def SubExpression.withoutLocs : SubExpression → SubExpression
  | ⟨expression, _⟩ => ⟨expression.withoutLocs, none⟩

end

/-! ## One level at a time -/

theorem nodesWithoutLocs_eq_map (nodes : List Node) :
    nodesWithoutLocs nodes = nodes.map Node.withoutLocs := by
  induction nodes with
  | nil => rfl
  | cons node nodes ih => rw [nodesWithoutLocs, ih, List.map_cons]

theorem attrsWithoutLocs_eq_map (attrs : List Attr) :
    attrsWithoutLocs attrs = attrs.map Attr.withoutLocs := by
  induction attrs with
  | nil => rfl
  | cons attr attrs ih => rw [attrsWithoutLocs, ih, List.map_cons]

theorem Program.withoutLocs_eq (p : Program) : p.withoutLocs =
    { p with body := p.body.map Node.withoutLocs, loc := none } := by
  obtain ⟨body, blockParams, strip, loc⟩ := p
  rw [Program.withoutLocs, nodesWithoutLocs_eq_map]

theorem Element.withoutLocs_eq (e : Element) : e.withoutLocs =
    { tag := e.tag
      attributes := e.attributes.map Attr.withoutLocs
      children := e.children.map Node.withoutLocs
      loc := none } := by
  obtain ⟨tag, attributes, children, loc⟩ := e
  rw [Element.withoutLocs, attrsWithoutLocs_eq_map, nodesWithoutLocs_eq_map]

theorem Component.withoutLocs_eq (c : Component) : c.withoutLocs =
    { tag := c.tag
      attributes := c.attributes.map Attr.withoutLocs
      program := c.program.withoutLocs
      loc := none } := by
  obtain ⟨tag, attributes, program, loc⟩ := c
  rw [Component.withoutLocs, attrsWithoutLocs_eq_map]

theorem Block.withoutLocs_eq (b : Block) : b.withoutLocs =
    { b with
      expression := b.expression.withoutLocs
      program := b.program.withoutLocs
      inverse := b.inverse.map Program.withoutLocs
      loc := none } := by
  obtain ⟨expression, program, inverse, openStrip, closeStrip, loc⟩ := b
  cases inverse <;> rfl

/-- An attribute keeps its name. -/
theorem Attr.name_withoutLocs (attr : Attr) : attr.withoutLocs.name = attr.name := by
  obtain ⟨name, value, loc⟩ := attr
  rfl

/-- An element keeps its tag. -/
theorem Element.tag_withoutLocs (e : Element) : e.withoutLocs.tag = e.tag := by
  rw [Element.withoutLocs_eq]

/-- A node without child lists is left without any. -/
theorem lists_withoutLocs_of_eq_nil {node : Node} (h : node.lists = []) :
    node.withoutLocs.lists = [] := by
  cases node <;> first | rfl | cases h

/-- A custom element is left as one. -/
theorem isCustomElement_withoutLocs (node : Node) :
    node.withoutLocs.isCustomElement = node.isCustomElement := by
  cases node with
  | element e => exact congrArg isCustomTag e.tag_withoutLocs
  | _ => rfl

/-- So the custom elements of a list stay where they are. -/
theorem any_isCustomElement_withoutLocs (nodes : List Node) :
    (nodes.map Node.withoutLocs).any Node.isCustomElement = nodes.any Node.isCustomElement := by
  simp only [List.any_map, Function.comp_def, isCustomElement_withoutLocs]

end MarkupTemplate
