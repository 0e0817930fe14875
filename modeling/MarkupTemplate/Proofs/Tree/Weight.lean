import MarkupTemplate.Proofs.Tree.Reached
/-!
# Weight — the number of entries in all reached lists

The weight of a node counts the entries of the lists that are reached in it, and that of
a list its own entries as well. A change of a list's entries that leaves each of them as
it is or makes it lighter does the same to the list (`map_eq_self_or_weightOf_lt`), so
that weights bound how often a tree can be changed.
-/

namespace MarkupTemplate

/-- The number of entries in the lists that are reached in a node. -/
def Node.weight (node : Node) : Nat :=
  node.reached.flatten.length

/-- The number of entries in the lists that are reached from a list. -/
def weightOf (nodes : List Node) : Nat :=
  (nodes :: reachedEach nodes).flatten.length

variable {node : Node} {nodes : List Node}

/-! ## One level at a time -/

@[simp]
theorem weightOf_nil : weightOf [] = 0 := rfl

/-- Each entry of a list counts itself and what is reached in it. -/
@[simp]
theorem weightOf_cons (node : Node) (nodes : List Node) :
    weightOf (node :: nodes) = node.weight + 1 + weightOf nodes := by
  simp only [weightOf, Node.weight, reachedEach, List.flatten_cons, List.flatten_append,
    List.length_append, List.length_cons]
  omega

theorem weight_element (e : Element) : (Node.element e).weight = weightOf e.children := by
  obtain ⟨tag, attributes, children, loc⟩ := e
  rw [Node.weight, Node.reached, weightOf]

theorem weight_block (b : Block) : (Node.block b).weight =
    weightOf b.program.body + b.inverse.elim 0 fun p => weightOf p.body := by
  obtain ⟨expression, ⟨body, _, _, _⟩, inverse, openStrip, closeStrip, loc⟩ := b
  rw [Node.weight, Node.reached, Program.reached, List.flatten_append, List.length_append]
  cases inverse with
  | none => rfl
  | some other =>
    obtain ⟨otherBody, _, _, _⟩ := other
    rw [reachedInverse, Program.reached]
    rfl

theorem weight_component (c : Component) :
    (Node.component c).weight = weightOf c.program.body := by
  obtain ⟨tag, attributes, ⟨body, _, _, _⟩, loc⟩ := c
  rw [Node.weight, Node.reached, Program.reached, weightOf]

/-! ## Changing every entry -/

/-- **If every entry of a list stays as it is or becomes lighter, so does the list.** -/
theorem map_eq_self_or_weightOf_lt {f : Node → Node}
    (h : ∀ node ∈ nodes, f node = node ∨ (f node).weight < node.weight) :
    nodes.map f = nodes ∨ weightOf (nodes.map f) < weightOf nodes := by
  induction nodes with
  | nil => exact .inl rfl
  | cons node rest ih =>
    have hrest := ih fun other hother => h other (List.mem_cons_of_mem node hother)
    rw [List.map_cons, weightOf_cons, weightOf_cons]
    rcases h node List.mem_cons_self with hnode | hnode
    · rcases hrest with hrest | hrest
      · exact .inl (by rw [hnode, hrest])
      · exact .inr (by rw [hnode]; omega)
    · right
      rcases hrest with hrest | hrest
      · rw [hrest]
        omega
      · omega

end MarkupTemplate
