import MarkupTemplate.Event
/-!
# Siblings — lists in which live nodes stand apart

Programs and elements have children; no other node does, and any other node refuses
them and stays as it is. A child is added behind an empty text where it and the child
before it are both live, and `spaced` builds a whole list in that way.
-/

namespace MarkupTemplate

/-- The siblings with one more, behind an empty text where the last of them and the
new one are both live. -/
def addSibling (siblings : List Node) (node : Node) : Traced (List Node) :=
  match siblings.getLast? with
  | some last =>
    if last.isLive && node.isLive then do
      Traced.report (.separated last.kind node.kind)
      pure (siblings ++ [Node.emptyText, node])
    else
      pure (siblings ++ [node])
  | none => pure [node]

/-- The nodes with an empty text between any two live neighbours. -/
def spaced (nodes : List Node) : Traced (List Node) :=
  nodes.foldlM addSibling []

namespace Node

/-- The children of a node that can have some. -/
def children (parent : Node) : Except InternalFault (List Node) :=
  match parent with
  | program p => .ok p.body
  | element e => .ok e.children
  | other => .error (.childless other.kind)

/-- The node with other children, if it can have some. -/
def withChildren (parent : Node) (children : List Node) : Node :=
  match parent with
  | program p => .program { p with body := children }
  | element e => .element { e with children }
  | other => other

/-- A node with children has the ones it is given. -/
theorem children_withChildren {parent : Node} {old : List Node} (h : parent.children = .ok old)
    (new : List Node) : (parent.withChildren new).children = .ok new := by
  cases parent with
  | program _ => rfl
  | element _ => rfl
  | _ => cases h

end Node

/-! ## Giving and taking children -/

/-- A computation on a parent that the parent may refuse; what is left of the parent is
there either way. -/
abbrev Parenting := ExceptT InternalFault (StateT Node Traced)

namespace Parenting

/-- The children of the parent, if it can have some. -/
def children : Parenting (List Node) := do
  (← get).children

/-- Give the parent a child. -/
def addChild (child : Node) : Parenting Unit := do
  let siblings ← addSibling (← children) child
  modify (·.withChildren siblings)

/-- Take the last child from the parent, if there is one. -/
def dropLastChild : Parenting (Option Node) := do
  let siblings ← children
  modify (·.withChildren siblings.dropLast)
  pure siblings.getLast?

variable {α β : Type} {parent child : Node}

/-- What a computation answers and leaves of the parent, without its events. -/
def result (x : Parenting α) (parent : Node) : Except InternalFault α × Node :=
  (x.run.run parent).value

/-- The second of two computations works on what the first one leaves, unless that one was
refused. -/
theorem result_bind (x : Parenting α) (f : α → Parenting β) : (x >>= f).result parent =
    match x.result parent with
    | (.ok a, left) => (f a).result left
    | (.error fault, left) => (.error fault, left) := by
  rw [result, ExceptT.run_bind, StateT.run_bind, Traced.value_bind, ← result]
  rcases x.result parent with ⟨_ | _, left⟩ <;> rfl

/-- A parent that can have no children refuses to show them. -/
theorem result_children : children.result parent = (parent.children, parent) := by
  change ((liftM parent.children : Parenting (List Node)).run.run parent).value = _
  cases parent.children <;> rfl

/-- What adding a child answers and leaves. -/
theorem result_addChild : (addChild child).result parent =
    match parent.children with
    | .ok siblings => (.ok (), parent.withChildren (addSibling siblings child).value)
    | .error fault => (.error fault, parent) := by
  rw [addChild, result_bind, result_children]
  cases parent.children <;> rfl

/-- What taking the last child answers and leaves. -/
theorem result_dropLastChild : dropLastChild.result parent =
    match parent.children with
    | .ok siblings => (.ok siblings.getLast?, parent.withChildren siblings.dropLast)
    | .error fault => (.error fault, parent) := by
  rw [dropLastChild, result_bind, result_children]
  cases parent.children <;> rfl

/-- **A parent that refuses a child stays as it is.** -/
theorem addChild_refused {fault : InternalFault}
    (h : ((addChild child).result parent).1 = .error fault) :
    ((addChild child).result parent).2 = parent := by
  rw [result_addChild] at h ⊢
  cases hchildren : parent.children with
  | ok siblings =>
    rw [hchildren] at h
    cases h
  | error refusal => rfl

end Parenting

end MarkupTemplate
