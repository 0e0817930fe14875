import MarkupTemplate.Compile
/-!
# Open nodes — a tree that grows while it is read

A reader keeps the nodes it has opened and not yet closed, the innermost on top.
What it does is a `Step`; a step that fails changes nothing, except that a node
which cannot be closed or given to its parent is lost.
-/

namespace MarkupTemplate

/-- The open nodes: the innermost, and the ones around it from the inside out. -/
structure OpenNodes where
  top : Node
  below : List Node

/-- What a reader does to the open nodes. -/
inductive Step where
  | begin (node : Node)
  | add (node : Node)
  | dropLast
  | finish
  | close (path : String) (params : List Node)

namespace OpenNodes

/-- Only the root is open. -/
def ofRoot (root : Node) : OpenNodes :=
  { top := root, below := [] }

/-- The number of open nodes. -/
def depth (s : OpenNodes) : Nat :=
  s.below.length + 1

/-- What a node becomes when it is closed: a custom element a component, a program
the block of a path, any other node itself. -/
def closed (config : Config) (path : String) (params : List Node) : Node → Compiling Node
  | .element e => convertElement config e
  | .program p => do
    let program ← p.finish config
    pure (.buildBlock (.ofText path) params [] program none)
  | node => pure node

/-- The answer of a step and the open nodes after it. -/
abbrev Answer := Except CompileFault (Option Node) × OpenNodes

/-- Let the innermost open node give or take children. -/
def onTop (s : OpenNodes) (x : Parenting (Option Node)) : Traced Answer := do
  let (result, top) ← x.run.run s.top
  pure (result.mapError .internal, { s with top })

/-- Give a node to the innermost open one. -/
def add (s : OpenNodes) (node : Node) : Traced Answer :=
  s.onTop do
    Parenting.addChild node
    pure none

/-- Take one step. Closing the root has no effect. -/
def step (config : Config) (s : OpenNodes) : Step → Traced Answer
  | .begin node => pure (.ok none, { top := node, below := s.top :: s.below })
  | .add node => s.add node
  | .dropLast => s.onTop Parenting.dropLastChild
  | .finish =>
    match s.top with
    | .program p => do
      let program ← p.finish config
      pure (.ok none, { s with top := .program program })
    | _ => pure (.ok none, s)
  | .close path params =>
    match s.below with
    | [] => pure (.ok none, s)
    | parent :: below => do
      let outer : OpenNodes := { top := parent, below }
      match ← (closed config path params s.top).run with
      | .ok node => outer.add node
      | .error fault => pure (.error fault, outer)

/-- What the innermost open node answers, and what is left of it. -/
theorem value_onTop (s : OpenNodes) (x : Parenting (Option Node)) : (s.onTop x).value =
    ((x.result s.top).1.mapError .internal, { s with top := (x.result s.top).2 }) :=
  rfl

/-- A node is given to the innermost open one if that can have children. -/
theorem value_add (s : OpenNodes) (node : Node) : (s.add node).value =
    match s.top.children with
    | .ok siblings =>
      (.ok none, { s with top := s.top.withChildren (addSibling siblings node).value })
    | .error fault => (.error (.internal fault), s) := by
  rw [add, value_onTop, Parenting.result_bind, Parenting.result_addChild]
  cases s.top.children <;> rfl

end OpenNodes

end MarkupTemplate
