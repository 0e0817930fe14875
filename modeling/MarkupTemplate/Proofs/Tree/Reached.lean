import MarkupTemplate.Tree.Basic
/-!
# Reached lists — what a compilation visits

A node holds child lists: an element its children, a block the bodies of its
program and of its inverse, a component the body of its program. `Reaches` closes
this over the entries of a list, and `Everywhere` is a property of every reached
list; `everywhere_iff` takes it apart one level at a time. `Node.induction` runs
along the same lists, so that a proof about trees has one case for each kind of
node that holds any, and one for the leaves.
-/

namespace MarkupTemplate

namespace Node

/-- The programs that a node holds. -/
def programs : Node → List Program
  | block b => b.program :: b.inverse.toList
  | component c => [c.program]
  | _ => []

/-- The child lists that a node holds. -/
def lists : Node → List (List Node)
  | element e => [e.children]
  | node => node.programs.map Program.body

@[simp]
theorem lists_element (e : Element) : (element e).lists = [e.children] := rfl

@[simp]
theorem lists_block (b : Block) :
    (block b).lists = b.program.body :: b.inverse.toList.map Program.body := rfl

@[simp]
theorem lists_component (c : Component) : (component c).lists = [c.program.body] := rfl

@[simp]
theorem lists_text (chars : String) (loc : Option Span) : (text chars loc).lists = [] := rfl

/-- A node without child lists holds no programs. -/
theorem programs_of_lists_eq_nil {node : Node} (h : node.lists = []) : node.programs = [] := by
  cases node <;> first | rfl | cases h

end Node

/-! ## Induction along child lists -/

mutual

/-- **Induction on a node**: a property holds of every node if it passes to a node
from the entries of its child lists, and the leaves have it. -/
theorem Node.induction {motive : Node → Prop}
    (element : ∀ e : Element, (∀ node ∈ e.children, motive node) → motive (.element e))
    (block : ∀ b : Block, (∀ node ∈ b.program.body, motive node) →
      (∀ p, b.inverse = some p → ∀ node ∈ p.body, motive node) → motive (.block b))
    (component : ∀ c : Component, (∀ node ∈ c.program.body, motive node) →
      motive (.component c))
    (leaf : ∀ node : Node, node.lists = [] → motive node) : ∀ node : Node, motive node
  | .element ⟨_, _, children, _⟩ =>
    element _ (Node.forall_mem element block component leaf children)
  | .block ⟨_, ⟨body, _, _, _⟩, none, _, _, _⟩ =>
    block _ (Node.forall_mem element block component leaf body) nofun
  | .block ⟨_, ⟨body, _, _, _⟩, some ⟨other, _, _, _⟩, _, _, _⟩ =>
    block _ (Node.forall_mem element block component leaf body) fun _ h =>
      Option.some.inj h ▸ Node.forall_mem element block component leaf other
  | .component ⟨_, _, ⟨body, _, _, _⟩, _⟩ =>
    component _ (Node.forall_mem element block component leaf body)
  | .program p => leaf (.program p) rfl
  | .text chars loc => leaf (.text chars loc) rfl
  | .mustache m => leaf (.mustache m) rfl
  | .comment value loc => leaf (.comment value loc) rfl
  | .concat parts loc => leaf (.concat parts loc) rfl
  | .subExpression e => leaf (.subExpression e) rfl
  | .path p => leaf (.path p) rfl
  | .string value loc => leaf (.string value loc) rfl
  | .number value loc => leaf (.number value loc) rfl
  | .boolean value loc => leaf (.boolean value loc) rfl

/-- The same for the entries of a list. -/
theorem Node.forall_mem {motive : Node → Prop}
    (element : ∀ e : Element, (∀ node ∈ e.children, motive node) → motive (.element e))
    (block : ∀ b : Block, (∀ node ∈ b.program.body, motive node) →
      (∀ p, b.inverse = some p → ∀ node ∈ p.body, motive node) → motive (.block b))
    (component : ∀ c : Component, (∀ node ∈ c.program.body, motive node) →
      motive (.component c))
    (leaf : ∀ node : Node, node.lists = [] → motive node) :
    ∀ nodes : List Node, ∀ node ∈ nodes, motive node
  | [], _, h => nomatch h
  | first :: rest, node, h => by
    rcases List.mem_cons.mp h with h | h
    · rw [h]
      exact Node.induction element block component leaf first
    · exact Node.forall_mem element block component leaf rest node h

end

attribute [elab_as_elim, induction_eliminator] Node.induction

/-! ## Reached lists -/

/-- **A list is reached from another one**: it is that list, or an entry of a
reached list holds it. -/
inductive Reaches (root : List Node) : List Node → Prop
  | root : Reaches root root
  | held {list inner : List Node} {node : Node} :
      Reaches root list → node ∈ list → inner ∈ node.lists → Reaches root inner

/-- A property of every list that is reached from one. -/
def Everywhere (P : List Node → Prop) (root : List Node) : Prop :=
  ∀ list, Reaches root list → P list

/-- **A program is reached from another one**: it is that program, or an entry of a
list that is reached from its body holds it. -/
inductive Program.Reaches (root : Program) : Program → Prop
  | root : Program.Reaches root root
  | held {list : List Node} {node : Node} {p : Program} :
      MarkupTemplate.Reaches root.body list → node ∈ list → p ∈ node.programs →
      Program.Reaches root p

variable {P Q : List Node → Prop} {root list inner : List Node} {node : Node}

/-- What an entry's child list reaches, the list itself reaches. -/
theorem Reaches.of_held (hnode : node ∈ root) (hinner : inner ∈ node.lists)
    (h : Reaches inner list) : Reaches root list := by
  induction h with
  | root => exact .held .root hnode hinner
  | held _ hmem hlists ih => exact .held ih hmem hlists

/-- A reached list is the list itself, or is reached from a child list of an
entry. -/
theorem Reaches.cases_held (h : Reaches root list) :
    list = root ∨ ∃ node ∈ root, ∃ inner ∈ node.lists, Reaches inner list := by
  induction h with
  | root => exact .inl rfl
  | held _ hmem hlists ih =>
    right
    rcases ih with rfl | ⟨node, hnode, inner, hinner, h⟩
    · exact ⟨_, hmem, _, hlists, .root⟩
    · exact ⟨node, hnode, inner, hinner, .held h hmem hlists⟩

/-- **One level of `Everywhere`**: the list has the property, and every child list
of an entry has it everywhere. -/
theorem everywhere_iff : Everywhere P root ↔
    P root ∧ ∀ node ∈ root, ∀ inner ∈ node.lists, Everywhere P inner := by
  constructor
  · intro h
    exact ⟨h _ .root, fun _ hnode _ hinner _ hlist => h _ (.of_held hnode hinner hlist)⟩
  · rintro ⟨hroot, hinner⟩ list hlist
    rcases hlist.cases_held with rfl | ⟨node, hnode, inner, hmem, h⟩
    · exact hroot
    · exact hinner node hnode inner hmem list h

/-- **A property of the reached lists, seen from the entries that hold them.** -/
theorem everywhere_iff_held : Everywhere P root ↔
    P root ∧ Everywhere (fun list => ∀ node ∈ list, ∀ inner ∈ node.lists, P inner) root := by
  constructor
  · intro h
    exact ⟨h _ .root, fun _ hlist _ hnode _ hinner => h _ (.held hlist hnode hinner)⟩
  · rintro ⟨hroot, hheld⟩ list hlist
    cases hlist with
    | root => exact hroot
    | held hlist hnode hinner => exact hheld _ hlist _ hnode _ hinner

/-- A node has a property, and so has every entry of a list that is reached in it. -/
def Node.Throughout (A : Node → Prop) (node : Node) : Prop :=
  A node ∧ ∀ inner ∈ node.lists, Everywhere (fun list => ∀ node ∈ list, A node) inner

/-- **A property of all reached entries, seen from the entries of the root.** -/
theorem everywhere_forall_mem_iff {A : Node → Prop} :
    Everywhere (fun list => ∀ node ∈ list, A node) root ↔ ∀ node ∈ root, node.Throughout A := by
  rw [everywhere_iff]
  constructor
  · rintro ⟨hentries, hinner⟩ node hnode
    exact ⟨hentries node hnode, hinner node hnode⟩
  · intro h
    exact ⟨fun node hnode => (h node hnode).1, fun node hnode => (h node hnode).2⟩

/-- A node without child lists has a property throughout if it has it. -/
theorem throughout_of_lists_eq_nil {A : Node → Prop} (h : node.lists = []) :
    node.Throughout A ↔ A node := by
  simp [Node.Throughout, h]

theorem throughout_element {A : Node → Prop} {e : Element} : (Node.element e).Throughout A ↔
    A (.element e) ∧ ∀ node ∈ e.children, node.Throughout A := by
  simp only [← everywhere_forall_mem_iff]
  simp [Node.Throughout]

theorem throughout_block {A : Node → Prop} {b : Block} : (Node.block b).Throughout A ↔
    A (.block b) ∧ (∀ node ∈ b.program.body, node.Throughout A) ∧
      ∀ p, b.inverse = some p → ∀ node ∈ p.body, node.Throughout A := by
  simp only [← everywhere_forall_mem_iff]
  simp [Node.Throughout]

theorem throughout_component {A : Node → Prop} {c : Component} :
    (Node.component c).Throughout A ↔
      A (.component c) ∧ ∀ node ∈ c.program.body, node.Throughout A := by
  simp only [← everywhere_forall_mem_iff]
  simp [Node.Throughout]

/-- The same for programs: the root has the property, and so has every program that
an entry of a reached list holds. -/
theorem forall_program_reaches_iff {P : Program → Prop} {root : Program} :
    (∀ p, root.Reaches p → P p) ↔
      P root ∧ Everywhere (fun list => ∀ node ∈ list, ∀ p ∈ node.programs, P p) root.body := by
  constructor
  · intro h
    exact ⟨h _ .root, fun _ hlist _ hnode _ hp => h _ (.held hlist hnode hp)⟩
  · rintro ⟨hroot, hheld⟩ p hp
    cases hp with
    | root => exact hroot
    | held hlist hnode hmem => exact hheld _ hlist _ hnode _ hmem

/-! ## The reached lists, one after the other -/

mutual

/-- The lists that are reached in a node. -/
def Node.reached : Node → List (List Node)
  | .element ⟨_, _, children, _⟩ => children :: reachedEach children
  | .block ⟨_, program, inverse, _, _, _⟩ => program.reached ++ reachedInverse inverse
  | .component ⟨_, _, program, _⟩ => program.reached
  | _ => []

/-- The lists that are reached in nodes. -/
def reachedEach : List Node → List (List Node)
  | [] => []
  | node :: nodes => node.reached ++ reachedEach nodes

/-- The lists that are reached in a program that is not always there. -/
def reachedInverse : Option Program → List (List Node)
  | none => []
  | some program => program.reached

/-- The body of a program, and the lists that are reached from it. -/
def Program.reached : Program → List (List Node)
  | ⟨body, _, _, _⟩ => body :: reachedEach body

end

theorem mem_reachedEach_iff : list ∈ reachedEach root ↔ ∃ node ∈ root, list ∈ node.reached := by
  induction root with
  | nil => simp [reachedEach]
  | cons node nodes ih => simp [reachedEach, ih]

/-- If the lists of a list's entries are the reached ones, so are the list's own. -/
theorem mem_reached_of (h : ∀ node ∈ root,
      (list ∈ node.reached ↔ ∃ inner ∈ node.lists, Reaches inner list)) :
    list ∈ root :: reachedEach root ↔ Reaches root list := by
  rw [List.mem_cons, mem_reachedEach_iff]
  constructor
  · rintro (rfl | ⟨node, hnode, hlist⟩)
    · exact .root
    · obtain ⟨inner, hinner, hreaches⟩ := (h node hnode).mp hlist
      exact .of_held hnode hinner hreaches
  · intro hlist
    rcases hlist.cases_held with rfl | ⟨node, hnode, hinner⟩
    · exact .inl rfl
    · exact .inr ⟨node, hnode, (h node hnode).mpr hinner⟩

/-- What is reached in a node is reached from one of its child lists. -/
theorem Node.mem_reached_iff (node : Node) :
    list ∈ node.reached ↔ ∃ inner ∈ node.lists, Reaches inner list := by
  induction node with
  | element e ih =>
    obtain ⟨tag, attributes, children, loc⟩ := e
    simpa [Node.reached] using mem_reached_of ih
  | block b ih ih' =>
    obtain ⟨expression, ⟨body, _, _, _⟩, inverse, openStrip, closeStrip, loc⟩ := b
    cases inverse with
    | none => simpa [Node.reached, Program.reached, reachedInverse] using mem_reached_of ih
    | some other =>
      obtain ⟨otherBody, _, _, _⟩ := other
      have hbody := mem_reached_of ih
      have hother := mem_reached_of (ih' _ rfl)
      simp [Node.reached, Program.reached, reachedInverse, ← hbody, ← hother, or_assoc]
  | component c ih =>
    obtain ⟨tag, attributes, ⟨body, _, _, _⟩, loc⟩ := c
    simpa [Node.reached, Program.reached] using mem_reached_of ih
  | leaf node h =>
    rw [h]
    cases node <;> first | (simp [Node.reached]; done) | cases h

/-- **What is listed is what is reached.** -/
theorem mem_reached_iff : list ∈ root :: reachedEach root ↔ Reaches root list :=
  mem_reached_of fun node _ => node.mem_reached_iff

instance [DecidablePred P] : Decidable (Everywhere P root) :=
  decidable_of_iff (∀ list ∈ root :: reachedEach root, P list)
    (forall_congr' fun _ => imp_congr mem_reached_iff Iff.rfl)

end MarkupTemplate
