import MarkupTemplate.OpenNodes
import MarkupTemplate.Proofs.Normal.Shape
/-!
# Growth — a tree stays fit for compilation while it is read

An open node is `IsSound` for a property when it has the property, and the entries of
every list that is reached in it stand apart and have it too. `move_cases` says what a
`Move` can do to the open nodes. If all that is supplied is sound, each move keeps them
sound (`isSound_move`), so a whole run does (`isSound_after`): a list changes at its end
or by being finished, and what is closed holds finished programs only. The property is a
parameter; a node has to have it if the programs that it holds have static edges.

The outermost open node stays a program, and its soundness is what a compilation needs
of it.
-/

namespace MarkupTemplate

/-! ## What is open, and what is done to it -/

/-- The child lists of a node on its own: the body of a program, and of any other node
the lists that it holds. -/
def Node.ownLists : Node → List (List Node)
  | program p => [p.body]
  | node => node.lists

/-- **A node on its own is sound**: it has a property, and the entries of every list that
is reached in it stand apart and have the property too. -/
def Node.IsSound (A : Node → Prop) (node : Node) : Prop :=
  A node ∧ ∀ own ∈ node.ownLists, Everywhere (ApartWith A) own

/-- The programs that a node holds have static edges. -/
def Node.HoldsStatic (node : Node) : Prop :=
  ∀ p ∈ node.programs, StaticEdges p.body

/-- What is done to open nodes: a step of the reader, or finishing the program that is
open at a depth below the innermost node. -/
inductive Move where
  | step (step : Step)
  | finishBelow (depth : Nat)

/-- The nodes that a move supplies. -/
def Move.supplied : Move → List Node
  | step (.begin node) => [node]
  | step (.add node) => [node]
  | _ => []

/-- An open program, finished; any other node as it is. -/
def Node.finishOpen (config : Config) : Node → Node
  | program p => .program (p.finish config).value
  | node => node

namespace OpenNodes

/-- All open nodes, from the inside out. -/
def nodes (s : OpenNodes) : List Node :=
  s.top :: s.below

/-- The open nodes after a move. -/
def move (config : Config) (s : OpenNodes) : Move → OpenNodes
  | .step step => (s.step config step).value.2
  | .finishBelow depth => { s with below := s.below.modify depth (Node.finishOpen config) }

/-- The open nodes after moves. -/
def after (config : Config) (s : OpenNodes) (moves : List Move) : OpenNodes :=
  moves.foldl (move config) s

/-- Every open node is sound. -/
def IsSound (A : Node → Prop) (s : OpenNodes) : Prop :=
  ∀ node ∈ s.nodes, node.IsSound A

/-- The outermost open node is a program. -/
def IsRooted (s : OpenNodes) : Prop :=
  ∃ r, s.nodes.getLast? = some (.program r)

end OpenNodes

instance (node : Node) : Decidable node.HoldsStatic := by
  unfold Node.HoldsStatic
  infer_instance

/-- A component is finished when what it holds is static; nothing is asked of other
nodes. -/
theorem isFinished_iff {node : Node} :
    node.IsFinished ↔ (node.kind = .component → node.HoldsStatic) := by
  cases node with
  | component c => simp [Node.IsFinished, Node.HoldsStatic, Node.programs, Node.kind]
  | _ => simp [Node.IsFinished, Node.kind]

instance (node : Node) : Decidable node.IsFinished :=
  decidable_of_iff _ isFinished_iff.symm

section

variable {A : Node → Prop} [DecidablePred A]

instance (list : List Node) : Decidable (ApartWith A list) := by
  unfold ApartWith
  infer_instance

instance (node : Node) : Decidable (node.IsSound A) := by
  unfold Node.IsSound
  infer_instance

end

variable {A : Node → Prop} {config : Config} {nodes siblings : List Node}
variable {node parent child : Node} {p : Program} {s : OpenNodes} {moves : List Move}

/-! ## Lists that grow and shrink at their end -/

/-- **A sibling behind its gap leaves a list apart.** -/
theorem apart_append_gap (h : Apart siblings) :
    Apart (siblings ++ gap siblings.getLast? node ++ [node]) := by
  have hend : Apart (siblings.getLast?.toList ++ (gap siblings.getLast? node ++ [node])) := by
    have hspaced := apart_append_spacedFrom siblings.getLast? [node]
    rwa [spacedFrom, spacedFrom] at hspaced
  obtain ⟨-, hadded, hmeet⟩ := List.isChain_append.mp hend
  rw [List.append_assoc]
  refine List.isChain_append.mpr ⟨h, hadded, fun last hlast => hmeet last ?_⟩
  rw [Option.mem_def] at hlast
  simp [hlast]

/-- **A list stays sound with one more sibling.** -/
theorem everywhere_apartWith_addSibling (hempty : Node.emptyText.Within A)
    (h : Everywhere (ApartWith A) siblings) (hnode : node.Within A) :
    Everywhere (ApartWith A) (addSibling siblings node).value := by
  obtain ⟨hapart, hwithin⟩ := everywhere_apartWith_iff.mp h
  have hgap : ∀ between ∈ gap siblings.getLast? node ++ [node], between.Within A := by
    have hnodes : ∀ other ∈ [node], other.Within A := by
      intro other hother
      rwa [List.mem_singleton.mp hother]
    have hspaced : ∀ between ∈ spacedFrom siblings.getLast? [node], between.Within A :=
      (forall_mem_spacedFrom_iff hempty).mpr hnodes
    rwa [spacedFrom, spacedFrom] at hspaced
  rw [value_addSibling]
  refine everywhere_apartWith_iff.mpr ⟨apart_append_gap hapart, ?_⟩
  rw [List.append_assoc]
  exact List.forall_mem_append.mpr ⟨hwithin, hgap⟩

/-- **A list stays sound without its last entry.** -/
theorem everywhere_apartWith_dropLast (h : Everywhere (ApartWith A) siblings) :
    Everywhere (ApartWith A) siblings.dropLast := by
  obtain ⟨hapart, hwithin⟩ := everywhere_apartWith_iff.mp h
  have hdropped : Apart siblings.dropLast := hapart.prefix (List.dropLast_prefix siblings)
  refine everywhere_apartWith_iff.mpr ⟨hdropped, ?_⟩
  intro node hnode
  exact hwithin node (List.dropLast_subset siblings hnode)

/-- **A list stays sound when it is finished.** -/
theorem everywhere_apartWith_finished (htext : ∀ chars loc, (Node.text chars loc).Within A)
    (h : Everywhere (ApartWith A) p.body) :
    Everywhere (ApartWith A) (p.finished config).body := by
  obtain ⟨hapart, hwithin⟩ := everywhere_apartWith_iff.mp h
  refine everywhere_apartWith_iff.mpr ⟨apart_finishedBody hapart, ?_⟩
  exact (forall_mem_finishedBody_iff htext).mpr hwithin

/-! ## Nodes on their own -/

/-- What is sound on its own is sound as an entry. -/
theorem Node.IsSound.within (h : node.IsSound A) : node.Within A := by
  refine ⟨h.1, fun inner hinner => ?_⟩
  cases node with
  | program p => cases hinner
  | _ => exact h.2 inner hinner

/-- The soundness of a program is that of its body. -/
theorem isSound_program_iff : (Node.program p).IsSound A ↔
    A (.program p) ∧ Everywhere (ApartWith A) p.body := by
  simp [Node.IsSound, Node.ownLists]

/-- A node that can have children has none of them in a program that it holds. -/
theorem programs_of_children (h : node.children = .ok nodes) : node.programs = [] := by
  cases node <;> first | rfl | cases h

/-- Its soundness is that of its children. -/
theorem isSound_iff_of_children (h : node.children = .ok nodes) :
    node.IsSound A ↔ A node ∧ Everywhere (ApartWith A) nodes := by
  cases node with
  | program p =>
    cases h
    exact isSound_program_iff
  | element e =>
    cases h
    simp [Node.IsSound, Node.ownLists]
  | _ => cases h

@[simp]
theorem kind_withChildren (node : Node) (nodes : List Node) :
    (node.withChildren nodes).kind = node.kind := by
  cases node <;> rfl

@[simp]
theorem kind_finishOpen (config : Config) (node : Node) :
    (node.finishOpen config).kind = node.kind := by
  cases node <;> rfl

/-! ## What a move can do -/

/-- **What adding can do**: the node becomes the last child of the innermost open one, or
nothing changes. -/
theorem add_cases (s : OpenNodes) (child : Node) :
    (s.add child).value.2 = s ∨
      ∃ children, s.top.children = .ok children ∧
        (s.add child).value.2 = ⟨s.top.withChildren (addSibling children child).value, s.below⟩ := by
  rw [OpenNodes.value_add]
  cases s.top.children with
  | error fault => exact .inl rfl
  | ok children => exact .inr ⟨children, rfl, rfl⟩

/-- **What is closed**: a program becomes a block of the finished program, an element what
conversion makes of it, and any other node stays. -/
theorem outcome_closed_eq_ok {path : String} {params : List Node}
    (h : outcome (OpenNodes.closed config path params node) = .ok child) :
    (∃ p, node = .program p ∧
        child = .buildBlock (.ofText path) params [] (p.finished config) none) ∨
      (∃ e, node = .element e ∧ child = e.converted config) ∨
      (node.kind ≠ .program ∧ child = node) := by
  cases node with
  | program p =>
    refine .inl ⟨p, rfl, ?_⟩
    simp only [OpenNodes.closed, outcome_bind, outcome_lift, outcome_pure, value_finish] at h
    exact (Except.ok.inj h).symm
  | element e =>
    refine .inr (.inl ⟨e, rfl, ?_⟩)
    rw [OpenNodes.closed, outcome_convertElement] at h
    exact (settle_eq_ok_iff.mp h).2.symm
  | _ =>
    refine .inr (.inr ⟨nofun, ?_⟩)
    exact (Except.ok.inj h).symm

/-- The finishing step finishes the innermost node. -/
theorem nodes_finish (config : Config) (s : OpenNodes) :
    (s.step config .finish).value.2.nodes = s.top.finishOpen config :: s.below := by
  unfold OpenNodes.step Node.finishOpen
  cases htop : s.top <;> simp [OpenNodes.nodes, htop]

/-- **What a move can do.** It opens a node; it adds one to the children of the innermost
open node, or takes one from them; it finishes a node; or it closes the innermost node,
which is given to the next one or lost. Or it changes nothing. -/
theorem move_cases (config : Config) (s : OpenNodes) (move : Move) :
    (s.move config move).nodes = s.nodes ∨
      (∃ node ∈ move.supplied, (s.move config move).nodes = node :: s.nodes) ∨
      (∃ child ∈ move.supplied, ∃ children, s.top.children = .ok children ∧
        (s.move config move).nodes =
          s.top.withChildren (addSibling children child).value :: s.below) ∨
      (∃ children, s.top.children = .ok children ∧
        (s.move config move).nodes = s.top.withChildren children.dropLast :: s.below) ∨
      (∃ inner node outer, s.nodes = inner ++ node :: outer ∧
        (s.move config move).nodes = inner ++ node.finishOpen config :: outer) ∨
      ∃ parent outer, s.below = parent :: outer ∧
        ((s.move config move).nodes = parent :: outer ∨
          ∃ path params child children,
            outcome (OpenNodes.closed config path params s.top) = .ok child ∧
              parent.children = .ok children ∧ (s.move config move).nodes =
                parent.withChildren (addSibling children child).value :: outer) := by
  cases move with
  | finishBelow depth =>
    by_cases hdepth : depth < s.below.length
    · obtain ⟨inner, node, outer, hbelow, -, hmodified⟩ :=
        List.exists_of_modify (Node.finishOpen config) hdepth
      refine .inr (.inr (.inr (.inr (.inl ⟨s.top :: inner, node, outer, ?_, ?_⟩))))
      · rw [OpenNodes.nodes, hbelow, List.cons_append]
      · simp only [OpenNodes.move, OpenNodes.nodes, hmodified, List.cons_append]
    · -- nothing is open at that depth
      left
      have hsame : s.below.modify depth (Node.finishOpen config) = s.below :=
        List.modify_eq_self (by omega)
      simp only [OpenNodes.move, OpenNodes.nodes, hsame]
  | step step =>
    unfold OpenNodes.move
    cases step with
    | begin node => exact .inr (.inl ⟨node, List.mem_cons_self, rfl⟩)
    | add node =>
      simp only [OpenNodes.step]
      rcases add_cases s node with hadd | ⟨children, hchildren, hadd⟩
      · rw [hadd]
        exact .inl rfl
      · rw [hadd]
        exact .inr (.inr (.inl ⟨node, List.mem_cons_self, children, hchildren, rfl⟩))
    | dropLast =>
      simp only [OpenNodes.step]
      rw [OpenNodes.value_onTop, Parenting.result_dropLastChild]
      cases s.top.children with
      | error fault => exact .inl rfl
      | ok children => exact .inr (.inr (.inr (.inl ⟨children, rfl, rfl⟩)))
    | finish =>
      exact .inr (.inr (.inr (.inr (.inl ⟨[], s.top, s.below, rfl, nodes_finish config s⟩))))
    | close path params =>
      cases hbelow : s.below with
      | nil =>
        left
        simp [OpenNodes.step, hbelow]
      | cons parent outer =>
        refine .inr (.inr (.inr (.inr (.inr ⟨parent, outer, rfl, ?_⟩))))
        simp only [OpenNodes.step, hbelow, Traced.value_bind]
        cases hclosed : (OpenNodes.closed config path params s.top).run.value with
        | error fault => exact .inl rfl
        | ok child =>
          rcases add_cases ⟨parent, outer⟩ child with hadd | ⟨children, hchildren, hadd⟩
          · rw [hadd]
            exact .inl rfl
          · rw [hadd]
            exact .inr ⟨path, params, child, children, hclosed, hchildren, rfl⟩

/-! ## Open nodes stay sound -/

section

-- a node has the property if the programs that it holds have static edges
variable (hA : ∀ node : Node, node.HoldsStatic → A node)

include hA

theorem within_text (chars : String) (loc : Option Span) : (Node.text chars loc).Within A :=
  ⟨hA _ nofun, nofun⟩

/-- A node with sound children is sound. -/
theorem isSound_withChildren (hchildren : node.children = .ok siblings)
    (h : Everywhere (ApartWith A) nodes) : (node.withChildren nodes).IsSound A := by
  have hgiven : (node.withChildren nodes).children = .ok nodes :=
    Node.children_withChildren hchildren nodes
  refine (isSound_iff_of_children hgiven).mpr ⟨hA _ ?_, h⟩
  rw [Node.HoldsStatic, programs_of_children hgiven]
  exact nofun

/-- Finishing an open program keeps it sound. -/
theorem isSound_finishOpen (config : Config) (h : node.IsSound A) :
    (node.finishOpen config).IsSound A := by
  cases node with
  | program p =>
    obtain ⟨-, hbody⟩ := isSound_program_iff.mp h
    rw [Node.finishOpen, value_finish]
    refine isSound_program_iff.mpr ⟨hA _ nofun, ?_⟩
    exact everywhere_apartWith_finished (within_text hA) hbody
  | _ => exact h

/-- A node that holds nothing but a finished program is sound if the program's body was
before. -/
theorem within_of_holds_finished (hprograms : node.programs = [p.finished config])
    (hlists : node.lists = [(p.finished config).body]) (h : Everywhere (ApartWith A) p.body) :
    node.Within A := by
  constructor
  · refine hA node fun r hr => ?_
    rw [hprograms, List.mem_singleton] at hr
    rw [hr]
    exact staticEdges_finishedBody config p.strip p.body
  · intro inner hinner
    rw [hlists, List.mem_singleton] at hinner
    rw [hinner]
    exact everywhere_apartWith_finished (within_text hA) h

/-- **What is closed is sound.** -/
theorem within_closed {path : String} {params : List Node} (h : node.IsSound A)
    (hclosed : outcome (OpenNodes.closed config path params node) = .ok child) :
    child.Within A := by
  rcases outcome_closed_eq_ok hclosed with ⟨p, rfl, rfl⟩ | ⟨e, rfl, rfl⟩ | ⟨-, rfl⟩
  · exact within_of_holds_finished hA rfl rfl (isSound_program_iff.mp h).2
  · have hchildren : Everywhere (ApartWith A) e.children := h.2 e.children List.mem_cons_self
    unfold Element.converted
    by_cases htag : isCustomTag e.tag = true
    · rw [if_pos htag]
      have hbody : Everywhere (ApartWith A) e.invocation.program.body := hchildren
      exact within_of_holds_finished hA rfl rfl hbody
    · rw [if_neg htag]
      exact h.within
  · exact h.within

/-- A node that is given a sound child stays sound. -/
theorem isSound_addSibling {children : List Node} (h : parent.IsSound A)
    (hchildren : parent.children = .ok children) (hchild : child.Within A) :
    (parent.withChildren (addSibling children child).value).IsSound A := by
  have hlist : Everywhere (ApartWith A) children := ((isSound_iff_of_children hchildren).mp h).2
  refine isSound_withChildren hA hchildren ?_
  exact everywhere_apartWith_addSibling (within_text hA "" none) hlist hchild

/-- **A move keeps the open nodes sound.** -/
theorem isSound_move (config : Config) {move : Move} (h : s.IsSound A)
    (hsupplied : ∀ node ∈ move.supplied, node.IsSound A) : (s.move config move).IsSound A := by
  obtain ⟨htop, hbelow⟩ := List.forall_mem_cons.mp h
  unfold OpenNodes.IsSound
  rcases move_cases config s move with hsame | ⟨node, hnode, hopened⟩ |
    ⟨child, hchild, children, hchildren, hadded⟩ | ⟨children, hchildren, hdropped⟩ |
    ⟨inner, node, outer, hnodes, hfinished⟩ | ⟨parent, outer, hparent, hclosed⟩
  · rw [hsame]
    exact h
  · rw [hopened]
    exact List.forall_mem_cons.mpr ⟨hsupplied node hnode, h⟩
  · rw [hadded]
    refine List.forall_mem_cons.mpr ⟨?_, hbelow⟩
    exact isSound_addSibling hA htop hchildren (hsupplied child hchild).within
  · rw [hdropped]
    refine List.forall_mem_cons.mpr ⟨isSound_withChildren hA hchildren ?_, hbelow⟩
    exact everywhere_apartWith_dropLast ((isSound_iff_of_children hchildren).mp htop).2
  · unfold OpenNodes.IsSound at h
    rw [hnodes, List.forall_mem_append, List.forall_mem_cons] at h
    obtain ⟨hinner, hnode, houter⟩ := h
    rw [hfinished, List.forall_mem_append, List.forall_mem_cons]
    exact ⟨hinner, isSound_finishOpen hA config hnode, houter⟩
  · rw [hparent] at hbelow
    rcases hclosed with hlost | ⟨path, params, child, children, hchild, hchildren, hgiven⟩
    · rw [hlost]
      exact hbelow
    · obtain ⟨hsound, houter⟩ := List.forall_mem_cons.mp hbelow
      rw [hgiven]
      refine List.forall_mem_cons.mpr ⟨?_, houter⟩
      exact isSound_addSibling hA hsound hchildren (within_closed hA htop hchild)

/-- **So does a whole run.** -/
theorem isSound_after (config : Config) (h : s.IsSound A)
    (hsupplied : ∀ move ∈ moves, ∀ node ∈ move.supplied, node.IsSound A) :
    (s.after config moves).IsSound A := by
  induction moves generalizing s with
  | nil => exact h
  | cons move moves ih =>
    obtain ⟨hmove, hmoves⟩ := List.forall_mem_cons.mp hsupplied
    exact ih (isSound_move hA config h hmove) hmoves

end

/-! ## The outermost node stays a program -/

/-- Whether a program is outermost shows in the kinds of the open nodes. -/
theorem isRooted_iff : s.IsRooted ↔ (s.nodes.map Node.kind).getLast? = some .program := by
  rw [List.getLast?_map, Option.map_eq_some_iff]
  constructor
  · rintro ⟨r, hr⟩
    exact ⟨.program r, hr, rfl⟩
  · rintro ⟨node, hnode, hkind⟩
    cases node with
    | program r => exact ⟨r, hnode⟩
    | _ => cases hkind

/-- **A move leaves a program outermost**: it puts a node in front, takes one from there,
or changes no kind. -/
theorem isRooted_move (config : Config) (move : Move) (h : s.IsRooted) :
    (s.move config move).IsRooted := by
  rw [isRooted_iff] at h ⊢
  rcases move_cases config s move with hsame | ⟨node, -, hopened⟩ | ⟨child, -, children, -, hadded⟩ |
    ⟨children, -, hdropped⟩ | ⟨inner, node, outer, hnodes, hfinished⟩ |
    ⟨parent, outer, hparent, hclosed⟩
  · rw [hsame]
    exact h
  · rw [hopened]
    simpa [OpenNodes.nodes] using h
  · rw [hadded]
    simpa [OpenNodes.nodes] using h
  · rw [hdropped]
    simpa [OpenNodes.nodes] using h
  · rw [hnodes] at h
    rw [hfinished]
    simpa using h
  · have houter : ((parent :: outer).map Node.kind).getLast? = some .program := by
      simpa [OpenNodes.nodes, hparent] using h
    rcases hclosed with hlost | ⟨path, params, child, children, -, -, hgiven⟩
    · rw [hlost]
      exact houter
    · rw [hgiven]
      simpa using houter

theorem isRooted_after (config : Config) (moves : List Move) (h : s.IsRooted) :
    (s.after config moves).IsRooted := by
  induction moves generalizing s with
  | nil => exact h
  | cons move moves ih => exact ih (isRooted_move config move h)

/-! ## What a compilation needs -/

/-- **A sound program compiles to a settled one**, or is rejected. -/
theorem compile_of_isSound (config : Config) (h : (Node.program p).IsSound Node.IsFinished) :
    (∃ q, outcome (p.compile config) = .ok q ∧ q.IsSettled) ∨
      ∃ fault, outcome (p.compile config) = .error (.template fault) := by
  rw [outcome_compile]
  cases p.fault? with
  | some fault => exact .inr ⟨fault, rfl⟩
  | none =>
    exact .inl ⟨p.normal config, rfl,
      isSettled_normal_of_parsed config (isSound_program_iff.mp h).2⟩

/-- **A tree grows into one that compiles well.** Let the root and all nodes that are
opened or added be sound. Then, after any moves, every open node is sound, also when of
all programs, and not of components' alone, static edges are asked; the outermost open
node is a program; and a compilation gives it the shape that code generation relies on, or
rejects it as a template. -/
theorem shape_of_growth (config : Config) (root : Program) (moves : List Move)
    (hroot : (Node.program root).IsSound Node.IsFinished)
    (hsupplied : ∀ move ∈ moves, ∀ node ∈ move.supplied, node.IsSound Node.IsFinished) :
    let s := (OpenNodes.ofRoot (.program root)).after config moves
    (∀ node ∈ s.nodes, node.IsSound Node.IsFinished) ∧
      ((Node.program root).IsSound Node.HoldsStatic →
        (∀ move ∈ moves, ∀ node ∈ move.supplied, node.IsSound Node.HoldsStatic) →
        ∀ node ∈ s.nodes, node.IsSound Node.HoldsStatic) ∧
      ∃ r, s.nodes.getLast? = some (.program r) ∧
        ((∃ q, outcome (r.compile config) = .ok q ∧ WellShaped q) ∨
          ∃ fault, outcome (r.compile config) = .error (.template fault)) := by
  intro s
  have hofRoot : ∀ {A : Node → Prop}, (Node.program root).IsSound A →
      (OpenNodes.ofRoot (.program root)).IsSound A := by
    intro A h node hnode
    rw [List.mem_singleton.mp hnode]
    exact h
  have hfinished : s.IsSound Node.IsFinished := by
    refine isSound_after ?_ config (hofRoot hroot) hsupplied
    exact fun node hstatic => isFinished_iff.mpr fun _ => hstatic
  refine ⟨hfinished, ?_, ?_⟩
  · intro hstatic hsuppliedStatic
    exact isSound_after (fun _ h => h) config (hofRoot hstatic) hsuppliedStatic
  · obtain ⟨r, hr⟩ : s.IsRooted := isRooted_after config moves ⟨root, rfl⟩
    have hsound := hfinished _ (List.mem_of_getLast? hr)
    refine ⟨r, hr, (compile_of_isSound config hsound).imp_left ?_⟩
    rintro ⟨q, hq, hsettled⟩
    exact ⟨q, hq, hsettled.wellShaped⟩

/-- A card is read between two mustaches: it becomes a component beside the one, the
other is dropped again, and a paragraph that is still open is not yet the root's. -/
def cardMoves : List Move :=
  let name := Node.buildMustache (.ofText "name") [] [] true
  [.step (.add name), .step (.begin (.element (.build "x-card" []))), .step (.add name),
    .step (.add name), .finishBelow 0, .step (.close "" []), .step (.add name), .step .dropLast,
    .step (.begin (.program (.build [] none))), .step (.add name), .step (.close "if" [name]),
    .step (.begin (.element (.build "p" []))), .step (.add (.ofText "and so on"))]

theorem shape_of_growth_cardMoves :
    let root := Program.build [] none
    let s := (OpenNodes.ofRoot (.program root)).after .default cardMoves
    ((Node.program root).IsSound Node.IsFinished ∧
      ∀ move ∈ cardMoves, ∀ node ∈ move.supplied, node.IsSound Node.IsFinished) ∧
    (∀ node ∈ s.nodes, node.IsSound Node.IsFinished) ∧
      ((Node.program root).IsSound Node.HoldsStatic →
        (∀ move ∈ cardMoves, ∀ node ∈ move.supplied, node.IsSound Node.HoldsStatic) →
        ∀ node ∈ s.nodes, node.IsSound Node.HoldsStatic) ∧
      ∃ r, s.nodes.getLast? = some (.program r) ∧
        ((∃ q, outcome (r.compile .default) = .ok q ∧ WellShaped q) ∨
          ∃ fault, outcome (r.compile .default) = .error (.template fault)) := by
  have hroot : (Node.program (.build [] none)).IsSound Node.IsFinished := by decide
  have hsupplied : ∀ move ∈ cardMoves, ∀ node ∈ move.supplied, node.IsSound Node.IsFinished := by
    decide
  exact ⟨⟨hroot, hsupplied⟩, shape_of_growth .default (.build [] none) cardMoves hroot hsupplied⟩

end MarkupTemplate
