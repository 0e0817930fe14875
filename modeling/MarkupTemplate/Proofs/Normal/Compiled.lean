import MarkupTemplate.Proofs.Normal.Fault
import MarkupTemplate.Proofs.Normal.Stable
/-!
# Compiled templates — what a compilation leaves, and one more round

What is left by a compilation has no custom elements, and the programs that a second
one finishes again, the root and the programs of blocks, are stable: this is
`Program.IsCompiled`, and `isCompiled_normal` says that it holds of every normal form.
So a second compilation finds no fault and nothing to convert, space, pad or trim. It
may drop an idle text, and where there is none it changes nothing
(`normal_program_eq_self_iff`, `normal_node_eq_self_iff`).
-/

namespace MarkupTemplate

/-- The programs of a block. -/
def Node.branches : Node → List Program
  | .block b => b.program :: b.inverse.toList
  | _ => []

/-- An entry is as a compilation leaves it: it is no custom element, and where it is a
block, its programs are stable. -/
def Node.IsCompiled (config : Config) (node : Node) : Prop :=
  node.isCustomElement = false ∧ ∀ p ∈ node.branches, p.IsStable config

/-- A program is as a compilation leaves it: it is stable, and so is everything in
it. -/
def Program.IsCompiled (config : Config) (p : Program) : Prop :=
  p.IsStable config ∧ ∀ node ∈ p.body, node.Throughout (Node.IsCompiled config)

/-- No program of the entry has an idle text. -/
def Node.IsIdleFree (node : Node) : Prop :=
  ∀ p ∈ node.branches, IdleFree p.body

variable {config : Config} {edges : Directives} {nodes body : List Node} {node : Node}
variable {p : Program}

/-! ## What is left by a compilation -/

/-- A node without child lists is no block. -/
theorem branches_of_lists_eq_nil (h : node.lists = []) : node.branches = [] := by
  cases node <;> first | rfl | cases h

/-- The programs of a block are its branches, and no other node has any. -/
theorem branches_subset_programs (node : Node) : node.branches ⊆ node.programs := by
  cases node with
  | block b => exact List.Subset.refl _
  | _ => exact List.nil_subset _

/-- **The normal form of a node is left by a compilation**, whatever the node. -/
theorem isCompiled_normal_node (config : Config) (node : Node) :
    (node.normal config).IsCompiled config := by
  refine ⟨isCustomElement_normal config node, fun r hr => ?_⟩
  cases node with
  | block b =>
    obtain ⟨p, rfl⟩ := exists_finished_of_mem_programs (branches_subset_programs _ hr)
    exact isStable_finished config p
  | element e =>
    rw [normal_element] at hr
    unfold Element.converted at hr
    split at hr <;> cases hr
  | component c =>
    rw [normal_component] at hr
    cases hr
  | _ => cases hr

/-- **The normal form of a template is left by a compilation.** -/
theorem isCompiled_normal (config : Config) (p : Program) :
    (p.normal config).IsCompiled config := by
  constructor
  · rw [normal_program]
    exact isStable_finished config _
  · refine everywhere_forall_mem_iff.mp ((everywhere_normal_iff (fun _ _ => ?_) p).mpr ?_)
    · exact ⟨rfl, nofun⟩
    · exact fun _ _ node _ => isCompiled_normal_node config node

/-- In a compiled program no fault is left. -/
theorem fault?_of_isCompiled (h : p.IsCompiled config) : p.fault? = none := by
  have hnone : p.customElements = [] := by
    refine List.eq_nil_iff_forall_not_mem.mpr fun e he => ?_
    obtain ⟨htag, list, hlist, hmem⟩ := (mem_customElements_iff e p).mp he
    have hcustom : isCustomTag e.tag = false :=
      (everywhere_forall_mem_iff.mpr h.2 list hlist _ hmem).1
    rw [hcustom] at htag
    cases htag
  rw [Program.fault?, hnone]
  rfl

/-! ## One more round -/

/-- Among compiled entries there is none to convert. -/
theorem any_isCustomElement_of_compiled
    (h : ∀ node ∈ nodes, node.Throughout (Node.IsCompiled config)) :
    nodes.any Node.isCustomElement = false :=
  List.any_eq_false.mpr fun node hnode => by simp [(h node hnode).1.1]

/-- Where nothing is converted the list is not spaced anew. -/
theorem respaced_of_compiled {after : List Node}
    (h : ∀ node ∈ nodes, node.Throughout (Node.IsCompiled config)) :
    respaced nodes after = after := by
  rw [respaced, any_isCustomElement_of_compiled h]
  rfl

/-- Compiled entries keep their outside. -/
theorem outside_normal_of_compiled
    (h : ∀ node ∈ nodes, node.Throughout (Node.IsCompiled config)) :
    ∀ node ∈ nodes, (node.normal config).outside = node.outside :=
  fun node hnode => outside_normal (h node hnode).1.1

theorem map_normal_eq_self_iff :
    nodes.map (Node.normal config) = nodes ↔ ∀ node ∈ nodes, node.normal config = node := by
  conv_lhs => rhs; rw [← List.map_id nodes]
  exact List.map_inj_left

/-- **A further round on a program** is a further scan of its body, and a further round
on what the scan leaves. -/
theorem normal_program_of_isCompiled (h : p.IsCompiled config) : p.normal config =
    { p with body := (scanned config p.strip none p.body).map (Node.normal config) } := by
  have hbody : finishedBody config p.strip (p.body.map (Node.normal config)) =
      (finishedBody config p.strip p.body).map (Node.normal config) :=
    finishedBody_map rfl (normal_text config) (outside_normal_of_compiled h.2)
  rw [normal_program, Program.finished, respaced_of_compiled h.2, hbody,
    finishedBody_of_isStable h.1]

/-- **A program stays as it is** if there is no idle text in its body and its entries
stay as they are. -/
theorem normal_program_eq_self_iff (h : p.IsCompiled config) : p.normal config = p ↔
    IdleFree p.body ∧ ∀ node ∈ p.body, node.normal config = node := by
  obtain ⟨body, blockParams, strip, loc⟩ := p
  rw [normal_program_of_isCompiled h]
  simp only [Program.mk.injEq, and_true]
  constructor
  · intro hsame
    have hlength : (scanned config strip none body).length = body.length := by
      simpa using congrArg List.length hsame
    have hidle : IdleFree body := idleFree_of_length_scanned hlength
    -- so the scan drops nothing, and what differs could only be an entry
    rw [scanned_eq_self h.1.2 hidle] at hsame
    exact ⟨hidle, map_normal_eq_self_iff.mp hsame⟩
  · rintro ⟨hidle, hentries⟩
    rw [scanned_eq_self h.1.2 hidle]
    exact map_normal_eq_self_iff.mpr hentries

/-- A further round on an element is a further round on its children. -/
theorem normal_element_of_compiled {e : Element}
    (h : (Node.element e).Throughout (Node.IsCompiled config)) : (Node.element e).normal config =
      .element { e with children := e.children.map (Node.normal config) } := by
  obtain ⟨⟨hplain, -⟩, hchildren⟩ := throughout_element.mp h
  rw [normal_element_of_plain hplain, respaced_of_compiled hchildren]

/-- A further round on a component is a further round on the entries of its body, which
is not finished again. -/
theorem normal_component_of_compiled {c : Component}
    (h : (Node.component c).Throughout (Node.IsCompiled config)) :
    (Node.component c).normal config = .component { c with
      program := { c.program with body := c.program.body.map (Node.normal config) } } := by
  obtain ⟨-, hbody⟩ := throughout_component.mp h
  rw [normal_component, respaced_of_compiled hbody, Program.refinished,
    any_isCustomElement_of_compiled hbody]
  rfl

theorem normal_element_eq_self_iff {e : Element}
    (h : (Node.element e).Throughout (Node.IsCompiled config)) :
    (Node.element e).normal config = .element e ↔
      e.children.map (Node.normal config) = e.children := by
  rw [normal_element_of_compiled h]
  obtain ⟨tag, attributes, children, loc⟩ := e
  simp

theorem normal_block_eq_self_iff {b : Block} : (Node.block b).normal config = .block b ↔
    b.program.normal config = b.program ∧
      b.inverse.map (Program.normal config) = b.inverse := by
  rw [normal_block]
  obtain ⟨expression, program, inverse, openStrip, closeStrip, loc⟩ := b
  simp

theorem normal_component_eq_self_iff {c : Component}
    (h : (Node.component c).Throughout (Node.IsCompiled config)) :
    (Node.component c).normal config = .component c ↔
      c.program.body.map (Node.normal config) = c.program.body := by
  rw [normal_component_of_compiled h]
  obtain ⟨tag, attributes, ⟨body, blockParams, strip, programLoc⟩, loc⟩ := c
  simp

/-- The programs of a compiled block are compiled. -/
theorem isCompiled_of_mem_branches {b : Block}
    (h : (Node.block b).Throughout (Node.IsCompiled config)) :
    b.program.IsCompiled config ∧ ∀ p, b.inverse = some p → p.IsCompiled config := by
  obtain ⟨⟨-, hstable⟩, hbody, hother⟩ := throughout_block.mp h
  refine ⟨⟨hstable _ List.mem_cons_self, hbody⟩, fun p hp => ⟨hstable p ?_, hother p hp⟩⟩
  simp [Node.branches, hp]

/-- **A compiled entry stays as it is exactly where no block in it has an idle
text.** -/
theorem normal_node_eq_self_iff (h : node.Throughout (Node.IsCompiled config)) :
    node.normal config = node ↔ node.Throughout Node.IsIdleFree := by
  induction node with
  | element e ih =>
    obtain ⟨-, hchildren⟩ := throughout_element.mp h
    have hidle : (Node.element e).IsIdleFree := nofun
    rw [normal_element_eq_self_iff h, map_normal_eq_self_iff, throughout_element,
      and_iff_right hidle]
    exact forall₂_congr fun node hnode => ih node hnode (hchildren node hnode)
  | block b ih ih' =>
    -- only here is a body finished again: for elements and components the entries decide
    obtain ⟨hprogram, hinverse⟩ := isCompiled_of_mem_branches h
    have hfirst : b.program.normal config = b.program ↔
        IdleFree b.program.body ∧ ∀ node ∈ b.program.body, node.Throughout Node.IsIdleFree := by
      rw [normal_program_eq_self_iff hprogram]
      exact and_congr_right' (forall₂_congr fun node hnode =>
        ih node hnode (hprogram.2 node hnode))
    have hsecond : b.inverse.map (Program.normal config) = b.inverse ↔
        ∀ p, b.inverse = some p →
          IdleFree p.body ∧ ∀ node ∈ p.body, node.Throughout Node.IsIdleFree := by
      cases hsome : b.inverse with
      | none => simp
      | some p =>
        have hp : p.IsCompiled config := hinverse p hsome
        simp only [Option.map_some, Option.some.injEq, forall_eq', normal_program_eq_self_iff hp]
        exact and_congr_right' (forall₂_congr fun node hnode =>
          ih' p hsome node hnode (hp.2 node hnode))
    rw [normal_block_eq_self_iff, hfirst, hsecond, throughout_block]
    simp only [Node.IsIdleFree, Node.branches, List.mem_cons, Option.mem_toList,
      forall_eq_or_imp]
    constructor
    · rintro ⟨⟨hidle, hentries⟩, hrest⟩
      exact ⟨⟨hidle, fun p hp => (hrest p hp).1⟩, hentries, fun p hp => (hrest p hp).2⟩
    · rintro ⟨⟨hidle, hidles⟩, hentries, hrest⟩
      exact ⟨⟨hidle, hentries⟩, fun p hp => ⟨hidles p hp, hrest p hp⟩⟩
  | component c ih =>
    obtain ⟨-, hbody⟩ := throughout_component.mp h
    have hidle : (Node.component c).IsIdleFree := nofun
    rw [normal_component_eq_self_iff h, map_normal_eq_self_iff, throughout_component,
      and_iff_right hidle]
    exact forall₂_congr fun node hnode => ih node hnode (hbody node hnode)
  | leaf node hleaf =>
    rw [normal_of_lists_eq_nil hleaf, throughout_of_lists_eq_nil hleaf]
    simp [Node.IsIdleFree, branches_of_lists_eq_nil hleaf]

/-- **A compiled template stays as it is exactly where no idle text is left** in its own
body or in the body of a block's program that is reached. -/
theorem normal_eq_self_iff_forall_reaches (h : p.IsCompiled config) :
    p.normal config = p ↔ IdleFree p.body ∧
      ∀ list, Reaches p.body list → ∀ b, .block b ∈ list →
        IdleFree b.program.body ∧ ∀ r, b.inverse = some r → IdleFree r.body := by
  rw [normal_program_eq_self_iff h,
    forall₂_congr fun node hnode => normal_node_eq_self_iff (h.2 node hnode),
    ← everywhere_forall_mem_iff]
  refine and_congr_right' ⟨?_, ?_⟩
  · intro hidle list hlist b hb
    have hbranches : (Node.block b).IsIdleFree := hidle list hlist _ hb
    exact ⟨hbranches _ List.mem_cons_self, fun r hr => hbranches r (by simp [Node.branches, hr])⟩
  · intro hidle list hlist node hnode
    cases node with
    | block b =>
      intro r hr
      rcases List.mem_cons.mp hr with rfl | hr
      · exact (hidle list hlist b hnode).1
      · exact (hidle list hlist b hnode).2 r (Option.mem_toList.mp hr)
    | _ => exact nofun

end MarkupTemplate
