import MarkupTemplate.Proofs.Normal.Form
/-!
# The shape of a compiled template

A list is `Settled` when no two neighbours are live, no entry is a custom element,
and every program that an entry holds has static edges. If a template spaces its
lists, and its components arrive finished, then its normal form is settled in every
list that is reached: `settled_normal` carries this up the tree, an entry at a time,
and `settled_finished` through the finishing of a program. A settled program is
`WellShaped`, as code generation expects it.
-/

namespace MarkupTemplate

/-- An entry is settled: it is no custom element, and the programs that it holds have
static edges. -/
def Node.IsSettled (node : Node) : Prop :=
  node.isCustomElement = false ∧ ∀ p ∈ node.programs, StaticEdges p.body

/-- An entry arrives finished: where it is a component, its program has static
edges. -/
def Node.IsFinished (node : Node) : Prop :=
  ∀ c, node = .component c → StaticEdges c.program.body

/-- A list of settled entries in which no two neighbours are live. -/
abbrev Settled : List Node → Prop :=
  ApartWith Node.IsSettled

/-- A program is settled: its edges are static, and every list that is reached from its
body is settled. -/
def Program.IsSettled (p : Program) : Prop :=
  StaticEdges p.body ∧ Everywhere Settled p.body

/-- The shape that code generation relies on: in every list that is reached live siblings
stand apart and no element is a custom one, and every program that is reached has static
edges. -/
structure WellShaped (p : Program) : Prop where
  apart : ∀ list, Reaches p.body list → Apart list
  staticEdges : ∀ r, p.Reaches r → StaticEdges r.body
  plain : ∀ list, Reaches p.body list → ∀ e, .element e ∈ list → isCustomTag e.tag = false

variable {config : Config} {edges : Directives} {nodes list body : List Node} {node : Node}

/-- **A settled program is well shaped.** -/
theorem Program.IsSettled.wellShaped {p : Program} (h : p.IsSettled) : WellShaped p := by
  obtain ⟨hedges, hsettled⟩ := h
  refine ⟨fun list hlist => (hsettled list hlist).1, ?_, ?_⟩
  · refine forall_program_reaches_iff.mpr ⟨hedges, fun list hlist node hnode => ?_⟩
    exact ((hsettled list hlist).2 node hnode).2
  · intro list hlist e he
    exact ((hsettled list hlist).2 (.element e) he).1

/-- A text is settled. -/
theorem settledWithin_text (chars : String) (loc : Option Span) :
    (Node.text chars loc).Within Node.IsSettled :=
  ⟨⟨rfl, nofun⟩, nofun⟩

/-- A node that holds nothing but settled programs is settled, and so is everything in
it. -/
theorem settledWithin_of_programs (hcustom : node.isCustomElement = false)
    (hlists : node.lists = node.programs.map Program.body)
    (h : ∀ p ∈ node.programs, p.IsSettled) : node.Within Node.IsSettled := by
  refine ⟨⟨hcustom, fun p hp => (h p hp).1⟩, ?_⟩
  intro inner hinner
  rw [hlists] at hinner
  obtain ⟨p, hp, rfl⟩ := List.mem_map.mp hinner
  exact (h p hp).2

/-! ## Spacing and finishing -/

/-- Spacing a list anew settles it if its entries are settled. -/
theorem settled_spacedFrom (h : ∀ node ∈ nodes, node.Within Node.IsSettled) :
    Everywhere Settled (spacedFrom none nodes) := by
  refine everywhere_apartWith_iff.mpr ⟨apart_spacedFrom, ?_⟩
  exact (forall_mem_spacedFrom_iff (settledWithin_text "" none)).mpr h

/-- **Finishing keeps a body settled**, and makes its edges static. -/
theorem settled_finished (h : Everywhere Settled body) :
    Everywhere Settled (finishedBody config edges body) := by
  obtain ⟨hapart, hwithin⟩ := everywhere_apartWith_iff.mp h
  refine everywhere_apartWith_iff.mpr ⟨apart_finishedBody hapart, ?_⟩
  exact (forall_mem_finishedBody_iff settledWithin_text).mpr hwithin

/-- A finished program is settled if the entries of its body were. -/
theorem isSettled_finished (config : Config) {p : Program} (h : Everywhere Settled p.body) :
    (p.finished config).IsSettled :=
  ⟨staticEdges_finishedBody config p.strip p.body, settled_finished h⟩

/-- A change that keeps the live entries keeps the edges. -/
theorem staticEdges_map {f : Node → Node} (hlive : ∀ node ∈ body, (f node).isLive = node.isLive)
    (h : StaticEdges body) : StaticEdges (body.map f) := by
  obtain ⟨hhead, hlast⟩ := h
  constructor
  · cases body with
    | nil => rfl
    | cons first _ => simpa [hlive first List.mem_cons_self] using hhead
  · rw [List.getLast?_map]
    cases hsome : body.getLast? with
    | none => rfl
    | some last =>
      rw [hsome] at hlast
      simpa [hlive last (List.mem_of_getLast? hsome)] using hlast

/-! ## The normal form of a parsed template -/

/-- The entries of a parsed list, once they are settled, make a settled list. -/
theorem settled_respaced (hapart : Apart nodes)
    (h : ∀ node ∈ nodes, (node.normal config).Within Node.IsSettled) :
    Everywhere Settled (respaced nodes (nodes.map (Node.normal config))) := by
  rw [respaced_normal hapart]
  refine settled_spacedFrom fun node hnode => ?_
  obtain ⟨original, horiginal, rfl⟩ := List.mem_map.mp hnode
  exact h original horiginal

/-- A program whose entries become settled is settled in its normal form. -/
theorem isSettled_normal (config : Config) {p : Program} (hapart : Apart p.body)
    (h : ∀ node ∈ p.body, (node.normal config).Within Node.IsSettled) :
    (p.normal config).IsSettled := by
  rw [normal_program]
  exact isSettled_finished config (settled_respaced hapart h)

/-- So is a component's program: either it is finished again, or its live entries are
where they were and its edges as static as before. -/
theorem isSettled_refinished (config : Config) {p : Program} (hapart : Apart p.body)
    (hedges : StaticEdges p.body)
    (h : ∀ node ∈ p.body, (node.normal config).Within Node.IsSettled) :
    (Program.refinished config p.body
      { p with body := respaced p.body (p.body.map (Node.normal config)) }).IsSettled := by
  have hsettled := settled_respaced hapart h
  unfold Program.refinished
  by_cases hcustom : p.body.any Node.isCustomElement = true
  · rw [if_pos hcustom]
    exact isSettled_finished config hsettled
  · rw [if_neg hcustom]
    rw [Bool.not_eq_true] at hcustom
    have hlive : ∀ node ∈ p.body, (node.normal config).isLive = node.isLive := by
      intro node hnode
      exact isLive_normal_of_mem hcustom hnode
    simp only [respaced, hcustom, Bool.false_eq_true, if_false] at hsettled ⊢
    exact ⟨staticEdges_map hlive hedges, hsettled⟩

/-- **The normal form of a parsed entry is settled.** -/
theorem settled_normal (config : Config) (node : Node) (hparsed : node.Within Node.IsFinished) :
    (node.normal config).Within Node.IsSettled := by
  induction node with
  | element e ih =>
    have hlist := everywhere_apartWith_iff.mp (hparsed.2 e.children List.mem_cons_self)
    have hentries : ∀ node ∈ e.children, (node.normal config).Within Node.IsSettled := by
      intro node hnode
      exact ih node hnode (hlist.2 node hnode)
    have hsettled := settled_respaced hlist.1 hentries
    by_cases htag : isCustomTag e.tag = true
    · -- the children are the body of a finished program
      rw [normal_element_of_custom htag]
      refine settledWithin_of_programs rfl rfl fun p hp => ?_
      rw [List.mem_singleton.mp hp]
      exact isSettled_finished config hsettled
    · -- the children stay children
      rw [Bool.not_eq_true] at htag
      rw [normal_element_of_plain htag]
      refine ⟨⟨htag, nofun⟩, fun inner hinner => ?_⟩
      rw [List.mem_singleton.mp hinner]
      exact hsettled
  | block b ih ih' =>
    have hprogram : (b.program.normal config).IsSettled := by
      have hlist := everywhere_apartWith_iff.mp (hparsed.2 b.program.body List.mem_cons_self)
      refine isSettled_normal config hlist.1 ?_
      intro node hnode
      exact ih node hnode (hlist.2 node hnode)
    have hinverse : ∀ p, b.inverse = some p → (p.normal config).IsSettled := by
      intro p hp
      have hlist := everywhere_apartWith_iff.mp (hparsed.2 p.body (by simp [hp]))
      refine isSettled_normal config hlist.1 ?_
      intro node hnode
      exact ih' p hp node hnode (hlist.2 node hnode)
    rw [normal_block]
    refine settledWithin_of_programs rfl rfl fun p hp => ?_
    rcases List.mem_cons.mp hp with rfl | hp
    · exact hprogram
    · obtain ⟨other, hother, rfl⟩ := Option.map_eq_some_iff.mp (Option.mem_toList.mp hp)
      exact hinverse other hother
  | component c ih =>
    have hlist := everywhere_apartWith_iff.mp (hparsed.2 c.program.body List.mem_cons_self)
    have hedges : StaticEdges c.program.body := hparsed.1 c rfl
    rw [normal_component]
    refine settledWithin_of_programs rfl rfl fun p hp => ?_
    rw [List.mem_singleton.mp hp]
    refine isSettled_refinished config hlist.1 hedges ?_
    intro node hnode
    exact ih node hnode (hlist.2 node hnode)
  | leaf node h =>
    rw [normal_of_lists_eq_nil h]
    refine settledWithin_of_programs ?_ ?_ ?_
    · cases node <;> first | rfl | cases h
    · rw [h, Node.programs_of_lists_eq_nil h]
      rfl
    · simp [Node.programs_of_lists_eq_nil h]

/-- **So is the normal form of a parsed program.** -/
theorem isSettled_normal_of_parsed (config : Config) {p : Program}
    (h : Everywhere (ApartWith Node.IsFinished) p.body) : (p.normal config).IsSettled := by
  obtain ⟨hapart, hentries⟩ := everywhere_apartWith_iff.mp h
  refine isSettled_normal config hapart ?_
  intro node hnode
  exact settled_normal config node (hentries node hnode)

/-! ## Compiled templates -/

/-- **A compiled template has the shape that code generation relies on**, if the lists of
the template are spaced and its components arrive finished. -/
theorem shape_of_compile (config : Config) (p q : Program)
    (hapart : ∀ list, Reaches p.body list → Apart list)
    (hfinished : ∀ list, Reaches p.body list → ∀ c, .component c ∈ list →
      StaticEdges c.program.body)
    (h : outcome (p.compile config) = .ok q) : WellShaped q := by
  obtain ⟨-, rfl⟩ := outcome_compile_eq_ok_iff.mp h
  have hparsed : Everywhere (ApartWith Node.IsFinished) p.body := by
    intro list hlist
    refine ⟨hapart list hlist, ?_⟩
    rintro _ hnode c rfl
    exact hfinished list hlist c hnode
  exact (isSettled_normal_of_parsed config hparsed).wellShaped

/-- The menu with a finished component in front. -/
def titledMenu : Program :=
  { menu with
    body := .component (.build "x-title" [] (.build [.ofText "Menu"] none)) :: menu.body }

theorem shape_of_compile_titledMenu :
    ∃ q, outcome (titledMenu.compile .default) = .ok q ∧ WellShaped q := by
  have hapart : Everywhere Apart titledMenu.body := by decide
  have hfinished : Everywhere (fun list => ∀ node ∈ list, node.kind = .component →
      ∀ p ∈ node.programs, StaticEdges p.body) titledMenu.body := by decide
  exact ⟨_, rfl, shape_of_compile .default titledMenu _ hapart
    (fun list hlist c hc => hfinished list hlist _ hc rfl _ List.mem_cons_self) rfl⟩

end MarkupTemplate
