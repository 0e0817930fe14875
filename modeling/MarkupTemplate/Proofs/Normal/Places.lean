import MarkupTemplate.Proofs.Component.Runs
import MarkupTemplate.Proofs.Normal.Fault
import MarkupTemplate.Proofs.Tree.Erasure
/-!
# Places — carried along, and never looked at

Places are there for messages, and the concat helper for arguments: a compilation looks
at neither. Erasing the places commutes with each step, so that the normal form of an
erased tree is the erased normal form (`normal_withoutLocs`), whatever the concat helper
of either run is; and a malformed run is malformed without places, with the same text.
Two templates that differ in places alone then end alike (`compile_withoutLocs`).
-/

namespace MarkupTemplate

/-- The text of the malformed run that a fault is about. -/
def TemplateFault.params : TemplateFault → String
  | malformedParams params _ => params

variable {config config' : Config} {edges : Directives} {nodes : List Node}

/-! ## Parameter runs -/

/-- A run is split off by the names of attributes. -/
theorem splitAtAs_withoutLocs (attributes : List Attr) :
    splitAtAs (attributes.map Attr.withoutLocs) =
      ((splitAtAs attributes).1.map Attr.withoutLocs,
        (splitAtAs attributes).2.map Attr.withoutLocs) := by
  have hname : ((fun attr : Attr => attr.name != "as") ∘ Attr.withoutLocs) =
      fun attr => attr.name != "as" := by
    funext attr
    rw [Function.comp_apply, Attr.name_withoutLocs]
  rw [splitAtAs_eq, splitAtAs_eq, List.takeWhile_map, List.dropWhile_map, hname]

theorem isParamRun_withoutLocs (run : List Attr) :
    isParamRun (run.map Attr.withoutLocs) = isParamRun run := by
  match run with
  | [] | [_] => rfl
  | _ :: second :: _ => exact congrArg (·.toList.head? == some '|') (Attr.name_withoutLocs second)

/-- The names of attributes are left. -/
theorem map_name_withoutLocs (run : List Attr) :
    (run.map Attr.withoutLocs).map Attr.name = run.map Attr.name := by
  rw [List.map_map]
  exact List.map_congr_left fun attr _ => Attr.name_withoutLocs attr

theorem runText_withoutLocs (run : List Attr) :
    runText (run.map Attr.withoutLocs) = runText run := by
  rw [runText, runText, map_name_withoutLocs]

theorem runParams_withoutLocs (run : List Attr) :
    runParams (run.map Attr.withoutLocs) = runParams run := by
  have hnames : ∀ row : List Attr,
      runParams row = (((row.map Attr.name).drop 1).map withoutBars).filter
        fun name => !name.isEmpty := by
    intro row
    rw [← List.map_drop, List.map_map]
    rfl
  rw [hnames, hnames, map_name_withoutLocs]

/-- **A run is taken or refused by its names**: with or without places, the attributes
that are left and the names that are bound are the same, and so is the text of a
malformed run. -/
theorem run_withoutLocs (attributes : List Attr) :
    keptAttributes (attributes.map Attr.withoutLocs) =
        (keptAttributes attributes).map Attr.withoutLocs ∧
      boundNames (attributes.map Attr.withoutLocs) = boundNames attributes ∧
      (runFault? (attributes.map Attr.withoutLocs)).map TemplateFault.params =
        (runFault? attributes).map TemplateFault.params := by
  rcases hown : splitAtAs attributes with ⟨kept, run⟩
  have hsplit : splitAtAs (Element.build "" attributes).attributes = (kept, run) := hown
  have hstripped : splitAtAs (Element.build "" (attributes.map Attr.withoutLocs)).attributes =
      (kept.map Attr.withoutLocs, run.map Attr.withoutLocs) := by
    rw [Element.build, splitAtAs_withoutLocs, hown]
  unfold keptAttributes boundNames runFault?
  rw [Element.takeBlockParams_eq hsplit, Element.takeBlockParams_eq hstripped,
    isParamRun_withoutLocs, runText_withoutLocs, runParams_withoutLocs]
  cases isParamRun run with
  | false => exact ⟨rfl, rfl, rfl⟩
  | true => cases isClosedRun (runText run) <;> exact ⟨rfl, rfl, rfl⟩

/-! ## Lists and programs -/

/-- **The siblings of a node can not tell its places.** -/
theorem outside_withoutLocs (node : Node) : node.withoutLocs.outside = node.outside := by
  cases node with
  | mustache m =>
    obtain ⟨expression, escaped, strip, loc⟩ := m
    rfl
  | block b =>
    obtain ⟨expression, program, inverse, openStrip, closeStrip, loc⟩ := b
    rfl
  | _ => rfl

theorem isLive_withoutLocs (node : Node) : node.withoutLocs.isLive = node.isLive :=
  Node.isLive_of_outside (outside_withoutLocs node)

/-- Finishing a program does not look at places, nor at the concat helper. -/
theorem finished_withoutLocs (h : config'.stripping = config.stripping) (p : Program) :
    p.withoutLocs.finished config' = (p.finished config).withoutLocs := by
  have htext : ∀ chars loc, (Node.text chars loc).withoutLocs = .text chars none :=
    fun _ _ => rfl
  have hbody : finishedBody config p.strip (p.body.map Node.withoutLocs) =
      (finishedBody config p.strip p.body).map Node.withoutLocs :=
    finishedBody_map rfl htext fun node _ => outside_withoutLocs node
  rw [Program.withoutLocs_eq, Program.withoutLocs_eq, Program.finished, Program.finished, ← hbody]
  simp only [finishedBody, scanned_of_stripping h]

/-- Nor does finishing it again. -/
theorem refinished_withoutLocs (h : config'.stripping = config.stripping) (before : List Node)
    (p : Program) : p.withoutLocs.refinished config' (before.map Node.withoutLocs) =
      (p.refinished config before).withoutLocs := by
  rw [Program.refinished, Program.refinished, any_isCustomElement_withoutLocs]
  split
  · exact finished_withoutLocs h p
  · rfl

/-- If normalizing the entries of a list does not look at their places, nor does
normalizing the list. -/
theorem respaced_withoutLocs (h : ∀ node ∈ nodes,
      node.withoutLocs.normal config' = (node.normal config).withoutLocs) :
    respaced (nodes.map Node.withoutLocs)
        ((nodes.map Node.withoutLocs).map (Node.normal config')) =
      (respaced nodes (nodes.map (Node.normal config))).map Node.withoutLocs := by
  have hmap : (nodes.map Node.withoutLocs).map (Node.normal config') =
      (nodes.map (Node.normal config)).map Node.withoutLocs := by
    rw [List.map_map, List.map_map]
    exact List.map_congr_left h
  rw [respaced, respaced, any_isCustomElement_withoutLocs, hmap]
  split
  · exact spacedFrom_map rfl rfl fun node _ => isLive_withoutLocs node
  · rfl

/-- The same for programs. -/
theorem normal_withoutLocs_program (hstripping : config'.stripping = config.stripping)
    {p : Program} (h : ∀ node ∈ p.body,
      node.withoutLocs.normal config' = (node.normal config).withoutLocs) :
    p.withoutLocs.normal config' = (p.normal config).withoutLocs := by
  rw [normal_program, normal_program, ← finished_withoutLocs hstripping, Program.withoutLocs_eq,
    Program.withoutLocs_eq, respaced_withoutLocs h]

/-! ## Normal forms -/

/-- **Normalizing a node does not look at places, nor at the concat helper.** -/
theorem normal_withoutLocs (hstripping : config'.stripping = config.stripping) (node : Node) :
    node.withoutLocs.normal config' = (node.normal config).withoutLocs := by
  induction node with
  | element e ih =>
    obtain ⟨hkept, hbound, -⟩ := run_withoutLocs e.attributes
    have hchildren := respaced_withoutLocs ih
    have hsame : isCustomTag e.withoutLocs.tag = isCustomTag e.tag :=
      congrArg isCustomTag e.tag_withoutLocs
    rw [Node.withoutLocs]
    by_cases htag : isCustomTag e.tag = true
    · rw [normal_element_of_custom (hsame.trans htag), normal_element_of_custom htag,
        Node.withoutLocs, Component.withoutLocs_eq, ← finished_withoutLocs hstripping,
        Program.withoutLocs_eq, Element.withoutLocs_eq]
      simp only [hkept, hbound, hchildren, Program.build]
    · have hplain : isCustomTag e.tag = false := by simpa using htag
      rw [normal_element_of_plain (hsame.trans hplain), normal_element_of_plain hplain,
        Node.withoutLocs, Element.withoutLocs_eq, Element.withoutLocs_eq, hchildren]
  | block b ih ih' =>
    have hprogram := normal_withoutLocs_program hstripping ih
    have hinverse : (b.inverse.map Program.withoutLocs).map (Program.normal config') =
        (b.inverse.map (Program.normal config)).map Program.withoutLocs := by
      rw [Option.map_map, Option.map_map]
      exact Option.map_congr fun p hp => normal_withoutLocs_program hstripping (ih' p hp)
    rw [Node.withoutLocs, Block.withoutLocs_eq, normal_block, normal_block, Node.withoutLocs,
      Block.withoutLocs_eq, hprogram, hinverse]
  | component c ih =>
    have hbody := respaced_withoutLocs ih
    rw [Node.withoutLocs, normal_component, normal_component, Node.withoutLocs,
      Component.withoutLocs_eq, Component.withoutLocs_eq,
      ← refinished_withoutLocs hstripping c.program.body, Program.withoutLocs_eq,
      Program.withoutLocs_eq]
    simp only [hbody]
  | leaf node h =>
    rw [normal_of_lists_eq_nil h, normal_of_lists_eq_nil (lists_withoutLocs_of_eq_nil h)]

/-- So is normalizing a template. -/
theorem Program.normal_withoutLocs (hstripping : config'.stripping = config.stripping)
    (p : Program) : p.withoutLocs.normal config' = (p.normal config).withoutLocs :=
  normal_withoutLocs_program hstripping fun node _ =>
    MarkupTemplate.normal_withoutLocs hstripping node

/-! ## Faults -/

/-- If the custom elements of nodes stay the same but for their places, so do those of a
list. -/
theorem customElementsOf_withoutLocs (h : ∀ node ∈ nodes,
      node.withoutLocs.customElements = node.customElements.map Element.withoutLocs) :
    customElementsOf (nodes.map Node.withoutLocs) =
      (customElementsOf nodes).map Element.withoutLocs := by
  rw [customElementsOf_eq_flatMap, customElementsOf_eq_flatMap, List.flatMap_map,
    List.map_flatMap]
  exact List.flatMap_congr h

/-- **The custom elements of a node stay the same but for their places.** -/
theorem customElements_withoutLocs (node : Node) :
    node.withoutLocs.customElements = node.customElements.map Element.withoutLocs := by
  induction node with
  | element e ih =>
    have hchildren := customElementsOf_withoutLocs ih
    have hsame : e.withoutLocs.children = e.children.map Node.withoutLocs := by
      rw [Element.withoutLocs_eq]
    rw [Node.withoutLocs, customElements_element, customElements_element, List.map_append,
      hsame, hchildren, e.tag_withoutLocs]
    split <;> rfl
  | block b ih ih' =>
    have hbody := customElementsOf_withoutLocs ih
    rw [Node.withoutLocs, Block.withoutLocs_eq, customElements_block, customElements_block,
      List.map_append, Program.withoutLocs_eq, hbody]
    cases hinverse : b.inverse with
    | none => rfl
    | some other =>
      have hother := customElementsOf_withoutLocs (ih' other hinverse)
      simp [Program.withoutLocs_eq, hother]
  | component c ih =>
    rw [Node.withoutLocs, Component.withoutLocs_eq, customElements_component,
      customElements_component, Program.withoutLocs_eq]
    exact customElementsOf_withoutLocs ih
  | leaf node h =>
    rw [customElements_of_lists_eq_nil h,
      customElements_of_lists_eq_nil (lists_withoutLocs_of_eq_nil h)]
    rfl

/-- A malformed run is one without places, with the same text. -/
theorem firstFault?_withoutLocs (elements : List Element) :
    (firstFault? (elements.map Element.withoutLocs)).map TemplateFault.params =
      (firstFault? elements).map TemplateFault.params := by
  induction elements with
  | nil => rfl
  | cons e elements ih =>
    obtain ⟨-, -, hfault⟩ := run_withoutLocs e.attributes
    have hattributes : e.withoutLocs.attributes = e.attributes.map Attr.withoutLocs := by
      rw [Element.withoutLocs_eq]
    rw [firstFault?, firstFault?, List.map_cons, List.findSome?_cons, List.findSome?_cons,
      hattributes]
    -- the element has a fault with and without its places, or the others decide
    cases hrun : runFault? e.attributes with
    | none =>
      rw [hrun, Option.map_none, Option.map_eq_none_iff] at hfault
      rw [hfault]
      exact ih
    | some fault =>
      rw [hrun, Option.map_some, Option.map_eq_some_iff] at hfault
      obtain ⟨fault', hfault', hparams⟩ := hfault
      rw [hfault']
      exact congrArg some hparams

/-- **The first fault has the same text whatever the places are.** -/
theorem fault?_withoutLocs (p : Program) :
    p.withoutLocs.fault?.map TemplateFault.params = p.fault?.map TemplateFault.params := by
  rw [Program.fault?, Program.fault?, customElements_program, customElements_program,
    Program.withoutLocs_eq,
    customElementsOf_withoutLocs fun node _ => customElements_withoutLocs node]
  exact firstFault?_withoutLocs _

/-! ## Compilations that end alike -/

/-- **Neither places nor the concat helper have a part in a compilation.** Two templates
that are the same but for their places, compiled with stripping on or off alike, both end
in trees that are the same but for their places, or both in a malformed parameter run
with the same text. -/
theorem compile_withoutLocs (config config' : Config) (p p' : Program)
    (hstripping : config.stripping = config'.stripping) (h : p.withoutLocs = p'.withoutLocs) :
    (∃ q q', outcome (p.compile config) = .ok q ∧ outcome (p'.compile config') = .ok q' ∧
      q.withoutLocs = q'.withoutLocs) ∨
    ∃ params span span',
      outcome (p.compile config) = .error (.template (.malformedParams params span)) ∧
      outcome (p'.compile config') = .error (.template (.malformedParams params span')) := by
  have hfault : p.fault?.map TemplateFault.params = p'.fault?.map TemplateFault.params := by
    rw [← fault?_withoutLocs p, h, fault?_withoutLocs p']
  rw [outcome_compile, outcome_compile]
  cases hp : p.fault? with
  | none =>
    rw [hp, Option.map_none, eq_comm, Option.map_eq_none_iff] at hfault
    rw [hfault]
    refine .inl ⟨p.normal config, p'.normal config', rfl, rfl, ?_⟩
    -- both are the normal form of the tree without places
    calc (p.normal config).withoutLocs
        = p.withoutLocs.normal config' := (p.normal_withoutLocs hstripping.symm).symm
      _ = p'.withoutLocs.normal config' := by rw [h]
      _ = (p'.normal config').withoutLocs := p'.normal_withoutLocs rfl
  | some fault =>
    rw [hp, Option.map_some, eq_comm, Option.map_eq_some_iff] at hfault
    obtain ⟨fault', hp', hparams⟩ := hfault
    obtain ⟨params, span⟩ := fault
    obtain ⟨params', span'⟩ := fault'
    obtain rfl : params' = params := hparams
    rw [hp']
    exact .inr ⟨params', span, span', rfl, rfl⟩

/-- A custom element behind a text, all in one line of the source, with attributes of the
given names. -/
def menuAt (line : UInt64) (names : List String) : Program :=
  let place : Span := { start := ⟨line, 0⟩, stop := ⟨line, 80⟩, source := some "menu" }
  let attributes := names.map fun name =>
    { name, value := .text "" (some place), loc := some place }
  let list := { tag := "x-menu", attributes, children := [], loc := some place }
  { body := [.text "Today" (some place), .element list]
    blockParams := none
    strip := .empty
    loc := some place }

theorem compile_withoutLocs_menuAt :
    (∃ q q', outcome ((menuAt 1 ["as", "|dish|"]).compile ⟨true, "concat"⟩) = .ok q ∧
      outcome ((menuAt 7 ["as", "|dish|"]).compile ⟨true, "join"⟩) = .ok q' ∧
      q.withoutLocs = q'.withoutLocs) ∧
    ∃ params span span',
      outcome ((menuAt 1 ["as", "|dish"]).compile ⟨true, "concat"⟩) =
        .error (.template (.malformedParams params span)) ∧
      outcome ((menuAt 7 ["as", "|dish"]).compile ⟨true, "join"⟩) =
        .error (.template (.malformedParams params span')) := by
  constructor
  · refine (compile_withoutLocs ⟨true, "concat"⟩ ⟨true, "join"⟩ (menuAt 1 ["as", "|dish|"])
      (menuAt 7 ["as", "|dish|"]) rfl rfl).resolve_right ?_
    rintro ⟨params, span, span', h, -⟩
    cases h
  · refine (compile_withoutLocs ⟨true, "concat"⟩ ⟨true, "join"⟩ (menuAt 1 ["as", "|dish"])
      (menuAt 7 ["as", "|dish"]) rfl rfl).resolve_left ?_
    rintro ⟨q, q', h, -⟩
    cases h

end MarkupTemplate
