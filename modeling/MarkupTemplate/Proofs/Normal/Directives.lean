import MarkupTemplate.Proofs.Normal.Form
import MarkupTemplate.Proofs.Normal.Stable
/-!
# Directives — where the texts of a compiled template are trimmed

A list `Honours` its directives if no text in it begins with a blank behind a sibling
that faces it with a directive, or ends in one before such a sibling. With stripping
enabled every stable list does, so every program of a compiled template has a body that
honours its directives. The children of an element are not a program's body, and nothing
is trimmed among them: they honour their directives after the compilation exactly where
they did before (`honours_respaced`). So a compiled template honours its directives
everywhere if and only if the plain elements of the template did (`honours_compile`).
-/

namespace MarkupTemplate

/-- The node is a text that begins with a blank. -/
def Node.startsBlank (node : Node) : Bool :=
  node.chars?.any Text.startsBlank

/-- The node is a text that ends in a blank. -/
def Node.endsBlank (node : Node) : Bool :=
  node.chars?.any Text.endsBlank

/-- Of two neighbours, each is trimmed if it is a text and the other one faces it with a
directive. -/
def Honoured (left right : Node) : Prop :=
  (left.facing.contains .right = true → right.startsBlank = false) ∧
    (right.facing.contains .left = true → left.endsBlank = false)

instance (left right : Node) : Decidable (Honoured left right) := by
  unfold Honoured
  infer_instance

/-- The directives of all entries are honoured by their neighbours. -/
def Honours (nodes : List Node) : Prop :=
  nodes.IsChain Honoured

instance (nodes : List Node) : Decidable (Honours nodes) := by
  unfold Honours
  infer_instance

variable {config : Config} {edges : Directives} {previous : Option Node}
variable {node left right : Node} {nodes rest : List Node}

/-! ## Two neighbours -/

/-- Between two nodes that are no texts there is nothing to trim. -/
theorem honoured_of_isLive (hleft : left.isLive = true) (hright : right.isLive = true) :
    Honoured left right := by
  simp [Honoured, Node.startsBlank, Node.endsBlank, Node.chars?_of_isLive hleft,
    Node.chars?_of_isLive hright]

/-- Nothing is to be trimmed of an empty text, and it asks for nothing. -/
theorem honoured_emptyText_left (right : Node) : Honoured Node.emptyText right :=
  ⟨nofun, fun _ => rfl⟩

/-- The same on the other side. -/
theorem honoured_emptyText_right (left : Node) : Honoured left Node.emptyText :=
  ⟨fun _ => rfl, nofun⟩

/-- Normal forms ask for what the nodes ask for, and are the same texts. -/
theorem honoured_normal_iff :
    Honoured (left.normal config) (right.normal config) ↔ Honoured left right := by
  simp only [Honoured, Node.startsBlank, Node.endsBlank, facing_normal, chars?_normal]

/-! ## The children of an element -/

/-- Gaps ask for nothing, and stand between nodes that are no texts. -/
theorem honours_append_spacedFrom_iff (previous : Option Node) (nodes : List Node) :
    Honours (previous.toList ++ spacedFrom previous nodes) ↔
      Honours (previous.toList ++ nodes) := by
  induction nodes generalizing previous with
  | nil => rfl
  | cons node rest ih =>
    have hrest : Honours (node :: spacedFrom (some node) rest) ↔ Honours (node :: rest) :=
      ih (some node)
    cases previous with
    | none => exact hrest
    | some last =>
      by_cases hlive : (last.isLive && node.isLive) = true
      · -- neither of the two is a text, so nothing was to be trimmed where the gap comes in
        have hgap : gap (some last) node = [Node.emptyText] := by simp [gap, hlive]
        have hhonoured : Honoured last node := by
          rw [Bool.and_eq_true] at hlive
          exact honoured_of_isLive hlive.1 hlive.2
        rw [spacedFrom, hgap]
        simp only [Honours, Option.toList_some, List.cons_append, List.nil_append,
          List.isChain_cons_cons, honoured_emptyText_left, honoured_emptyText_right, hhonoured,
          true_and] at hrest ⊢
        exact hrest
      · have hgap : gap (some last) node = [] := by simp [gap, hlive]
        rw [spacedFrom, hgap]
        simp only [Honours, Option.toList_some, List.cons_append, List.nil_append,
          List.isChain_cons_cons] at hrest ⊢
        exact and_congr_right' hrest

/-- **Normalizing a list and spacing it anew trims nothing**: its directives are honoured
if they were before. -/
theorem honours_respaced :
    Honours (respaced nodes (nodes.map (Node.normal config))) ↔ Honours nodes := by
  have hmap : Honours (nodes.map (Node.normal config)) ↔ Honours nodes := by
    simp only [Honours, List.isChain_map, honoured_normal_iff]
  unfold respaced
  split
  · exact (honours_append_spacedFrom_iff none _).trans hmap
  · exact hmap

/-! ## The bodies of programs -/

/-- The first entry of a stable list is trimmed on both sides. -/
theorem blank_of_stable (hstripping : config.stripping = true)
    (h : Stable config edges previous (node :: rest)) :
    (trimsStart edges previous = true → node.startsBlank = false) ∧
      (trimsEnd edges rest.head? = true → node.endsBlank = false) := by
  cases node with
  | text chars loc =>
    have hkept : keptChars config edges previous rest.head? chars = chars := h.1 chars loc rfl
    rw [keptChars, if_pos hstripping] at hkept
    exact trimBetween_eq_self_iff.mp hkept
  | _ => exact ⟨fun _ => rfl, fun _ => rfl⟩

/-- **With stripping, a stable list honours its directives.** -/
theorem honours_of_stable (hstripping : config.stripping = true)
    (h : Stable config edges previous nodes) : Honours nodes := by
  induction nodes generalizing previous with
  | nil => exact .nil
  | cons node rest ih =>
    have hrest : Stable config edges (some node) rest := h.2.2
    cases rest with
    | nil => exact .singleton node
    | cons next rest =>
      -- each of the two that meet was trimmed in its own step of the scan
      have hnext : trimsStart edges (some node) = true → next.startsBlank = false :=
        (blank_of_stable hstripping hrest).1
      have hnode : trimsEnd edges (some next) = true → node.endsBlank = false :=
        (blank_of_stable hstripping h).2
      exact .cons_cons ⟨hnext, hnode⟩ (ih hrest)

/-- **So does the body of a finished program.** -/
theorem honours_finished (hstripping : config.stripping = true) (p : Program) :
    Honours (p.finished config).body :=
  honours_of_stable hstripping (isStable_finished config p).2

/-- The programs that the normal form of a node holds honour their directives, unless the
node is a component already. -/
theorem honours_programs_normal (hstripping : config.stripping = true)
    (hnode : ∀ c, node ≠ .component c) :
    ∀ r ∈ (node.normal config).programs, Honours r.body := by
  intro r hr
  cases node with
  | element e =>
    by_cases htag : isCustomTag e.tag = true
    · rw [normal_element_of_custom htag] at hr
      rw [List.mem_singleton.mp hr]
      exact honours_finished hstripping _
    · rw [normal_element_of_plain (by simpa using htag)] at hr
      cases hr
  | block b =>
    obtain ⟨p, rfl⟩ := exists_finished_of_mem_programs hr
    exact honours_finished hstripping p
  | component c => exact absurd rfl (hnode c)
  | _ => cases hr

/-- **The lists that the normal form of a node holds honour their directives**, unless
they are the children of a plain element that did not. -/
theorem honours_lists_normal_iff (hstripping : config.stripping = true)
    (hnode : ∀ c, node ≠ .component c) :
    (∀ inner ∈ (node.normal config).lists, Honours inner) ↔
      ∀ e, node = .element e → isCustomTag e.tag = false → Honours e.children := by
  have hprograms : ∀ inner ∈ (node.normal config).programs.map Program.body, Honours inner :=
    List.forall_mem_map.mpr (honours_programs_normal hstripping hnode)
  cases node with
  | element e =>
    by_cases htag : isCustomTag e.tag = true
    · rw [normal_element_of_custom htag] at hprograms ⊢
      refine iff_of_true hprograms ?_
      rintro _ ⟨rfl⟩ hplain
      rw [htag] at hplain
      cases hplain
    · have hplain : isCustomTag e.tag = false := by simpa using htag
      rw [normal_element_of_plain hplain]
      simp [honours_respaced, hplain]
  | block b =>
    rw [normal_block] at hprograms ⊢
    exact iff_of_true hprograms nofun
  | component c => exact absurd rfl (hnode c)
  | _ => exact iff_of_true hprograms nofun

/-! ## A compiled template -/

/-- **Where a compiled template honours its directives.** With stripping enabled, and
without components in the template, the body of every program that is reached honours
its directives; and all lists that are reached do, the children of elements included, if
and only if the children of every plain element of the template did before. -/
theorem honours_compile (config : Config) (p q : Program) (hstripping : config.stripping = true)
    (hcomponents : ∀ list, Reaches p.body list → ∀ c, .component c ∉ list)
    (h : outcome (p.compile config) = .ok q) :
    (∀ r, q.Reaches r → Honours r.body) ∧
      ((∀ list, Reaches q.body list → Honours list) ↔
        ∀ list, Reaches p.body list → ∀ e, .element e ∈ list →
          isCustomTag e.tag = false → Honours e.children) := by
  obtain ⟨-, rfl⟩ := outcome_compile_eq_ok_iff.mp h
  have hroot : Honours (p.normal config).body := by
    rw [normal_program]
    exact honours_finished hstripping _
  have hnode : ∀ list, Reaches p.body list → ∀ node ∈ list, ∀ c, node ≠ .component c := by
    rintro list hlist node hnode c rfl
    exact hcomponents list hlist c hnode
  constructor
  · refine forall_program_reaches_iff.mpr
      ⟨hroot, (everywhere_normal_iff (fun _ _ => nofun) p).mpr fun list hlist node hmem => ?_⟩
    exact honours_programs_normal hstripping (hnode list hlist node hmem)
  · -- a reached list is the root's body, or is held by an entry of a reached list
    refine everywhere_iff_held.trans ((and_iff_right hroot).trans ?_)
    refine (everywhere_normal_iff (fun _ _ => nofun) p).trans (forall₂_congr fun list hlist => ?_)
    refine (forall₂_congr fun node hmem =>
      honours_lists_normal_iff hstripping (hnode list hlist node hmem)).trans ?_
    constructor
    · intro hplain e he
      exact hplain _ he e rfl
    · rintro hplain _ he e rfl
      exact hplain e he

/-- A mustache that trims the text behind it. -/
def price : Node :=
  .mustache
    { expression := { path := .ofText "price", params := [], hash := [] }
      escaped := true
      strip := .right
      loc := none }

/-- Prices in the body of a template and among the children of a custom element, and a
paragraph without one. -/
def priceList : Program :=
  let dish := Node.element
    { tag := "x-dish", attributes := [], children := [price, .ofText " a dish"], loc := none }
  let closing := Node.element
    { tag := "p", attributes := [], children := [.ofText " Thank you "], loc := none }
  .build [price, .ofText " in all", dish, closing] none

theorem honours_compile_priceList : ∃ q,
    outcome (priceList.compile (Config.default.withStripping true)) = .ok q ∧
    (∀ r, q.Reaches r → Honours r.body) ∧
      ((∀ list, Reaches q.body list → Honours list) ↔
        ∀ list, Reaches priceList.body list → ∀ e, .element e ∈ list →
          isCustomTag e.tag = false → Honours e.children) := by
  have hcomponents : Everywhere (fun list => ∀ node ∈ list, node.kind ≠ .component)
      priceList.body := by decide
  exact ⟨_, rfl, honours_compile (Config.default.withStripping true) priceList _ rfl
    (fun list hlist c hc => hcomponents list hlist _ hc rfl) rfl⟩

/-- A price among the children of a paragraph. -/
def pricedParagraph : Program :=
  .build
    [.element
      { tag := "p", attributes := [], children := [price, .ofText " a dish"], loc := none }]
    none

/-- **Stripping does not reach the children of an element**: in the paragraph, the text
behind the price begins with a blank after the compilation as well. -/
theorem not_forall_honours_compile :
    ¬ ∀ (config : Config) (p q : Program), config.stripping = true →
      (∀ list, Reaches p.body list → ∀ c, .component c ∉ list) →
      outcome (p.compile config) = .ok q → ∀ list, Reaches q.body list → Honours list := by
  intro h
  have hcomponents : Everywhere (fun list => ∀ node ∈ list, node.kind ≠ .component)
      pricedParagraph.body := by decide
  have hhonours : Everywhere Honours pricedParagraph.body :=
    h (Config.default.withStripping true) pricedParagraph pricedParagraph rfl
      (fun list hlist c hc => hcomponents list hlist _ hc rfl) rfl
  revert hhonours
  decide

end MarkupTemplate
