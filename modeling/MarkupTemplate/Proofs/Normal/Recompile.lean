import Mathlib.Logic.Function.Iterate
import MarkupTemplate.Proofs.Normal.Compiled
import MarkupTemplate.Proofs.Tree.Weight
/-!
# Recompiling — compiling what has been compiled, again and again

A further compilation of a compiled template has no fault, and changes nothing exactly
where there is no idle text. Each round that changes something leaves fewer entries
(`normal_eq_self_or_weight_lt`), so only finitely many do (`exists_iterate_normal_eq`).
`compile_compile` puts this together.
-/

namespace MarkupTemplate

variable {config : Config} {edges : Directives} {previous next : Option Node}
variable {node kept : Node} {nodes : List Node} {p : Program}

/-! ## Fewer entries in every round -/

/-- What is kept of an entry weighs what the entry does. -/
theorem weight_keptNode (h : keptNode config edges previous next node = some kept) :
    kept.weight = node.weight := by
  rcases keptNode_eq_some h with rfl | ⟨chars, trimmed, loc, rfl, rfl⟩
  · rfl
  · rfl

/-- Each entry that the scan drops makes the list lighter. -/
theorem weightOf_scanned_add_length_le (previous : Option Node) (nodes : List Node) :
    weightOf (scanned config edges previous nodes) + nodes.length ≤
      weightOf nodes + (scanned config edges previous nodes).length := by
  induction nodes generalizing previous with
  | nil => exact le_rfl
  | cons node rest ih =>
    rw [scanned]
    split
    · have hrest := ih previous
      rw [weightOf_cons, List.length_cons]
      omega
    · rename_i kept hkept
      have hrest := ih (some kept)
      rw [weightOf_cons, weightOf_cons, List.length_cons, List.length_cons,
        weight_keptNode hkept]
      omega

/-- **The scan makes no list heavier.** -/
theorem weightOf_scanned_le (previous : Option Node) (nodes : List Node) :
    weightOf (scanned config edges previous nodes) ≤ weightOf nodes := by
  have hlength : (scanned config edges previous nodes).length ≤ nodes.length :=
    length_scanned_le previous nodes
  have hweight : weightOf (scanned config edges previous nodes) + nodes.length ≤
      weightOf nodes + (scanned config edges previous nodes).length :=
    weightOf_scanned_add_length_le previous nodes
  omega

/-- **It makes a list lighter that has an idle text.** -/
theorem weightOf_scanned_lt (hidle : ¬ IdleFree nodes) :
    weightOf (scanned config edges previous nodes) < weightOf nodes := by
  have hlength : (scanned config edges previous nodes).length < nodes.length :=
    lt_of_le_of_ne (length_scanned_le previous nodes)
      fun hkept => hidle (idleFree_of_length_scanned hkept)
  have hweight : weightOf (scanned config edges previous nodes) + nodes.length ≤
      weightOf nodes + (scanned config edges previous nodes).length :=
    weightOf_scanned_add_length_le previous nodes
  omega

/-- **A program stays as it is in a further round, or becomes lighter**, if that is so of
its entries. -/
theorem normal_program_eq_self_or_weight_lt (h : p.IsCompiled config)
    (hentries : ∀ node ∈ p.body,
      node.normal config = node ∨ (node.normal config).weight < node.weight) :
    p.normal config = p ∨ weightOf (p.normal config).body < weightOf p.body := by
  have hbody : (p.normal config).body =
      scanned config p.strip none (p.body.map (Node.normal config)) := by
    rw [normal_program_of_isCompiled h]
    exact (scanned_map (normal_text config) rfl (outside_normal_of_compiled h.2)).symm
  rcases map_eq_self_or_weightOf_lt hentries with hsame | hlighter
  · -- the entries are the same, and the body is too unless an idle text is dropped
    by_cases hidle : IdleFree p.body
    · exact .inl ((normal_program_eq_self_iff h).mpr ⟨hidle, map_normal_eq_self_iff.mp hsame⟩)
    · rw [hbody, hsame]
      exact .inr (weightOf_scanned_lt hidle)
  · rw [hbody]
    exact .inr ((weightOf_scanned_le none _).trans_lt hlighter)

/-- **A compiled entry stays as it is in a further round, or becomes lighter.** -/
theorem normal_eq_self_or_weight_lt (h : node.Throughout (Node.IsCompiled config)) :
    node.normal config = node ∨ (node.normal config).weight < node.weight := by
  induction node with
  | element e ih =>
    obtain ⟨-, hchildren⟩ := throughout_element.mp h
    rcases map_eq_self_or_weightOf_lt fun node hnode => ih node hnode (hchildren node hnode)
      with hsame | hlighter
    · exact .inl ((normal_element_eq_self_iff h).mpr hsame)
    · right
      rw [normal_element_of_compiled h, weight_element, weight_element]
      exact hlighter
  | block b ih ih' =>
    obtain ⟨hprogram, hinverse⟩ := isCompiled_of_mem_branches h
    have hfirst := normal_program_eq_self_or_weight_lt hprogram
      fun node hnode => ih node hnode (hprogram.2 node hnode)
    -- the block is the same if both programs are, and lighter if either one is
    rw [normal_block_eq_self_iff, normal_block, weight_block, weight_block]
    cases hsome : b.inverse with
    | none => simpa using hfirst
    | some p =>
      have hp : p.IsCompiled config := hinverse p hsome
      have hsecond := normal_program_eq_self_or_weight_lt hp
        fun node hnode => ih' p hsome node hnode (hp.2 node hnode)
      simp only [Option.map_some, Option.some.injEq, Option.elim_some]
      rcases hfirst with hsame | hlighter
      · rcases hsecond with hsame' | hlighter'
        · exact .inl ⟨hsame, hsame'⟩
        · exact .inr (by rw [hsame]; omega)
      · rcases hsecond with hsame' | hlighter'
        · exact .inr (by rw [hsame']; omega)
        · exact .inr (by omega)
  | component c ih =>
    obtain ⟨-, hbody⟩ := throughout_component.mp h
    rcases map_eq_self_or_weightOf_lt fun node hnode => ih node hnode (hbody node hnode)
      with hsame | hlighter
    · exact .inl ((normal_component_eq_self_iff h).mpr hsame)
    · right
      rw [normal_component_of_compiled h, weight_component, weight_component]
      exact hlighter
  | leaf node hleaf => exact .inl (normal_of_lists_eq_nil hleaf)

/-- **The rounds come to an end**: after some of them nothing changes any more. -/
theorem exists_iterate_normal_eq (h : p.IsCompiled config) :
    ∃ n, ∀ m, n ≤ m → (Program.normal config)^[m] p = (Program.normal config)^[n] p := by
  induction hweight : weightOf p.body using Nat.strong_induction_on generalizing p with
  | _ weight ih =>
    rcases normal_program_eq_self_or_weight_lt h
      fun node hnode => normal_eq_self_or_weight_lt (h.2 node hnode) with hsame | hlighter
    · exact ⟨0, fun m _ => Function.iterate_fixed hsame m⟩
    · -- what the round leaves is compiled as well, so its rounds come to an end
      obtain ⟨n, hn⟩ := ih _ (hweight ▸ hlighter) (isCompiled_normal config p) rfl
      refine ⟨n + 1, fun m hm => ?_⟩
      obtain ⟨m, rfl⟩ : ∃ k, m = k + 1 := Nat.exists_eq_add_one_of_ne_zero (by omega)
      exact hn m (by omega)

/-! ## Compiling again and again -/

/-- Compile a template, and what comes of it, a number of times. -/
def Program.compileTimes (config : Config) : Nat → Program → Compiling Program
  | 0, p => pure p
  | n + 1, p => do
    let q ← p.compile config
    q.compileTimes config n

/-- Compiling what is compiled has no fault. -/
theorem outcome_compile_of_isCompiled (h : p.IsCompiled config) :
    outcome (p.compile config) = .ok (p.normal config) := by
  rw [outcome_compile, fault?_of_isCompiled h, settle_none]

/-- However often it is done. -/
theorem outcome_compileTimes_of_isCompiled (n : Nat) (h : p.IsCompiled config) :
    outcome (p.compileTimes config n) = .ok ((Program.normal config)^[n] p) := by
  induction n generalizing p with
  | zero => rfl
  | succ n ih =>
    rw [Program.compileTimes, outcome_bind, outcome_compile_of_isCompiled h]
    exact ih (isCompiled_normal config p)

/-- **What becomes of a compiled template when it is compiled again.** There is no
fault; nothing changes exactly where neither the body of the template nor the body of a
block's program that is reached has an idle text; and the template that is compiled
again and again compiles every time, and is the same from some time on. -/
theorem compile_compile (config : Config) (p q : Program)
    (h : outcome (p.compile config) = .ok q) :
    (∃ r, outcome (q.compile config) = .ok r) ∧
    (outcome (q.compile config) = .ok q ↔ IdleFree q.body ∧
      ∀ list, Reaches q.body list → ∀ b, .block b ∈ list →
        IdleFree b.program.body ∧ ∀ r, b.inverse = some r → IdleFree r.body) ∧
    (∀ n, ∃ r, outcome (p.compileTimes config n) = .ok r) ∧
    ∃ n r, ∀ m, n ≤ m → outcome (p.compileTimes config m) = .ok r := by
  obtain ⟨-, rfl⟩ := outcome_compile_eq_ok_iff.mp h
  have hcompiled : (p.normal config).IsCompiled config := isCompiled_normal config p
  have hrounds : ∀ n, outcome (p.compileTimes config (n + 1)) =
      .ok ((Program.normal config)^[n] (p.normal config)) := by
    intro n
    rw [Program.compileTimes, outcome_bind, h]
    exact outcome_compileTimes_of_isCompiled n hcompiled
  refine ⟨⟨_, outcome_compile_of_isCompiled hcompiled⟩, ?_, ?_, ?_⟩
  · rw [outcome_compile_of_isCompiled hcompiled, Except.ok.injEq]
    exact normal_eq_self_iff_forall_reaches hcompiled
  · intro n
    cases n with
    | zero => exact ⟨p, rfl⟩
    | succ n => exact ⟨_, hrounds n⟩
  · obtain ⟨n, hn⟩ := exists_iterate_normal_eq hcompiled
    refine ⟨n + 1, (Program.normal config)^[n] (p.normal config), fun m hm => ?_⟩
    obtain ⟨m, rfl⟩ : ∃ k, m = k + 1 := Nat.exists_eq_add_one_of_ne_zero (by omega)
    rw [hrounds, hn m (by omega)]

/-- An element behind two empty texts: one of them is dropped in the first round, and the
other one in the next. -/
def looseParagraph : Program :=
  .build [Node.emptyText, Node.emptyText, .element (.build "p" [])] none

/-- The conclusions at a template that is not the same after one round. -/
theorem compile_compile_looseParagraph : ∃ q,
    outcome (looseParagraph.compile .default) = .ok q ∧
    (∃ r, outcome (q.compile .default) = .ok r) ∧
    (outcome (q.compile .default) = .ok q ↔ IdleFree q.body ∧
      ∀ list, Reaches q.body list → ∀ b, .block b ∈ list →
        IdleFree b.program.body ∧ ∀ r, b.inverse = some r → IdleFree r.body) ∧
    (∀ n, ∃ r, outcome (looseParagraph.compileTimes .default n) = .ok r) ∧
    ∃ n r, ∀ m, n ≤ m → outcome (looseParagraph.compileTimes .default m) = .ok r :=
  ⟨_, rfl, compile_compile .default looseParagraph _ rfl⟩

example : ∃ q, outcome (looseParagraph.compile .default) = .ok q ∧ ¬ IdleFree q.body :=
  ⟨_, rfl, by decide⟩

end MarkupTemplate
