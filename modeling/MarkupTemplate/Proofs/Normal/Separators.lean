import Mathlib.Data.List.Infix
import MarkupTemplate.Proofs.Normal.Growth
/-!
# Separators — what adding children one by one leaves

A child is added behind a list that already has separators in it, and the last entry of
that list decides. `separated` asks the entries as they are given instead: each node
stands behind an empty text where it and the entry before it, among the children that
were there and the nodes, are both live. `result_forM_addChild` says that this is what
a run of added children leaves, and `separated_exactly` adds what a parent that can have
no children does, and what becomes of a list that is spaced anew.
-/

namespace MarkupTemplate

/-- The nodes behind the siblings, each with the gap to the entry before it: `before`
runs through what is in front of each node among the nodes. -/
def separated (siblings nodes : List Node) : List Node :=
  (List.zipWith (fun before node => gap (siblings ++ before).getLast? node ++ [node])
    nodes.inits nodes).flatten

variable {siblings nodes : List Node} {parent : Node}

/-- **Gaps are where live nodes were given side by side**: the entry before a node is the
same with the separators as without them. -/
theorem spacedFrom_eq_separated (siblings nodes : List Node) :
    spacedFrom siblings.getLast? nodes = separated siblings nodes := by
  induction nodes generalizing siblings with
  | nil => rfl
  | cons node nodes ih =>
    have hrest := ih (siblings ++ [node])
    rw [List.getLast?_concat] at hrest
    rw [spacedFrom, hrest, separated, separated, List.inits_cons, List.zipWith_cons_cons,
      List.zipWith_map_left, List.flatten_cons]
    simp

/-! ## Children that are added -/

/-- A parent with the children it has is the parent. -/
theorem withChildren_self (h : parent.children = .ok siblings) :
    parent.withChildren siblings = parent := by
  cases parent with
  | program p =>
    cases p
    cases h
    rfl
  | element e =>
    cases e
    cases h
    rfl
  | _ => cases h

/-- The children given last are the ones it has. -/
theorem withChildren_withChildren (parent : Node) (siblings nodes : List Node) :
    (parent.withChildren siblings).withChildren nodes = parent.withChildren nodes := by
  cases parent <;> rfl

/-- **Children added one by one** come behind those that were there, with their gaps. -/
theorem result_forM_addChild (h : parent.children = .ok siblings) :
    (nodes.forM Parenting.addChild).result parent =
      (.ok (), parent.withChildren (siblings ++ spacedFrom siblings.getLast? nodes)) := by
  induction nodes generalizing parent siblings with
  | nil =>
    rw [spacedFrom, List.append_nil, withChildren_self h]
    rfl
  | cons node nodes ih =>
    let grown := siblings ++ gap siblings.getLast? node ++ [node]
    have hadded : (Parenting.addChild node).result parent = (.ok (), parent.withChildren grown) := by
      simp only [Parenting.result_addChild, h, value_addSibling, grown]
    have hrest := ih (Node.children_withChildren h grown)
    rw [withChildren_withChildren, List.getLast?_concat] at hrest
    change (Parenting.addChild node >>= fun _ => nodes.forM Parenting.addChild).result parent = _
    rw [Parenting.result_bind, hadded]
    refine hrest.trans ?_
    simp [spacedFrom, grown]

/-- A node that is neither a program nor an element can have no children. -/
theorem children_eq_error (hprogram : parent.kind ≠ .program) (helement : parent.kind ≠ .element) :
    parent.children = .error (.childless parent.kind) := by
  cases parent with
  | program p => exact absurd rfl hprogram
  | element e => exact absurd rfl helement
  | _ => rfl

/-! ## Lists that are spaced anew -/

/-- **Spacing leaves alone exactly the lists without live neighbours.** -/
theorem value_spaced_eq_self_iff : (spaced nodes).value = nodes ↔ Apart nodes := by
  rw [value_spaced]
  constructor
  · intro h
    rw [← h]
    exact apart_spacedFrom
  · intro h
    exact spacedFrom_eq_self none h

/-- **Separators are put exactly where they are needed.** The children added to a program
or an element one by one follow those that were there, each live one behind an empty text
if the entry before it is live, and nothing else is put in, lost or changed. Any other
parent refuses every child and stays as it is. Spacing a list builds it in the same way
from nothing; done again it changes nothing, and it changes nothing at all exactly where
no two neighbours are live. -/
theorem separated_exactly :
    (∀ (p : Program) (nodes : List Node),
      (nodes.forM Parenting.addChild).result (.program p) =
        (.ok (), .program { p with body := p.body ++ separated p.body nodes })) ∧
    (∀ (e : Element) (nodes : List Node),
      (nodes.forM Parenting.addChild).result (.element e) =
        (.ok (), .element { e with children := e.children ++ separated e.children nodes })) ∧
    (∀ parent : Node, parent.kind ≠ .program → parent.kind ≠ .element →
      ∀ (child : Node) (config : Config) (below : List Node),
        (Parenting.addChild child).result parent = (.error (.childless parent.kind), parent) ∧
          (OpenNodes.step config ⟨parent, below⟩ (.add child)).value =
            (.error (.internal (.childless parent.kind)), ⟨parent, below⟩)) ∧
    ∀ nodes : List Node, (spaced nodes).value = separated [] nodes ∧
      (spaced (spaced nodes).value).value = (spaced nodes).value ∧
      ((spaced nodes).value = nodes ↔ Apart nodes) := by
  refine ⟨fun p nodes => ?_, fun e nodes => ?_, fun parent hprogram helement => ?_, fun nodes => ?_⟩
  · rw [← spacedFrom_eq_separated]
    exact result_forM_addChild rfl
  · rw [← spacedFrom_eq_separated]
    exact result_forM_addChild rfl
  · intro child config below
    have hchildren := children_eq_error hprogram helement
    have hfault : ((Parenting.addChild child).result parent).1 =
        .error (.childless parent.kind) := by
      rw [Parenting.result_addChild, hchildren]
    refine ⟨Prod.ext hfault (Parenting.addChild_refused hfault), ?_⟩
    rw [OpenNodes.step, OpenNodes.value_add, hchildren]
  · have hspaced : Apart (spaced nodes).value := by
      rw [value_spaced]
      exact apart_spacedFrom
    refine ⟨?_, value_spaced_eq_self_iff.mpr hspaced, value_spaced_eq_self_iff⟩
    rw [value_spaced, ← spacedFrom_eq_separated]
    rfl

theorem separated_exactly_comment :
    (Parenting.addChild (.ofText "x")).result (.ofComment "note") =
        (.error (.childless .comment), .ofComment "note") ∧
      (OpenNodes.step .default ⟨.ofComment "note", []⟩ (.add (.ofText "x"))).value =
        (.error (.internal (.childless .comment)), ⟨.ofComment "note", []⟩) :=
  separated_exactly.2.2.1 (.ofComment "note") nofun nofun (.ofText "x") .default []

/-- Of three values, the last behind a text, only the first two need a separator. -/
example : (separated [.buildMustache (.ofText "a") [] [] true]
      [.buildMustache (.ofText "b") [] [] true, .ofText "and",
        .buildMustache (.ofText "c") [] [] true]).map Node.kind =
    [.text, .mustache, .text, .mustache] := by
  decide

end MarkupTemplate
