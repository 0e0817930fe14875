import Mathlib.Data.List.Chain
import MarkupTemplate.Proofs.Tree.Reached
import MarkupTemplate.Tree.Siblings
/-!
# Spacing — live siblings held apart

`Apart` says that no two neighbours of a list are both live. `spacedFrom` is what
adding nodes one by one leaves behind the last sibling, read as a recursion on the
nodes instead of on the list they are added to: `value_foldlM_addSibling` is the
equation between the two. What it leaves is apart, it adds nothing but empty texts,
and a list that is apart already is left as it is.

`ApartWith A` adds a property of the entries, and `Node.Within A` is the same seen
from an entry: both hold of a tree or fail of it together.
-/

namespace MarkupTemplate

/-- No two neighbours are both live. -/
def Apart (nodes : List Node) : Prop :=
  nodes.IsChain fun left right => (left.isLive && right.isLive) = false

instance (nodes : List Node) : Decidable (Apart nodes) := by
  unfold Apart
  infer_instance

/-- What is put between a node and the sibling before it. -/
def gap (previous : Option Node) (node : Node) : List Node :=
  if previous.any Node.isLive && node.isLive then [Node.emptyText] else []

/-- The nodes as they are added behind `previous`, with their gaps. -/
def spacedFrom (previous : Option Node) : List Node → List Node
  | [] => []
  | node :: nodes => gap previous node ++ node :: spacedFrom (some node) nodes

variable {siblings nodes : List Node} {node : Node} {previous : Option Node}

/-! ## One sibling, and many -/

/-- A sibling is added behind its gap. -/
theorem value_addSibling :
    (addSibling siblings node).value = siblings ++ gap siblings.getLast? node ++ [node] := by
  unfold addSibling gap
  cases h : siblings.getLast? with
  | none =>
    rw [List.getLast?_eq_none_iff] at h
    simp [h]
  | some last =>
    by_cases hlive : (last.isLive && node.isLive) = true
    · simp [hlive]
    · simp [hlive]

/-- **What adding siblings leaves**: the ones that were there, and the new ones with
their gaps. -/
theorem value_foldlM_addSibling : (nodes.foldlM addSibling siblings).value =
    siblings ++ spacedFrom siblings.getLast? nodes := by
  induction nodes generalizing siblings with
  | nil => simp [spacedFrom]
  | cons node nodes ih =>
    rw [List.foldlM_cons, Traced.value_bind, ih, value_addSibling]
    simp [spacedFrom]

/-- A list that is spaced is built behind no sibling. -/
theorem value_spaced : (spaced nodes).value = spacedFrom none nodes := by
  rw [spaced, value_foldlM_addSibling]
  simp

/-! ## What stands apart -/

/-- A node before a list that is apart: one of the two that meet is not live. -/
theorem apart_cons_iff : Apart (node :: nodes) ↔
    (node.isLive && nodes.head?.any Node.isLive) = false ∧ Apart nodes := by
  cases nodes with
  | nil => simp [Apart]
  | cons next rest => simp [Apart]

/-- Behind a sibling, the nodes with their gaps stand apart. -/
theorem apart_append_spacedFrom (previous : Option Node) (nodes : List Node) :
    Apart (previous.toList ++ spacedFrom previous nodes) := by
  induction nodes generalizing previous with
  | nil => cases previous <;> simp [spacedFrom, Apart]
  | cons node nodes ih =>
    have hrest : Apart (node :: spacedFrom (some node) nodes) := ih (some node)
    cases previous with
    | none => simpa [spacedFrom, gap] using hrest
    | some last =>
      by_cases hlive : (last.isLive && node.isLive) = true
      · -- the gap between two live nodes is not live itself
        have hgap : gap (some last) node = [Node.emptyText] := by simp [gap, hlive]
        have hempty : Node.emptyText.isLive = false := rfl
        rw [spacedFrom, hgap]
        exact apart_cons_iff.mpr ⟨by simp [hempty], apart_cons_iff.mpr ⟨by simp [hempty], hrest⟩⟩
      · have hgap : gap (some last) node = [] := by simp [gap, hlive]
        rw [spacedFrom, hgap]
        exact apart_cons_iff.mpr ⟨by simpa using hlive, hrest⟩

/-- **A spaced list is apart.** -/
theorem apart_spacedFrom : Apart (spacedFrom none nodes) :=
  apart_append_spacedFrom none nodes

/-- **A list that is apart needs no gaps.** -/
theorem spacedFrom_eq_self (previous : Option Node) (h : Apart (previous.toList ++ nodes)) :
    spacedFrom previous nodes = nodes := by
  induction nodes generalizing previous with
  | nil => rfl
  | cons node nodes ih =>
    have hgap : gap previous node = [] := by
      cases previous with
      | none => rfl
      | some last =>
        have hstatic : (last.isLive && node.isLive) = false := (apart_cons_iff.mp h).1
        simp [gap, hstatic]
    have hrest : Apart (node :: nodes) := by
      cases previous with
      | none => exact h
      | some last => exact (apart_cons_iff.mp h).2
    rw [spacedFrom, hgap, ih (some node) hrest, List.nil_append]

/-! ## What is added -/

/-- **Nothing is added but empty texts**: what these have, all nodes with their gaps have
if the nodes have it. -/
theorem forall_mem_spacedFrom_iff {P : Node → Prop} (hempty : P Node.emptyText) :
    (∀ node ∈ spacedFrom previous nodes, P node) ↔ ∀ node ∈ nodes, P node := by
  induction nodes generalizing previous with
  | nil => rfl
  | cons node nodes ih =>
    have hgap : ∀ between ∈ gap previous node, P between := by
      intro between hbetween
      unfold gap at hbetween
      split at hbetween
      · rw [List.mem_singleton.mp hbetween]
        exact hempty
      · cases hbetween
    rw [spacedFrom, List.forall_mem_append, List.forall_mem_cons, List.forall_mem_cons, ih,
      and_iff_right hgap]

/-- Gaps are where they are by the live nodes alone, so that a change of the nodes
which keeps these can be made before or after. -/
theorem spacedFrom_map {f : Node → Node} {previous' : Option Node}
    (hempty : f Node.emptyText = Node.emptyText)
    (hprevious : previous'.any Node.isLive = previous.any Node.isLive)
    (hlive : ∀ node ∈ nodes, (f node).isLive = node.isLive) :
    spacedFrom previous' (nodes.map f) = (spacedFrom previous nodes).map f := by
  induction nodes generalizing previous previous' with
  | nil => rfl
  | cons node nodes ih =>
    have hnode : (f node).isLive = node.isLive := hlive node List.mem_cons_self
    have hgap : gap previous' (f node) = (gap previous node).map f := by
      unfold gap
      rw [hprevious, hnode]
      split
      · rw [List.map_singleton, hempty]
      · rfl
    have hrest : spacedFrom (some (f node)) (nodes.map f) =
        (spacedFrom (some node) nodes).map f :=
      ih hnode fun other h => hlive other (List.mem_cons_of_mem node h)
    simp [spacedFrom, hgap, hrest]

/-! ## Lists that are apart everywhere -/

/-- The entries of a list stand apart and have a property. -/
def ApartWith (A : Node → Prop) (list : List Node) : Prop :=
  Apart list ∧ ∀ node ∈ list, A node

/-- A node has a property, and the entries of every list that is reached in it stand
apart and have it too. -/
def Node.Within (A : Node → Prop) (node : Node) : Prop :=
  A node ∧ ∀ inner ∈ node.lists, Everywhere (ApartWith A) inner

/-- **A list, seen from its entries.** -/
theorem everywhere_apartWith_iff {A : Node → Prop} : Everywhere (ApartWith A) nodes ↔
    Apart nodes ∧ ∀ node ∈ nodes, node.Within A := by
  rw [everywhere_iff]
  constructor
  · rintro ⟨⟨hapart, hentries⟩, hinner⟩
    exact ⟨hapart, fun node h => ⟨hentries node h, hinner node h⟩⟩
  · rintro ⟨hapart, hwithin⟩
    exact ⟨⟨hapart, fun node h => (hwithin node h).1⟩, fun node h => (hwithin node h).2⟩

end MarkupTemplate
