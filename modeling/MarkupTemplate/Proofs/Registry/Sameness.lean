import MarkupTemplate.Proofs.Json.Same
import MarkupTemplate.Registry.Definition
/-!
# Sameness of definitions — an equivalence

Two definitions are the same when they agree in name, template and the ordered lists of
computed properties, methods and hooks, have the same routes and have matching default
values, whatever the order of routes and defaults. `same_iff` says this part by part.
-/

namespace MarkupTemplate

/-- Values that match by equality are equal. -/
theorem matchAt_beq_iff {α β : Type} [DecidableEq α] [DecidableEq β] {m n : List (α × β)}
    {key : α} : MatchAt (· == ·) m n key ↔ m.lookup key = n.lookup key := by
  cases hlookup : m.lookup key with
  | some value =>
    rw [matchAt_iff_of_some hlookup, Option.any_eq_true]
    constructor
    · rintro ⟨other, hother, hsame⟩
      rw [hother, beq_iff_eq.mp hsame]
    · intro h
      exact ⟨value, h.symm, beq_self_eq_true value⟩
  | none => rw [matchAt_iff_of_none hlookup, eq_comm]

namespace Definition

variable {d e : Definition}

/-- **Definitions are the same part by part.** -/
theorem same_iff : d.same e = true ↔
    d.name = e.name ∧ (∀ key, MatchAt Data.same d.defaults.entries e.defaults.entries key) ∧
      d.computed = e.computed ∧ d.methods = e.methods ∧ d.hooks = e.hooks ∧
      (∀ pattern, d.routes.get? pattern = e.routes.get? pattern) ∧ d.template = e.template := by
  simp only [same, Bool.and_eq_true, beq_iff_eq, OrderedMap.sameUpToOrder_iff, matchAt_beq_iff,
    OrderedMap.get?, and_assoc]

/-- **Sameness of definitions is an equivalence.** -/
theorem same_equivalence : Equivalence fun d e : Definition => d.same e = true where
  refl d := by
    refine same_iff.mpr ⟨rfl, ?_, rfl, rfl, rfl, fun _ => rfl, rfl⟩
    exact matchAt_refl d.defaults.nodup fun entry _ => Data.same_equivalence.refl entry.2
  symm {d e} h := by
    obtain ⟨hname, hdefaults, hcomputed, hmethods, hhooks, hroutes, htemplate⟩ := same_iff.mp h
    refine same_iff.mpr ⟨hname.symm, fun key => ?_, hcomputed.symm, hmethods.symm, hhooks.symm,
      fun pattern => (hroutes pattern).symm, htemplate.symm⟩
    exact matchAt_symm d.defaults.nodup e.defaults.nodup
      (fun _ _ _ _ hsame => Data.same_equivalence.symm hsame) (hdefaults key)
  trans {d e f} h h' := by
    obtain ⟨hname, hdefaults, hcomputed, hmethods, hhooks, hroutes, htemplate⟩ := same_iff.mp h
    obtain ⟨hname', hdefaults', hcomputed', hmethods', hhooks', hroutes', htemplate'⟩ :=
      same_iff.mp h'
    refine same_iff.mpr ⟨hname.trans hname', fun key => ?_, hcomputed.trans hcomputed',
      hmethods.trans hmethods', hhooks.trans hhooks',
      fun pattern => (hroutes pattern).trans (hroutes' pattern), htemplate.trans htemplate'⟩
    exact matchAt_trans d.defaults.nodup e.defaults.nodup f.defaults.nodup
      (fun _ _ _ _ _ _ hsame hsame' => Data.same_equivalence.trans hsame hsame')
      (hdefaults key) (hdefaults' key)

end Definition

end MarkupTemplate
