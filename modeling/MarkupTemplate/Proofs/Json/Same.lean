import Mathlib.Data.List.Forall2
import MarkupTemplate.Proofs.Json.Plain
import MarkupTemplate.Proofs.Map.Matching
/-!
# Sameness of values — an equivalence

Two JSON values are the same when they differ at most in the order of members and in
the sign of a zero. `same_array_iff` and `same_object_iff` say so of arrays item by item
and of objects key by key; from them sameness of data values is an equivalence, by
induction on the first value.
-/

namespace MarkupTemplate

namespace Double

/-- Doubles that denote one number do so the other way round. -/
theorem sameValue_symm {x y : Double} (h : x.sameValue y = true) : y.sameValue x = true := by
  simp only [sameValue, Bool.or_eq_true, decide_eq_true_eq, Bool.and_eq_true] at h ⊢
  exact h.imp Eq.symm And.symm

/-- Doubles that denote the number of one in between denote one number. -/
theorem sameValue_trans {x y z : Double} (h : x.sameValue y = true) (h' : y.sameValue z = true) :
    x.sameValue z = true := by
  simp only [sameValue, Bool.or_eq_true, decide_eq_true_eq, Bool.and_eq_true] at h h' ⊢
  rcases h with rfl | ⟨hx, hy⟩
  · exact h'
  · rcases h' with rfl | ⟨-, hz⟩
    · exact .inr ⟨hx, hy⟩
    · exact .inr ⟨hx, hz⟩

end Double

namespace Json

variable {items others : List Json} {members entries : List (String × Json)} {a b c : Json}

/-- Items are the same one by one. -/
theorem sameItems_iff :
    sameItems items others = true ↔ List.Forall₂ (fun x y => same x y = true) items others := by
  induction items generalizing others with
  | nil => cases others <;> simp [sameItems]
  | cons item items ih => cases others <;> simp [sameItems, ih]

theorem matchedIn_iff : matchedIn entries members = true ↔
    ∀ member ∈ members, (entries.lookup member.1).any member.2.same = true := by
  induction members with
  | nil => simp [matchedIn]
  | cons member members ih => simp [matchedIn, ih]

/-- **Arrays are the same item by item.** -/
theorem same_array_iff : (array items).same b = true ↔
    ∃ others, b = array others ∧ List.Forall₂ (fun x y => same x y = true) items others := by
  cases b <;> simp [same, sameItems_iff]

/-- **Plain objects are the same key by key.** -/
theorem same_object_iff (ha : (object members).isPlain = true) (hb : b.isPlain = true) :
    (object members).same b = true ↔
      ∃ entries, b = object entries ∧ ∀ key, MatchAt same members entries key := by
  cases b with
  | object entries =>
    have hmatched : _ ↔ ∀ key, MatchAt same members entries key :=
      matched_iff (isPlain_object_iff.mp ha).1 (isPlain_object_iff.mp hb).1
    simp [same, matchedIn_iff, ← hmatched]
  | _ => simp [same]

/-! ## An equivalence -/

/-- **A plain value is the same as itself.** -/
theorem same_refl (ha : a.isPlain = true) : a.same a = true := by
  induction a with
  | array items ih =>
    rw [isPlain_array_iff] at ha
    refine same_array_iff.mpr ⟨items, rfl, List.forall₂_same.mpr ?_⟩
    intro item hitem
    exact ih item hitem (ha item hitem)
  | object members ih =>
    obtain ⟨hkeys, hvalues⟩ := isPlain_object_iff.mp ha
    refine (same_object_iff ha ha).mpr ⟨members, rfl, ?_⟩
    refine matchAt_refl hkeys ?_
    intro member hmember
    exact ih member hmember (hvalues member hmember)
  | leaf a harray hobject =>
    cases a with
    | array items => exact absurd rfl (harray items)
    | object members => exact absurd rfl (hobject members)
    | unreadable => cases ha
    | _ => simp [same, Double.sameValue]

/-- **Sameness of plain values is symmetric.** -/
theorem same_symm (ha : a.isPlain = true) (hb : b.isPlain = true) (h : a.same b = true) :
    b.same a = true := by
  induction a generalizing b with
  | array items ih =>
    obtain ⟨others, rfl, hitems⟩ := same_array_iff.mp h
    rw [isPlain_array_iff] at ha hb
    refine same_array_iff.mpr ⟨items, rfl, ?_⟩
    rw [List.forall₂_iff_get] at hitems ⊢
    obtain ⟨hlength, hsame⟩ := hitems
    refine ⟨hlength.symm, fun i hi hi' => ?_⟩
    exact ih _ (List.get_mem items _) (ha _ (List.get_mem items _)) (hb _ (List.get_mem others _))
      (hsame i hi' hi)
  | object members ih =>
    obtain ⟨entries, rfl, hmatch⟩ := (same_object_iff ha hb).mp h
    obtain ⟨hkeys, hvalues⟩ := isPlain_object_iff.mp ha
    obtain ⟨hkeys', hvalues'⟩ := isPlain_object_iff.mp hb
    refine (same_object_iff hb ha).mpr ⟨members, rfl, fun key => ?_⟩
    refine matchAt_symm hkeys hkeys' ?_ (hmatch key)
    intro member hmember entry hentry hsame
    exact ih member hmember (hvalues member hmember) (hvalues' entry hentry) hsame
  | leaf a harray hobject =>
    cases a with
    | array items => exact absurd rfl (harray items)
    | object members => exact absurd rfl (hobject members)
    | float x =>
      cases b with
      | float y => exact Double.sameValue_symm h
      | _ => cases h
    | _ => cases b <;> simp_all [same]

/-- **Sameness of plain values is transitive.** -/
theorem same_trans (ha : a.isPlain = true) (hb : b.isPlain = true) (hc : c.isPlain = true)
    (h : a.same b = true) (h' : b.same c = true) : a.same c = true := by
  induction a generalizing b c with
  | array items ih =>
    obtain ⟨others, rfl, hitems⟩ := same_array_iff.mp h
    obtain ⟨more, rfl, hitems'⟩ := same_array_iff.mp h'
    rw [isPlain_array_iff] at ha hb hc
    refine same_array_iff.mpr ⟨more, rfl, ?_⟩
    rw [List.forall₂_iff_get] at hitems hitems' ⊢
    obtain ⟨hlength, hsame⟩ := hitems
    obtain ⟨hlength', hsame'⟩ := hitems'
    refine ⟨hlength.trans hlength', fun i hi hi' => ?_⟩
    have hbetween : i < others.length := hlength ▸ hi
    exact ih _ (List.get_mem items _) (ha _ (List.get_mem items _)) (hb _ (List.get_mem others _))
      (hc _ (List.get_mem more _)) (hsame i hi hbetween) (hsame' i hbetween hi')
  | object members ih =>
    obtain ⟨between, rfl, hmatch⟩ := (same_object_iff ha hb).mp h
    obtain ⟨entries, rfl, hmatch'⟩ := (same_object_iff hb hc).mp h'
    obtain ⟨hkeys, hvalues⟩ := isPlain_object_iff.mp ha
    obtain ⟨hkeys', hvalues'⟩ := isPlain_object_iff.mp hb
    obtain ⟨hkeys'', hvalues''⟩ := isPlain_object_iff.mp hc
    refine (same_object_iff ha hc).mpr ⟨entries, rfl, fun key => ?_⟩
    refine matchAt_trans hkeys hkeys' hkeys'' ?_ (hmatch key) (hmatch' key)
    intro member hmember other hother entry hentry hsame hsame'
    exact ih member hmember (hvalues member hmember) (hvalues' other hother)
      (hvalues'' entry hentry) hsame hsame'
  | leaf a harray hobject =>
    cases a with
    | array items => exact absurd rfl (harray items)
    | object members => exact absurd rfl (hobject members)
    | float x =>
      cases b with
      | float y =>
        cases c with
        | float z => exact Double.sameValue_trans h h'
        | _ => cases h'
      | _ => cases h
    | _ => cases b <;> cases c <;> simp_all [same]

/-! ## What sameness means -/

/-- Two values are alike if they are of one class and equal, part by part: arrays item by
item, and objects under each of their keys, which may stand in any order. -/
inductive Alike : Json → Json → Prop where
  | null : Alike .null .null
  | bool (value : Bool) : Alike (.bool value) (.bool value)
  | int (value : Int) : Alike (.int value) (.int value)
  | float {x y : Double} (h : x = y ∨ x.isZero = true ∧ y.isZero = true) :
      Alike (.float x) (.float y)
  | string (value : String) : Alike (.string value) (.string value)
  | array {items others : List Json} (hlength : items.length = others.length)
      (hitems : ∀ i (hi : i < items.length) (hi' : i < others.length), Alike items[i] others[i]) :
      Alike (.array items) (.array others)
  | object {members entries : List (String × Json)}
      (hkeys : (members.map Prod.fst).Perm (entries.map Prod.fst))
      (hvalues : ∀ key value other, (key, value) ∈ members → (key, other) ∈ entries →
        Alike value other) :
      Alike (.object members) (.object entries)

/-- **Plain values are the same if they are alike.** -/
theorem same_iff_alike (ha : a.isPlain = true) (hb : b.isPlain = true) :
    a.same b = true ↔ Alike a b := by
  induction a generalizing b with
  | array items ih =>
    rw [isPlain_array_iff] at ha
    constructor
    · intro h
      obtain ⟨others, rfl, hitems⟩ := same_array_iff.mp h
      rw [isPlain_array_iff] at hb
      rw [List.forall₂_iff_get] at hitems
      obtain ⟨hlength, hsame⟩ := hitems
      refine .array hlength fun i hi hi' => ?_
      have hitem : items[i] ∈ items := List.getElem_mem hi
      exact (ih _ hitem (ha _ hitem) (hb _ (List.getElem_mem hi'))).mp (hsame i hi hi')
    · rintro (_ | _ | _ | _ | _ | @⟨_, others, hlength, hitems⟩ | _)
      rw [isPlain_array_iff] at hb
      refine same_array_iff.mpr ⟨others, rfl, List.forall₂_iff_get.mpr ⟨hlength, ?_⟩⟩
      intro i hi hi'
      have hitem : items[i] ∈ items := List.getElem_mem hi
      exact (ih _ hitem (ha _ hitem) (hb _ (List.getElem_mem hi'))).mpr (hitems i hi hi')
  | object members ih =>
    obtain ⟨hkeys, hvalues⟩ := isPlain_object_iff.mp ha
    rw [same_object_iff ha hb]
    constructor
    · rintro ⟨entries, rfl, hmatch⟩
      obtain ⟨hkeys', hvalues'⟩ := isPlain_object_iff.mp hb
      obtain ⟨hperm, hsame⟩ := (forall_matchAt_iff hkeys hkeys').mp hmatch
      refine .object hperm fun key value other hvalue hother => ?_
      exact (ih _ hvalue (hvalues _ hvalue) (hvalues' _ hother)).mp
        (hsame key value other hvalue hother)
    · rintro (_ | _ | _ | _ | _ | _ | @⟨_, entries, hperm, halike⟩)
      obtain ⟨hkeys', hvalues'⟩ := isPlain_object_iff.mp hb
      refine ⟨entries, rfl, (forall_matchAt_iff hkeys hkeys').mpr ⟨hperm, ?_⟩⟩
      intro key value other hvalue hother
      exact (ih _ hvalue (hvalues _ hvalue) (hvalues' _ hother)).mpr
        (halike key value other hvalue hother)
  | leaf a harray hobject =>
    constructor
    · intro h
      cases a with
      | array items => exact absurd rfl (harray items)
      | object members => exact absurd rfl (hobject members)
      | unreadable => cases ha
      | null =>
        obtain rfl : b = .null := by cases b <;> simp_all [same]
        exact .null
      | bool value =>
        obtain rfl : b = .bool value := by cases b <;> simp_all [same]
        exact .bool value
      | int value =>
        obtain rfl : b = .int value := by cases b <;> simp_all [same]
        exact .int value
      | string value =>
        obtain rfl : b = .string value := by cases b <;> simp_all [same]
        exact .string value
      | float x =>
        cases b with
        | float y => exact .float (by simpa [same, Double.sameValue] using h)
        | _ => cases h
    · intro h
      cases h with
      | null | bool | int | string => simp [same]
      | float h => simpa [same, Double.sameValue] using h
      | array => exact absurd rfl (harray _)
      | object => exact absurd rfl (hobject _)

end Json

/-- **Sameness of data values is an equivalence.** -/
theorem Data.same_equivalence : Equivalence fun a b : Data => a.same b = true where
  refl a := Json.same_refl a.plain
  symm {a b} h := Json.same_symm a.plain b.plain h
  trans {a b c} h h' := Json.same_trans a.plain b.plain c.plain h h'

end MarkupTemplate
