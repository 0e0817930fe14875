import MarkupTemplate.Json.Data
/-!
# Plain values — JSON without loose ends

`Json.induction` runs along items and members. The functions on values are mutual with
their forms for lists; here these are read as conditions on all items and all members,
so that a proof about values has one case for arrays, one for objects and one for the
rest. A plain value is readable, and merging the members of one key leaves it as it is.
-/

namespace MarkupTemplate.Json

mutual

/-- **Induction on a JSON value**: a property holds of every value if it passes to an
array from its items and to an object from the values of its members, and the other
values have it. -/
theorem induction {motive : Json → Prop}
    (array : ∀ items, (∀ item ∈ items, motive item) → motive (.array items))
    (object : ∀ members, (∀ member ∈ members, motive member.2) → motive (.object members))
    (leaf : ∀ json : Json, (∀ items, json ≠ .array items) → (∀ members, json ≠ .object members) →
      motive json) : ∀ json : Json, motive json
  | .array items => array items (forall_mem_items array object leaf items)
  | .object members => object members (forall_mem_members array object leaf members)
  | .null => leaf .null nofun nofun
  | .bool value => leaf (.bool value) nofun nofun
  | .int value => leaf (.int value) nofun nofun
  | .float value => leaf (.float value) nofun nofun
  | .string value => leaf (.string value) nofun nofun
  | .unreadable => leaf .unreadable nofun nofun

/-- The same for the items of an array. -/
theorem forall_mem_items {motive : Json → Prop}
    (array : ∀ items, (∀ item ∈ items, motive item) → motive (.array items))
    (object : ∀ members, (∀ member ∈ members, motive member.2) → motive (.object members))
    (leaf : ∀ json : Json, (∀ items, json ≠ .array items) → (∀ members, json ≠ .object members) →
      motive json) : ∀ items : List Json, ∀ item ∈ items, motive item
  | [], _, h => nomatch h
  | first :: rest, item, h => by
    rcases List.mem_cons.mp h with h | h
    · rw [h]
      exact induction array object leaf first
    · exact forall_mem_items array object leaf rest item h

/-- The same for the members of an object. -/
theorem forall_mem_members {motive : Json → Prop}
    (array : ∀ items, (∀ item ∈ items, motive item) → motive (.array items))
    (object : ∀ members, (∀ member ∈ members, motive member.2) → motive (.object members))
    (leaf : ∀ json : Json, (∀ items, json ≠ .array items) → (∀ members, json ≠ .object members) →
      motive json) : ∀ members : List (String × Json), ∀ member ∈ members, motive member.2
  | [], _, h => nomatch h
  | (key, value) :: rest, member, h => by
    rcases List.mem_cons.mp h with h | h
    · rw [h]
      exact induction array object leaf value
    · exact forall_mem_members array object leaf rest member h

end

attribute [elab_as_elim, induction_eliminator] induction

variable {items : List Json} {members : List (String × Json)} {json : Json}

/-! ## Conditions on all parts -/

theorem allPlain_iff : allPlain items = true ↔ ∀ item ∈ items, item.isPlain = true := by
  induction items with
  | nil => simp [allPlain]
  | cons item items ih => simp [allPlain, ih]

theorem allMembersPlain_iff :
    allMembersPlain members = true ↔ ∀ member ∈ members, member.2.isPlain = true := by
  induction members with
  | nil => simp [allMembersPlain]
  | cons member members ih => simp [allMembersPlain, ih]

theorem allReadable_iff : allReadable items = true ↔ ∀ item ∈ items, item.isReadable = true := by
  induction items with
  | nil => simp [allReadable]
  | cons item items ih => simp [allReadable, ih]

theorem allMembersReadable_iff :
    allMembersReadable members = true ↔ ∀ member ∈ members, member.2.isReadable = true := by
  induction members with
  | nil => simp [allMembersReadable]
  | cons member members ih => simp [allMembersReadable, ih]

theorem mergedItems_eq_map : mergedItems items = items.map merged := by
  induction items with
  | nil => rfl
  | cons item items ih => rw [mergedItems, ih, List.map_cons]

theorem mergedMembers_eq_map :
    mergedMembers members = members.map fun member => (member.1, member.2.merged) := by
  induction members with
  | nil => rfl
  | cons member members ih => rw [mergedMembers, ih, List.map_cons]

/-- An array is plain if its items are. -/
theorem isPlain_array_iff :
    (array items).isPlain = true ↔ ∀ item ∈ items, item.isPlain = true := by
  rw [isPlain, allPlain_iff]

/-- An object is plain if no key stands twice and the values of its members are plain. -/
theorem isPlain_object_iff : (object members).isPlain = true ↔
    (members.map Prod.fst).Nodup ∧ ∀ member ∈ members, member.2.isPlain = true := by
  rw [isPlain, Bool.and_eq_true, decide_eq_true_iff, allMembersPlain_iff]

/-- An array is readable if its items are. -/
theorem isReadable_array_iff :
    (array items).isReadable = true ↔ ∀ item ∈ items, item.isReadable = true := by
  rw [isReadable, allReadable_iff]

/-- An object is readable if the values of its members are. -/
theorem isReadable_object_iff :
    (object members).isReadable = true ↔ ∀ member ∈ members, member.2.isReadable = true := by
  rw [isReadable, allMembersReadable_iff]

/-! ## What plain values need not -/

/-- **A plain value is readable.** -/
theorem isReadable_of_isPlain (h : json.isPlain = true) : json.isReadable = true := by
  induction json with
  | array items ih =>
    rw [isPlain_array_iff] at h
    exact isReadable_array_iff.mpr fun item hitem => ih item hitem (h item hitem)
  | object members ih =>
    rw [isPlain_object_iff] at h
    exact isReadable_object_iff.mpr fun member hmember => ih member hmember (h.2 member hmember)
  | leaf json harray hobject =>
    cases json with
    | array items => exact absurd rfl (harray items)
    | object members => exact absurd rfl (hobject members)
    | unreadable => cases h
    | _ => rfl

/-- **Merging leaves a plain value as it is**: no key of it stands twice. -/
theorem merged_of_isPlain (h : json.isPlain = true) : json.merged = json := by
  induction json with
  | array items ih =>
    rw [isPlain_array_iff] at h
    have hitems : items.map merged = items := by
      rw [List.map_congr_left fun item hitem => ih item hitem (h item hitem)]
      exact List.map_id' items
    rw [merged, mergedItems_eq_map, hitems]
  | object members ih =>
    rw [isPlain_object_iff] at h
    have hmembers : members.map (fun member => (member.1, member.2.merged)) = members := by
      rw [List.map_congr_left fun member hmember =>
        congrArg (member.1, ·) (ih member hmember (h.2 member hmember))]
      exact List.map_id' members
    rw [merged, mergedMembers_eq_map, hmembers, OrderedMap.entries_ofList h.1]
  | leaf json harray hobject =>
    cases json with
    | array items => exact absurd rfl (harray items)
    | object members => exact absurd rfl (hobject members)
    | _ => rfl

end MarkupTemplate.Json
