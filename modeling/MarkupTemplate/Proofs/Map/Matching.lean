import Mathlib.Data.List.Perm.Subperm
import MarkupTemplate.OrderedMap
/-!
# Matching maps — the same up to the order of entries

Where no key stands twice, looking up a key finds its one entry. Two such lists of
entries match when they are of one length and each entry of the first has a matching
value in the second; `matched_iff` says that this is the same as finding matching
values, or none, under every key. So the matching of maps is reflexive, symmetric and
transitive if the matching of their values is.
-/

namespace MarkupTemplate

variable {α β : Type} [DecidableEq α] {key : α} {value : β}

section

variable {entries : List (α × β)}

/-- **Looking up finds the entry under the key.** -/
theorem lookup_eq_some_iff_mem (h : (entries.map Prod.fst).Nodup) :
    entries.lookup key = some value ↔ (key, value) ∈ entries := by
  induction entries with
  | nil => simp
  | cons entry rest ih =>
    obtain ⟨k, v⟩ := entry
    obtain ⟨hnew, hrest⟩ := List.nodup_cons.mp h
    by_cases hkey : key = k
    · subst hkey
      have hnone : (key, value) ∉ rest := by
        intro hmem
        have hkeys : key ∈ rest.map Prod.fst := List.mem_map_of_mem hmem
        exact hnew hkeys
      simp [hnone, eq_comm]
    · rw [List.lookup_cons, beq_false_of_ne hkey, ih hrest]
      simp [hkey]

/-- Nothing is found under a key that is not there. -/
theorem lookup_eq_none_iff_not_mem : entries.lookup key = none ↔ key ∉ entries.map Prod.fst := by
  rw [List.lookup_eq_none_iff]
  simp only [bne_iff_ne, List.mem_map, not_exists, not_and]
  constructor
  · intro h entry hentry hkey
    exact h entry hentry hkey.symm
  · intro h entry hentry hkey
    exact h entry hentry hkey.symm

end

/-! ## Key by key -/

variable {same : β → β → Bool} {l m n : List (α × β)}

/-- The values found under a key match, or neither list has one. -/
def MatchAt (same : β → β → Bool) (m n : List (α × β)) (key : α) : Prop :=
  Option.Rel (fun v w => same v w = true) (m.lookup key) (n.lookup key)

/-- Where there is a value, there is a matching one. -/
theorem matchAt_iff_of_some (h : m.lookup key = some value) :
    MatchAt same m n key ↔ (n.lookup key).any (same value) = true := by
  rw [MatchAt, h]
  cases n.lookup key <;> simp

/-- Where there is no value, there is none. -/
theorem matchAt_iff_of_none (h : m.lookup key = none) :
    MatchAt same m n key ↔ n.lookup key = none := by
  rw [MatchAt, h]
  cases n.lookup key <;> simp

/-- Lists that match under a key both have it, or neither does. -/
theorem mem_keys_iff_of_matchAt (h : MatchAt same m n key) :
    key ∈ m.map Prod.fst ↔ key ∈ n.map Prod.fst := by
  rw [← not_iff_not, ← lookup_eq_none_iff_not_mem, ← lookup_eq_none_iff_not_mem]
  cases hlookup : m.lookup key with
  | some value =>
    rw [matchAt_iff_of_some hlookup] at h
    cases hfound : n.lookup key with
    | some _ => simp
    | none =>
      rw [hfound] at h
      cases h
  | none => simp [(matchAt_iff_of_none hlookup).mp h]

/-- **Two lists of entries match just when they do so under every key.** -/
theorem matched_iff (hm : (m.map Prod.fst).Nodup) (hn : (n.map Prod.fst).Nodup) :
    (m.length = n.length ∧ ∀ entry ∈ m, (n.lookup entry.1).any (same entry.2) = true) ↔
      ∀ key, MatchAt same m n key := by
  constructor
  · rintro ⟨hlength, hmatch⟩ key
    cases hlookup : m.lookup key with
    | some value =>
      have hentry : (key, value) ∈ m := (lookup_eq_some_iff_mem hm).mp hlookup
      exact (matchAt_iff_of_some hlookup).mpr (hmatch (key, value) hentry)
    | none =>
      -- of two lists of keys of one length, neither has one that the other lacks
      have hsubset : m.map Prod.fst ⊆ n.map Prod.fst := by
        intro k hk
        obtain ⟨entry, hentry, rfl⟩ := List.mem_map.mp hk
        by_contra hnot
        have hfound := hmatch entry hentry
        rw [lookup_eq_none_iff_not_mem.mpr hnot] at hfound
        cases hfound
      have hperm : (m.map Prod.fst).Perm (n.map Prod.fst) := by
        refine (List.subperm_of_subset hm hsubset).perm_of_length_le ?_
        simp [hlength]
      rw [matchAt_iff_of_none hlookup, lookup_eq_none_iff_not_mem, ← hperm.mem_iff]
      exact lookup_eq_none_iff_not_mem.mp hlookup
  · intro h
    constructor
    · have hperm : (m.map Prod.fst).Perm (n.map Prod.fst) :=
        (List.perm_ext_iff_of_nodup hm hn).mpr fun key => mem_keys_iff_of_matchAt (h key)
      simpa using hperm.length_eq
    · rintro ⟨key, value⟩ hentry
      have hlookup : m.lookup key = some value := (lookup_eq_some_iff_mem hm).mpr hentry
      exact (matchAt_iff_of_some hlookup).mp (h key)

/-- **Two lists of entries match if they have the same keys**, in whatever order, and under
each key matching values. -/
theorem forall_matchAt_iff (hm : (m.map Prod.fst).Nodup) (hn : (n.map Prod.fst).Nodup) :
    (∀ key, MatchAt same m n key) ↔ (m.map Prod.fst).Perm (n.map Prod.fst) ∧
      ∀ key value other, (key, value) ∈ m → (key, other) ∈ n → same value other = true := by
  constructor
  · intro h
    refine ⟨(List.perm_ext_iff_of_nodup hm hn).mpr fun key => mem_keys_iff_of_matchAt (h key), ?_⟩
    intro key value other hvalue hother
    have hmatch := (matchAt_iff_of_some ((lookup_eq_some_iff_mem hm).mpr hvalue)).mp (h key)
    rw [(lookup_eq_some_iff_mem hn).mpr hother] at hmatch
    exact hmatch
  · rintro ⟨hkeys, hvalues⟩ key
    cases hlookup : m.lookup key with
    | none =>
      rw [matchAt_iff_of_none hlookup, lookup_eq_none_iff_not_mem, ← hkeys.mem_iff]
      exact lookup_eq_none_iff_not_mem.mp hlookup
    | some value =>
      have hvalue : (key, value) ∈ m := (lookup_eq_some_iff_mem hm).mp hlookup
      have hkey : key ∈ n.map Prod.fst := hkeys.mem_iff.mp (List.mem_map_of_mem hvalue)
      obtain ⟨⟨key, other⟩, hother, rfl⟩ := List.mem_map.mp hkey
      rw [matchAt_iff_of_some hlookup, (lookup_eq_some_iff_mem hn).mpr hother]
      exact hvalues key value other hvalue hother

/-! ## From values to entries -/

/-- Entries match themselves if their values do. -/
theorem matchAt_refl (hm : (m.map Prod.fst).Nodup)
    (hvalues : ∀ entry ∈ m, same entry.2 entry.2 = true) (key : α) : MatchAt same m m key := by
  cases hlookup : m.lookup key with
  | some value =>
    have hentry : (key, value) ∈ m := (lookup_eq_some_iff_mem hm).mp hlookup
    rw [matchAt_iff_of_some hlookup, hlookup]
    exact hvalues (key, value) hentry
  | none => exact (matchAt_iff_of_none hlookup).mpr hlookup

/-- Entries match the other way round if their values do. -/
theorem matchAt_symm (hm : (m.map Prod.fst).Nodup) (hn : (n.map Prod.fst).Nodup)
    (hvalues : ∀ entry ∈ m, ∀ other ∈ n, same entry.2 other.2 = true →
      same other.2 entry.2 = true)
    (h : MatchAt same m n key) : MatchAt same n m key := by
  cases hlookup : m.lookup key with
  | some value =>
    have hentry : (key, value) ∈ m := (lookup_eq_some_iff_mem hm).mp hlookup
    rw [matchAt_iff_of_some hlookup, Option.any_eq_true] at h
    obtain ⟨w, hw, hsame⟩ := h
    have hother : (key, w) ∈ n := (lookup_eq_some_iff_mem hn).mp hw
    rw [matchAt_iff_of_some hw, hlookup]
    exact hvalues (key, value) hentry (key, w) hother hsame
  | none => exact (matchAt_iff_of_none ((matchAt_iff_of_none hlookup).mp h)).mpr hlookup

/-- Entries that match in two steps match at once if their values do. -/
theorem matchAt_trans (hl : (l.map Prod.fst).Nodup) (hm : (m.map Prod.fst).Nodup)
    (hn : (n.map Prod.fst).Nodup)
    (hvalues : ∀ entry ∈ l, ∀ between ∈ m, ∀ other ∈ n, same entry.2 between.2 = true →
      same between.2 other.2 = true → same entry.2 other.2 = true)
    (h : MatchAt same l m key) (h' : MatchAt same m n key) : MatchAt same l n key := by
  cases hlookup : l.lookup key with
  | some value =>
    have hentry : (key, value) ∈ l := (lookup_eq_some_iff_mem hl).mp hlookup
    rw [matchAt_iff_of_some hlookup, Option.any_eq_true] at h
    obtain ⟨v, hv, hsame⟩ := h
    rw [matchAt_iff_of_some hv, Option.any_eq_true] at h'
    obtain ⟨w, hw, hsame'⟩ := h'
    have hbetween : (key, v) ∈ m := (lookup_eq_some_iff_mem hm).mp hv
    have hother : (key, w) ∈ n := (lookup_eq_some_iff_mem hn).mp hw
    rw [matchAt_iff_of_some hlookup, hw]
    exact hvalues (key, value) hentry (key, v) hbetween (key, w) hother hsame hsame'
  | none =>
    have hnone : m.lookup key = none := (matchAt_iff_of_none hlookup).mp h
    exact (matchAt_iff_of_none hlookup).mpr ((matchAt_iff_of_none hnone).mp h')

/-! ## Maps -/

/-- **Two maps are the same up to order just when they match under every key.** -/
theorem OrderedMap.sameUpToOrder_iff {m n : OrderedMap α β} :
    m.sameUpToOrder same n = true ↔ ∀ key, MatchAt same m.entries n.entries key := by
  rw [← matched_iff m.nodup n.nodup, OrderedMap.sameUpToOrder, Bool.and_eq_true, beq_iff_eq,
    List.all_eq_true]
  rfl

end MarkupTemplate
