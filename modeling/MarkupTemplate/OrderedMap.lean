/-!
# Ordered maps — one value for each key, in the order of first insertion

An `OrderedMap` is its list of entries, no key twice. Inserting a present key
replaces its value where it stands; a new key goes to the end. Two maps are the
same up to order when each key of one has a matching value in the other.
-/

namespace MarkupTemplate

variable {α β : Type}

/-- Put a value under a key: in place where the key is present, at the end where
it is new. -/
def insertEntry [DecidableEq α] (key : α) (value : β) : List (α × β) → List (α × β)
  | [] => [(key, value)]
  | (k, v) :: rest =>
    if k = key then (key, value) :: rest else (k, v) :: insertEntry key value rest

/-- Insertion adds the key if it was absent, and changes no other key. -/
theorem keys_insertEntry [DecidableEq α] (key : α) (value : β) (entries : List (α × β)) :
    (insertEntry key value entries).map Prod.fst =
      if key ∈ entries.map Prod.fst then entries.map Prod.fst
      else entries.map Prod.fst ++ [key] := by
  induction entries with
  | nil => simp [insertEntry]
  | cons entry rest ih =>
    obtain ⟨k, v⟩ := entry
    by_cases hk : k = key
    · simp [insertEntry, hk]
    · rw [insertEntry, if_neg hk, List.map_cons, ih]
      by_cases hmem : key ∈ rest.map Prod.fst
      · rw [if_pos hmem, if_pos (by simp at hmem ⊢; exact .inr hmem), List.map_cons]
      · rw [if_neg hmem, if_neg (by simp at hmem ⊢; exact ⟨Ne.symm hk, hmem⟩)]
        simp

theorem nodup_keys_insertEntry [DecidableEq α] (key : α) (value : β) {entries : List (α × β)}
    (h : (entries.map Prod.fst).Nodup) :
    ((insertEntry key value entries).map Prod.fst).Nodup := by
  rw [keys_insertEntry]
  split
  · exact h
  · rename_i hkey
    rw [List.nodup_append]
    exact ⟨h, by simp, fun a ha b hb => by
      obtain rfl := List.mem_singleton.mp hb
      exact fun hab => hkey (hab ▸ ha)⟩

/-- Under the key stands the value that was put there, and the other keys keep theirs. -/
theorem lookup_insertEntry [DecidableEq α] (key : α) (value : β) (entries : List (α × β)) (k : α) :
    (insertEntry key value entries).lookup k =
      if k = key then some value else entries.lookup k := by
  induction entries with
  | nil =>
    by_cases h : k = key
    · simp [insertEntry, h]
    · simp [insertEntry, List.lookup_cons, h, beq_false_of_ne h]
  | cons entry rest ih =>
    obtain ⟨k', v'⟩ := entry
    by_cases hk' : k' = key
    · subst hk'
      by_cases h : k = k'
      · simp [insertEntry, h]
      · simp [insertEntry, List.lookup_cons, h, beq_false_of_ne h]
    · rw [insertEntry, if_neg hk', List.lookup_cons, List.lookup_cons, ih]
      by_cases h : k = k'
      · subst h
        simp [hk']
      · simp [beq_false_of_ne h]

/-- A new key goes to the end. -/
theorem insertEntry_of_not_mem [DecidableEq α] {key : α} (value : β) {entries : List (α × β)}
    (h : key ∉ entries.map Prod.fst) :
    insertEntry key value entries = entries ++ [(key, value)] := by
  induction entries with
  | nil => rfl
  | cons entry rest ih =>
    obtain ⟨k, v⟩ := entry
    simp only [List.map_cons, List.mem_cons, not_or] at h
    rw [insertEntry, if_neg (Ne.symm h.1), ih h.2, List.cons_append]

/-- A map that remembers the order in which its keys were first inserted. -/
structure OrderedMap (α β : Type) where
  entries : List (α × β)
  nodup : (entries.map Prod.fst).Nodup

namespace OrderedMap

/-- The map without entries. -/
def empty : OrderedMap α β :=
  ⟨[], by simp⟩

/-- The keys, in order of first insertion. -/
def keys (m : OrderedMap α β) : List α :=
  m.entries.map Prod.fst

/-- The number of keys. -/
def size (m : OrderedMap α β) : Nat :=
  m.entries.length

/-- The map has no key. -/
def isEmpty (m : OrderedMap α β) : Bool :=
  m.entries.isEmpty

@[ext]
theorem ext {m n : OrderedMap α β} (h : m.entries = n.entries) : m = n := by
  cases m; cases n; simp_all

variable [DecidableEq α]

/-- The value under a key. -/
def get? (m : OrderedMap α β) (key : α) : Option β :=
  m.entries.lookup key

/-- Put a value under a key. -/
def insert (m : OrderedMap α β) (key : α) (value : β) : OrderedMap α β :=
  ⟨insertEntry key value m.entries, nodup_keys_insertEntry key value m.nodup⟩

/-- The map of a list of entries; of entries with one key the last value counts, at
the place of the first. -/
def ofList (entries : List (α × β)) : OrderedMap α β :=
  entries.foldl (fun m entry => m.insert entry.1 entry.2) empty

/-- Insertion keeps the order of the keys, and puts a new one at the end. -/
theorem keys_insert (m : OrderedMap α β) (key : α) (value : β) :
    (m.insert key value).keys = if key ∈ m.keys then m.keys else m.keys ++ [key] :=
  keys_insertEntry key value m.entries

/-- After insertion the key has the value, and the others have what they had. -/
theorem get?_insert (m : OrderedMap α β) (key : α) (value : β) (k : α) :
    (m.insert key value).get? k = if k = key then some value else m.get? k :=
  lookup_insertEntry key value m.entries k

/-- Entries without a repeated key are the entries of their map. -/
theorem entries_ofList {entries : List (α × β)} (h : (entries.map Prod.fst).Nodup) :
    (ofList entries).entries = entries := by
  suffices ∀ (m : OrderedMap α β), (∀ k ∈ entries.map Prod.fst, k ∉ m.keys) →
      (entries.foldl (fun m entry => m.insert entry.1 entry.2) m).entries = m.entries ++ entries by
    simpa [ofList, empty] using this empty (by simp [empty, keys])
  induction entries with
  | nil => simp
  | cons entry rest ih =>
    intro m hm
    rw [List.map_cons, List.nodup_cons] at h
    have hnew : entry.1 ∉ m.keys := hm entry.1 (by simp)
    have hins : (m.insert entry.1 entry.2).entries = m.entries ++ [entry] :=
      insertEntry_of_not_mem entry.2 hnew
    rw [List.foldl_cons, ih h.2, hins, List.append_assoc, List.singleton_append]
    intro k hk
    rw [keys_insert, if_neg hnew, List.mem_append, not_or]
    exact ⟨hm k (List.mem_cons_of_mem _ hk), fun hmem =>
      h.1 (List.mem_singleton.mp hmem ▸ hk)⟩

/-- The maps have the same keys, with matching values, in whatever order. -/
def sameUpToOrder (same : β → β → Bool) (m n : OrderedMap α β) : Bool :=
  m.size == n.size && m.entries.all fun entry => (n.get? entry.1).any (same entry.2)

end OrderedMap

end MarkupTemplate
