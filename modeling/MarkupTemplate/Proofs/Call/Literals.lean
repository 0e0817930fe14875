import Mathlib.Data.Set.List
import MarkupTemplate.Call.Literals
import MarkupTemplate.Proofs.Json.Quoted
/-!
# Script literals, read as JSON — nothing breaks out of a literal

Where the items of an array and the values of an object are quoted literals, the text that
is put together from them is JSON, and reads as the items and the entries that it was made
of, in their order and with repeated keys. Its tokens follow from those of its parts
(`spells_joined`), and the reader goes through them one item or one entry at a time. So
the text tells what it was made of, as a literal on its own does (`literals_read_back`).
-/

namespace MarkupTemplate.Call

open Json Text

variable {α : Type} {stack : List OpenContainer} {value : Json} {rest : List Token}

/-! ## The tokens of a script literal -/

/-- The tokens of parts with a comma between any two of them. -/
def joinedTokens (tokens : α → List Token) : List α → List Token
  | [] => []
  | a :: as => tokens a ++ as.flatMap fun next => .comma :: tokens next

/-- The token of a quoted text. -/
def itemTokens (text : String) : List Token :=
  [.string (some text)]

/-- The tokens of an entry with a quoted value. -/
def entryTokens (entry : String × String) : List Token :=
  [.string (some entry.1), .colon, .string (some entry.2)]

/-- A separator spells a comma. -/
theorem spells_separator : Spells [',', ' '] [.comma] :=
  fun _ _ => rfl

/-- **Joined parts spell their tokens**, with a comma for each separator. -/
theorem spells_joined {write : α → List Char} {tokens : α → List Token}
    (h : ∀ a, Spells (write a) (tokens a)) (as : List α) :
    Spells ([',', ' '].intercalate (as.map write)) (joinedTokens tokens as) := by
  cases as with
  | nil => exact fun _ _ => rfl
  | cons a as =>
    induction as generalizing a with
    | nil => simpa [joinedTokens] using h a
    | cons next as ih =>
      rw [List.map_cons, List.map_cons, List.intercalate_cons_cons, List.append_assoc]
      exact (h a).append (spells_separator.append (ih next))

/-- An entry spells its key, a colon and its value. -/
theorem spells_scriptEntry (entry : String × String) :
    Spells (Literals.scriptEntry (entry.1, quote entry.2)).toList (entryTokens entry) := by
  have hcolon : Spells [':'] [.colon] := spells_singleton rfl
  rw [Literals.scriptEntry, String.toList_append, String.toList_append]
  exact ((spells_quote entry.1).append hcolon).append (spells_quote entry.2)

/-- The tokens of joined parts between two brackets. -/
theorem tokens?_enclosed {left right : String} {first last : Token} {write : α → String}
    {tokens : α → List Token} (hleft : Spells left.toList [first])
    (hright : Spells right.toList [last]) (h : ∀ a, Spells (write a).toList (tokens a))
    (as : List α) :
    tokens? (left ++ ", ".intercalate (as.map write) ++ right) =
      some (first :: (joinedTokens tokens as ++ [last])) := by
  have hjoined : Spells (", ".intercalate (as.map write)).toList (joinedTokens tokens as) := by
    rw [String.toList_intercalate, List.map_map]
    exact spells_joined h as
  refine tokens?_of_spells ?_
  rw [String.toList_append, String.toList_append]
  exact (hleft.append hjoined).append hright

/-- **The tokens of an array of literals.** -/
theorem tokens?_array (texts : List String) : tokens? (Literals.script.array (texts.map quote)) =
    some (.openBracket :: (joinedTokens itemTokens texts ++ [.closeBracket])) := by
  have hleft : Spells "[".toList [.openBracket] := spells_singleton rfl
  have hright : Spells "]".toList [.closeBracket] := spells_singleton rfl
  exact tokens?_enclosed hleft hright spells_quote texts

/-- **The tokens of an object with literals as values.** -/
theorem tokens?_object (entries : List (String × String)) :
    tokens? (Literals.script.object (entries.map fun entry => (entry.1, quote entry.2))) =
      some (.openBrace :: (joinedTokens entryTokens entries ++ [.closeBrace])) := by
  have hleft : Spells "\x7b".toList [.openBrace] := spells_singleton rfl
  have hright : Spells "\x7d".toList [.closeBrace] := spells_singleton rfl
  have hread := tokens?_enclosed hleft hright spells_scriptEntry entries
  rwa [← Function.comp_def Literals.scriptEntry, ← List.map_map] at hread

/-! ## Reading items and entries -/

/-- Behind an item and a comma the next item is read, if it is no key of an entry. -/
theorem endValue?_comma {items : List Json} (h : ∀ key more, rest ≠ .string key :: .colon :: more) :
    endValue? (.array items :: stack) value (.comma :: rest) =
      startValue? (.array (value :: items) :: stack) rest := by
  rw [endValue?]
  intro key more hrest
  exact h key more hrest

/-- What stands behind an item is no colon. -/
theorem items_ne_colon (text : String) (texts : List String) (key : Option String)
    (more : List Token) :
    itemTokens text ++ ((texts.flatMap fun next => .comma :: itemTokens next) ++
      .closeBracket :: rest) ≠ .string key :: .colon :: more := by
  cases texts <;> simp [itemTokens]

/-- **The items behind one that has been read** come behind it in the array. -/
theorem endValue?_items (items : List Json) (value : Json) (texts : List String) :
    endValue? (.array items :: stack) value
        ((texts.flatMap fun next => .comma :: itemTokens next) ++ .closeBracket :: rest) =
      endValue? stack (closed stack.length (.array (items.reverse ++ value :: texts.map .string)))
        rest := by
  induction texts generalizing items value with
  | nil =>
    rw [List.flatMap_nil, List.nil_append, endValue?, List.reverse_cons]
    rfl
  | cons text texts ih =>
    have hread := ih (value :: items) (.string text)
    rw [List.reverse_cons, List.append_assoc] at hread
    rw [List.flatMap_cons, List.cons_append, List.cons_append, List.append_assoc,
      endValue?_comma (items_ne_colon text texts)]
    exact hread

/-- The object of read members, which are there last first. -/
theorem objectOf_reverse (entries : List (String × String)) :
    objectOf (entries.map fun entry => (some entry.1, Json.string entry.2)).reverse =
      .object (entries.map fun entry => (entry.1, .string entry.2)) := by
  have hkeys : (entries.map fun entry => (some entry.1, Json.string entry.2)).mapM
      (fun m => m.1.map (·, m.2)) =
        some (entries.map fun entry => (entry.1, Json.string entry.2)) := by
    induction entries with
    | nil => rfl
    | cons entry entries ih => simp [ih]
  rw [objectOf, List.reverse_reverse, hkeys]

/-- **The entries behind one that has been read** come behind it in the object. -/
theorem endValue?_entries (members : List (Option String × Json)) (key : Option String)
    (value : Json) (entries : List (String × String)) :
    endValue? (.object members key :: stack) value
        ((entries.flatMap fun next => .comma :: entryTokens next) ++ .closeBrace :: rest) =
      endValue? stack (closed stack.length (objectOf
        ((entries.map fun entry => (some entry.1, Json.string entry.2)).reverse ++
          (key, value) :: members))) rest := by
  induction entries generalizing members key value with
  | nil =>
    rw [List.flatMap_nil, List.nil_append, endValue?]
    rfl
  | cons entry entries ih =>
    have hread := ih ((key, value) :: members) (some entry.1) (.string entry.2)
    rw [List.map_cons, List.reverse_cons, List.append_assoc]
    exact hread

/-- **An array of literals reads as the array of what was quoted.** -/
theorem read?_array (texts : List String) :
    read? (Literals.script.array (texts.map quote)) = some (.array (texts.map .string)) := by
  rw [read?, tokens?_array]
  cases texts with
  | nil => rfl
  | cons text texts =>
    have hread : startValue? [.array []] (itemTokens text ++
        ((texts.flatMap fun next => .comma :: itemTokens next) ++ [.closeBracket])) =
          some (.array ((text :: texts).map .string)) := endValue?_items [] (.string text) texts
    rw [joinedTokens, List.append_assoc]
    exact hread

/-- **An object with literals as values reads as the entries that were quoted**, in their
order and with repeated keys. -/
theorem read?_object (entries : List (String × String)) :
    read? (Literals.script.object (entries.map fun entry => (entry.1, quote entry.2))) =
      some (.object (entries.map fun entry => (entry.1, .string entry.2))) := by
  rw [read?, tokens?_object]
  cases entries with
  | nil => rfl
  | cons entry entries =>
    have hread : startValue? [] (.openBrace :: (entryTokens entry ++
        ((entries.flatMap fun next => .comma :: entryTokens next) ++ [.closeBrace]))) =
          some (closed 0 (objectOf ((entry :: entries).map fun entry =>
            (some entry.1, Json.string entry.2)).reverse)) := by
      rw [List.map_cons, List.reverse_cons]
      exact endValue?_entries [] (some entry.1) (.string entry.2) entries
    rw [objectOf_reverse] at hread
    rw [joinedTokens, List.append_assoc]
    exact hread

/-! ## What a text tells -/

/-- Different texts have different arrays. -/
theorem array_inj {texts others : List String}
    (h : Literals.script.array (texts.map quote) = Literals.script.array (others.map quote)) :
    texts = others := by
  have hread := read?_array texts
  rw [h, read?_array] at hread
  have hitems : others.map Json.string = texts.map Json.string :=
    Json.array.inj (Option.some.inj hread)
  exact (List.map_injective_iff.mpr (fun _ _ => Json.string.inj) hitems).symm

/-- Different entries have different objects. -/
theorem object_inj {entries others : List (String × String)}
    (h : Literals.script.object (entries.map fun entry => (entry.1, quote entry.2)) =
      Literals.script.object (others.map fun entry => (entry.1, quote entry.2))) :
    entries = others := by
  have hread := read?_object entries
  rw [h, read?_object] at hread
  have hmembers : (others.map fun entry => (entry.1, Json.string entry.2)) =
      entries.map fun entry => (entry.1, Json.string entry.2) :=
    Json.object.inj (Option.some.inj hread)
  refine (List.map_injective_iff.mpr ?_ hmembers).symm
  rintro ⟨key, value⟩ ⟨otherKey, otherValue⟩ hentry
  cases hentry
  rfl

/-- Entries whose values are literals are what some entries are quoted to. -/
theorem exists_map_quote_snd {entries : List (String × String)}
    (h : ∀ entry ∈ entries, entry.2 ∈ Set.range quote) :
    ∃ sources : List (String × String),
      (sources.map fun entry => (entry.1, quote entry.2)) = entries := by
  refine (Set.range_list_map fun entry : String × String => (entry.1, quote entry.2)).ge ?_
  intro entry hentry
  obtain ⟨text, htext⟩ := h entry hentry
  exact ⟨(entry.1, text), congrArg (entry.1, ·) htext⟩

/-- **A literal can be read back, alone and among others.** The literal of a text stands
between two quotes; there is no control character in it, each quote between the two is
escaped and the last one is not, and as JSON it reads as the text, so that no literal is
the beginning of another one. An array of literals reads as the array of their texts and
tells what its items are, and an object with literals as values reads as their texts under
its keys and tells what its entries are. -/
theorem literals_read_back :
    (∀ s : String, ∃ body, (quote s).toList = '"' :: (body ++ ['"']) ∧
      (∀ c ∈ (quote s).toList, 0x20 ≤ c.toNat) ∧
      (∀ front back, body = front ++ '"' :: back → opensEscape front = true) ∧
      opensEscape body = false ∧ read? (quote s) = some (.string s)) ∧
    (∀ s t : String, (quote s).toList <+: (quote t).toList ↔ s = t) ∧
    (∀ entries : List (String × String),
      read? (Literals.script.object (entries.map fun entry => (entry.1, quote entry.2))) =
        some (.object (entries.map fun entry => (entry.1, .string entry.2)))) ∧
    Set.InjOn Literals.script.object {entries | ∀ entry ∈ entries, entry.2 ∈ Set.range quote} ∧
    (∀ texts : List String, read? (Literals.script.array (texts.map quote)) =
      some (.array (texts.map .string))) ∧
    Set.InjOn Literals.script.array {items | ∀ item ∈ items, item ∈ Set.range quote} := by
  refine ⟨fun s => ?_, fun s t => quote_prefix_iff, read?_object, ?_, read?_array, ?_⟩
  · refine ⟨quotedBody s.toList, toList_quote s, ?_, ?_, opensEscape_quotedBody s.toList,
      read?_quote s⟩
    · intro c hc
      rw [toList_quote, quotedList, List.mem_cons, List.mem_append, List.mem_singleton] at hc
      rcases hc with rfl | hc | rfl
      · decide
      · exact le_toNat_of_mem_quotedBody hc
      · decide
    · intro front back hbody
      exact opensEscape_of_quotedBody_eq hbody
  · intro entries hentries others hothers htexts
    obtain ⟨sources, rfl⟩ := exists_map_quote_snd hentries
    obtain ⟨otherSources, rfl⟩ := exists_map_quote_snd hothers
    rw [object_inj htexts]
  · intro items hitems others hothers htexts
    obtain ⟨sources, rfl⟩ := (Set.range_list_map quote).ge hitems
    obtain ⟨otherSources, rfl⟩ := (Set.range_list_map quote).ge hothers
    rw [array_inj htexts]

/-- A text that looks like the end of one value and another entry. -/
def forgedEntry : String :=
  "1\", \"b\":\"2"

theorem literals_read_back_forgedEntry :
    opensEscape ['1', '\\'] = true ∧ ¬ (quote "1").toList <+: (quote forgedEntry).toList ∧
      Literals.script.object [("a", quote forgedEntry)] ≠
        Literals.script.object [("a", quote "1"), ("b", quote "2")] ∧
      Literals.script.array [quote forgedEntry] ≠
        Literals.script.array [quote "1", quote "2"] := by
  obtain ⟨hquote, hbeginning, -, hobject, -, harray⟩ := literals_read_back
  have hne : "1" ≠ forgedEntry := by decide
  refine ⟨?_, fun h => hne ((hbeginning _ _).mp h), fun h => ?_, fun h => ?_⟩
  · obtain ⟨body, hbody, -, hescaped, -⟩ := hquote forgedEntry
    -- the body of this literal is the text with a backslash before each quote
    obtain ⟨-, hinner⟩ := List.cons.inj ((toList_quote forgedEntry).symm.trans hbody)
    exact hescaped _ _ (List.append_cancel_right hinner).symm
  · have hentries := hobject (List.forall_mem_singleton.mpr ⟨forgedEntry, rfl⟩)
      (List.forall_mem_cons.mpr ⟨⟨"1", rfl⟩, List.forall_mem_singleton.mpr ⟨"2", rfl⟩⟩) h
    cases hentries
  · have hitems := harray (List.forall_mem_singleton.mpr ⟨forgedEntry, rfl⟩)
      (List.forall_mem_cons.mpr ⟨⟨"1", rfl⟩, List.forall_mem_singleton.mpr ⟨"2", rfl⟩⟩) h
    cases hitems

example : quote "say \"hi\"\x01" = "\"say \\\"hi\\\"\\u0001\"" := by
  rfl

end MarkupTemplate.Call
