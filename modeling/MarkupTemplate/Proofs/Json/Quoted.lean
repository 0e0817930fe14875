import MarkupTemplate.Json.Reader
import MarkupTemplate.Proofs.Format.Directives
import MarkupTemplate.Proofs.Text.Quoted
/-!
# Quoted text, read as JSON — every literal gives its text back

`Spells` says that characters are cut into tokens between two others, whatever is read
before and after them; it goes over to characters in a row, so that the tokens of a text
follow from the tokens of its parts. A literal spells the string that was quoted
(`spells_quotedList`): each character of the string is one piece of its body, and the
pieces join to the characters.
-/

namespace MarkupTemplate.Json

open Text

variable {c : Char} {cs written gathered rest : List Char} {tokens found : List Token}

/-! ## The pieces of a body -/

/-- The code of a control character is read back from its four digits. -/
theorem hexNumber?_of_control {n : Nat} (h : n < 0x20) :
    hexNumber? ['0', '0', hexDigit (n / 16), hexDigit n] = some n := by
  have hzero : hexValue? '0' = some 0 := rfl
  have hhigh : hexValue? (hexDigit (n / 16)) = some (n / 16 % 16) :=
    Directives.hexValue?_digitChar _ (Nat.mod_lt _ (by omega))
  have hlow : hexValue? (hexDigit n) = some (n % 16) :=
    Directives.hexValue?_digitChar _ (Nat.mod_lt _ (by omega))
  have hsum : 16 * (n / 16 % 16) + n % 16 = n := by omega
  simp [hexNumber?, hzero, hhigh, hlow, hsum]

/-- A character that stands for itself is a piece. -/
theorem stringPieces?_cons (hbackslash : c ≠ '\\') (hcontrol : 0x20 ≤ c.toNat) :
    stringPieces? (c :: rest) = (stringPieces? rest).map (.char c :: ·) := by
  have hplain : ¬ (c = '\\' ∨ c.toNat < 0x20) := by
    rintro (h | h)
    · exact hbackslash h
    · omega
  rw [stringPieces?]
  · simp [hplain]
  · rintro a b d e rest rfl
    exact absurd rfl hbackslash
  · rintro e rest rfl
    exact absurd rfl hbackslash

/-- A short escape is a piece. -/
theorem stringPieces?_escape {e : Char} (h : shortEscape? e = some c) :
    stringPieces? ('\\' :: e :: rest) = (stringPieces? rest).map (.char c :: ·) := by
  rw [stringPieces?]
  · rw [h]
    cases stringPieces? rest <;> rfl
  · rintro a b d f rest rfl
    cases h

/-- The four digits of a control character are a piece. -/
theorem stringPieces?_control (h : c.toNat < 0x20) :
    stringPieces? (['\\', 'u', '0', '0', hexDigit (c.toNat / 16), hexDigit c.toNat] ++ rest) =
      (stringPieces? rest).map (.unit c.toNat :: ·) := by
  rw [List.cons_append, List.cons_append, List.cons_append, List.cons_append, List.cons_append,
    List.cons_append, List.nil_append, stringPieces?, hexNumber?_of_control h]
  cases stringPieces? rest <;> rfl

/-- The code of a control character is no surrogate, and denotes the character. -/
theorem joinPieces?_control (h : c.toNat < 0x20) (pieces : List Piece) :
    joinPieces? none (.unit c.toNat :: pieces) = (joinPieces? none pieces).map (c :: ·) := by
  have hhigh : isHighSurrogate c.toNat = false := by
    rw [isHighSurrogate, Bool.and_eq_false_iff, decide_eq_false_iff_not]
    omega
  have hlow : isLowSurrogate c.toNat = false := by
    rw [isLowSurrogate, Bool.and_eq_false_iff, decide_eq_false_iff_not]
    omega
  simp [joinPieces?, hhigh, hlow]

/-- **A written character is one piece**, which denotes the character. -/
theorem exists_piece (c : Char) : ∃ piece,
    (∀ rest, stringPieces? (quotedChar c ++ rest) = (stringPieces? rest).map (piece :: ·)) ∧
      ∀ pieces, joinPieces? none (piece :: pieces) = (joinPieces? none pieces).map (c :: ·) := by
  unfold quotedChar
  split
  case h_8 hquote hbackslash _ _ _ _ _ =>
    by_cases hcontrol : c.toNat < 0x20
    · rw [if_pos hcontrol]
      exact ⟨.unit c.toNat, fun rest => stringPieces?_control hcontrol,
        joinPieces?_control hcontrol⟩
    · rw [if_neg hcontrol]
      exact ⟨.char c, fun rest => stringPieces?_cons hbackslash (Nat.le_of_not_lt hcontrol),
        fun pieces => rfl⟩
  all_goals exact ⟨.char _, fun rest => stringPieces?_escape rfl, fun pieces => rfl⟩

/-- **The body of a literal denotes what was quoted.** -/
theorem stringToken?_quotedBody (cs : List Char) :
    stringToken? (quotedBody cs) = some (.string (some (String.ofList cs))) := by
  have hpieces : ∃ pieces, stringPieces? (quotedBody cs) = some pieces ∧
      joinPieces? none pieces = some cs := by
    induction cs with
    | nil => exact ⟨[], rfl, rfl⟩
    | cons c cs ih =>
      obtain ⟨pieces, hpieces, hjoined⟩ := ih
      obtain ⟨piece, hread, hdenotes⟩ := exists_piece c
      refine ⟨piece :: pieces, ?_, ?_⟩
      · rw [quotedBody_cons, hread, hpieces]
        rfl
      · rw [hdenotes, hjoined]
        rfl
  obtain ⟨pieces, hpieces, hjoined⟩ := hpieces
  rw [stringToken?, hpieces, Option.map_some, hjoined]
  rfl

/-! ## Literals as tokens -/

/-- **The characters spell tokens**: between two tokens they are cut into these, whatever
was found before and whatever comes next. -/
def Spells (cs : List Char) (tokens : List Token) : Prop :=
  ∀ found rest, tokensFrom? .nothing found (cs ++ rest) =
    tokensFrom? .nothing (tokens.reverse ++ found) rest

/-- Characters in a row spell their tokens in a row. -/
theorem Spells.append {ds : List Char} {more : List Token} (hcs : Spells cs tokens)
    (hds : Spells ds more) : Spells (cs ++ ds) (tokens ++ more) := by
  intro found rest
  rw [List.append_assoc, hcs, hds, List.reverse_append, List.append_assoc]

/-- A character that begins and ends its tokens spells them. -/
theorem spells_singleton (h : begin? c = some (tokens, .nothing)) : Spells [c] tokens := by
  intro found rest
  rw [List.singleton_append, tokensFrom?, advance?, h]

/-- A text that is spelled has these tokens. -/
theorem tokens?_of_spells {text : String} (h : Spells text.toList tokens) :
    tokens? text = some tokens := by
  have hread := h [] []
  rw [List.append_nil, List.append_nil] at hread
  rw [tokens?, hread, tokensFrom?]
  simp [close?]

/-- Inside a string, characters other than quotes and backslashes are gathered. -/
theorem tokensFrom?_gather (h : ∀ d ∈ written, d ≠ '"' ∧ d ≠ '\\') :
    tokensFrom? (.string gathered) found (written ++ rest) =
      tokensFrom? (.string (written.reverse ++ gathered)) found rest := by
  induction written generalizing gathered with
  | nil => rfl
  | cons d written ih =>
    obtain ⟨⟨hquote, hbackslash⟩, hrest⟩ := List.forall_mem_cons.mp h
    rw [List.cons_append, tokensFrom?, advance?, if_neg hquote, if_neg hbackslash]
    simpa using ih hrest

/-- **A written character is gathered as it stands.** -/
theorem tokensFrom?_written (h : Written c written) :
    tokensFrom? (.string gathered) found (written ++ rest) =
      tokensFrom? (.string (written.reverse ++ gathered)) found rest := by
  cases h with
  | plain hquote hbackslash _ =>
    refine tokensFrom?_gather fun d hd => ?_
    rw [List.mem_singleton.mp hd]
    exact ⟨hquote, hbackslash⟩
  | @escaped e tail _ htail =>
    have hescape : tokensFrom? (.string gathered) found ('\\' :: e :: tail ++ rest) =
        tokensFrom? (.string (e :: '\\' :: gathered)) found (tail ++ rest) := rfl
    rw [hescape, tokensFrom?_gather fun d hd => ⟨(htail d hd).1, (htail d hd).2.1⟩]
    simp

/-- So is the body of a literal. -/
theorem tokensFrom?_quotedBody (cs : List Char) :
    tokensFrom? (.string gathered) found (quotedBody cs ++ rest) =
      tokensFrom? (.string ((quotedBody cs).reverse ++ gathered)) found rest := by
  induction cs generalizing gathered with
  | nil => rfl
  | cons c cs ih =>
    rw [quotedBody_cons, List.append_assoc, tokensFrom?_written (written_quotedChar c), ih,
      List.reverse_append, List.append_assoc]

/-- **A literal spells the string that was quoted.** -/
theorem spells_quotedList (cs : List Char) :
    Spells (quotedList cs) [.string (some (String.ofList cs))] := by
  intro found rest
  have hopened : tokensFrom? .nothing found (quotedList cs ++ rest) =
      tokensFrom? (.string []) found (quotedBody cs ++ ('"' :: rest)) := by
    rw [quotedList, List.cons_append, List.append_assoc]
    rfl
  rw [hopened, tokensFrom?_quotedBody, tokensFrom?, advance?, if_pos rfl, List.append_nil,
    List.reverse_reverse, stringToken?_quotedBody]
  rfl

/-- So does the quoted text. -/
theorem spells_quote (s : String) : Spells (quote s).toList [.string (some s)] := by
  have h := spells_quotedList s.toList
  rwa [String.ofList_toList, ← toList_quote] at h

/-- **A literal reads as the string that was quoted.** -/
theorem read?_quote (s : String) : read? (quote s) = some (.string s) := by
  rw [read?, tokens?_of_spells (spells_quote s)]
  rfl

/-- Quoting loses nothing. -/
theorem quote_inj {s t : String} (h : quote s = quote t) : s = t := by
  have hread := read?_quote s
  rw [h, read?_quote] at hread
  cases hread
  rfl

/-- **No literal is the beginning of another one.** -/
theorem quote_prefix_iff {s t : String} : (quote s).toList <+: (quote t).toList ↔ s = t := by
  constructor
  · rintro ⟨behind, hbehind⟩
    rw [toList_quote, toList_quote, quotedList, quotedList, List.cons_append,
      List.append_assoc] at hbehind
    obtain ⟨-, hbodies⟩ := List.cons.inj hbehind
    obtain ⟨hbody, -⟩ := quotedBody_append_inj hbodies
    refine quote_inj (String.toList_inj.mp ?_)
    rw [toList_quote, toList_quote]
    exact congrArg (fun body => '"' :: (body ++ ['"'])) hbody
  · rintro rfl
    exact List.prefix_rfl

end MarkupTemplate.Json
