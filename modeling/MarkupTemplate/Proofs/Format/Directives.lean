import MarkupTemplate.Format.Directives
import MarkupTemplate.Proofs.Text.Trim
/-!
# Directives, written and read — no bit is lost

The text of a set of directives is its pieces, joined by bars. A piece is `Bare`: it has
neither a bar nor a blank in it. So cutting the text at the bars and trimming gives the
pieces back (`map_trimmed_pieces`), a hexadecimal number reads as the number that was
written (`hexNumber?_toDigits`), and the pieces of a set name all its bits
(`foldl_parts`).
-/

namespace MarkupTemplate

/-! ## Cutting and joining -/

namespace Text

variable {separator : Char} {cs rest : List Char}

/-- A text without separators is one piece. -/
theorem pieces_of_not_mem (h : separator ∉ cs) : pieces separator cs = [cs] := by
  induction cs with
  | nil => rfl
  | cons c cs ih =>
    rw [List.mem_cons, not_or] at h
    obtain ⟨hc, hcs⟩ := h
    rw [pieces, if_neg (Ne.symm hc), ih hcs]

/-- **The first piece ends at the first separator.** -/
theorem pieces_append_cons (h : separator ∉ cs) :
    pieces separator (cs ++ separator :: rest) = cs :: pieces separator rest := by
  induction cs with
  | nil => rw [List.nil_append, pieces, if_pos rfl]
  | cons c cs ih =>
    rw [List.mem_cons, not_or] at h
    obtain ⟨hc, hcs⟩ := h
    rw [List.cons_append, pieces, if_neg (Ne.symm hc), ih hcs]

end Text

namespace Directives

open Text

/-- A piece that can stand in a text of directives: some characters, no blank and no bar
among them. -/
def Bare (piece : List Char) : Prop :=
  piece ≠ [] ∧ ∀ c ∈ piece, isBlank c = false ∧ c ≠ '|'

/-- The bar with its blanks, as it stands between two pieces. -/
def bar : List Char :=
  [' ', '|', ' ']

variable {piece before behind : List Char} {pieces : List (List Char)}

/-- A piece is bare if a look at each of its characters says so. -/
theorem bare_of_all (hne : piece ≠ [])
    (h : (piece.all fun c => !isBlank c && c != '|') = true) : Bare piece := by
  refine ⟨hne, fun c hc => ?_⟩
  have hboth := List.all_eq_true.mp h c hc
  rw [Bool.and_eq_true, Bool.not_eq_true', bne_iff_ne] at hboth
  exact hboth

/-- A bare piece does not begin with a blank. -/
theorem head?_of_bare (h : Bare piece) (behind : List Char) :
    (piece ++ behind).head?.any isBlank = false := by
  obtain ⟨hne, hchars⟩ := h
  cases piece with
  | nil => exact absurd rfl hne
  | cons c cs =>
    have hc : isBlank c = false := (hchars c List.mem_cons_self).1
    simpa using hc

/-- It does not end in one either. -/
theorem getLast?_of_bare (h : Bare piece) : piece.getLast?.any isBlank = false := by
  obtain ⟨-, hchars⟩ := h
  cases hlast : piece.getLast? with
  | none => rfl
  | some c =>
    have hc : isBlank c = false := (hchars c (List.mem_of_getLast? hlast)).1
    simpa using hc

/-- **Trimming takes the blanks around a piece.** -/
theorem trimmed_padded (hbefore : ∀ c ∈ before, isBlank c = true) (hpiece : Bare piece)
    (hbehind : ∀ c ∈ behind, isBlank c = true) : trimmed (before ++ (piece ++ behind)) = piece := by
  have hstart : dropBlankStart (before ++ (piece ++ behind)) = piece ++ behind := by
    have hdropped : dropBlankStart (before ++ (piece ++ behind)) =
        dropBlankStart (piece ++ behind) := List.dropWhile_append_of_pos hbefore
    rw [hdropped]
    exact dropBlankStart_eq_self (head?_of_bare hpiece behind)
  have hend : dropBlankEnd (piece ++ behind) = piece := by
    have hdropped : dropBlankStart (behind.reverse ++ piece.reverse) =
        dropBlankStart piece.reverse := by
      refine List.dropWhile_append_of_pos fun c hc => ?_
      exact hbehind c (List.mem_reverse.mp hc)
    rw [← List.reverse_inj, reverse_dropBlankEnd, List.reverse_append, hdropped]
    rw [← reverse_dropBlankEnd, dropBlankEnd_eq_self (getLast?_of_bare hpiece)]
  rw [trimmed, hstart, hend]

/-- A joined text is not empty, and has no blank at either end. -/
theorem ends_joined (hne : pieces ≠ []) (h : ∀ piece ∈ pieces, Bare piece) :
    bar.intercalate pieces ≠ [] ∧ (bar.intercalate pieces).head?.any isBlank = false ∧
      (bar.intercalate pieces).getLast?.any isBlank = false := by
  induction pieces with
  | nil => exact absurd rfl hne
  | cons piece rest ih =>
    obtain ⟨hpiece, hrest⟩ := List.forall_mem_cons.mp h
    cases rest with
    | nil =>
      have hhead := head?_of_bare hpiece []
      rw [List.append_nil] at hhead
      rw [List.intercalate_singleton]
      exact ⟨hpiece.1, hhead, getLast?_of_bare hpiece⟩
    | cons next more =>
      obtain ⟨hjoined, -, hlast⟩ := ih (List.cons_ne_nil next more) hrest
      rw [List.intercalate_cons_cons, List.append_assoc]
      refine ⟨?_, head?_of_bare hpiece _, ?_⟩
      · exact List.append_ne_nil_of_left_ne_nil hpiece.1 _
      · rw [List.getLast?_append_of_ne_nil, List.getLast?_append_of_ne_nil]
        · exact hlast
        · exact hjoined
        · exact List.append_ne_nil_of_right_ne_nil _ hjoined

/-- **Cutting a joined text gives its pieces back**, once they are trimmed. The blanks in
front are those behind the bar that was cut at last. -/
theorem map_trimmed_pieces (hne : pieces ≠ []) (h : ∀ piece ∈ pieces, Bare piece)
    (hbefore : ∀ c ∈ before, isBlank c = true) :
    (Text.pieces '|' (before ++ bar.intercalate pieces)).map trimmed = pieces := by
  have hbar : ∀ {cs : List Char}, (∀ c ∈ cs, isBlank c = true) → '|' ∉ cs := by
    intro cs hblank hmem
    have hfalse : isBlank '|' = true := hblank '|' hmem
    exact absurd hfalse (by decide)
  induction pieces generalizing before with
  | nil => exact absurd rfl hne
  | cons piece rest ih =>
    obtain ⟨hpiece, hrest⟩ := List.forall_mem_cons.mp h
    have hnot : '|' ∉ piece := fun hmem => (hpiece.2 '|' hmem).2 rfl
    have hspace : ∀ c ∈ [' '], isBlank c = true := by
      intro c hc
      rw [List.mem_singleton.mp hc]
      rfl
    cases rest with
    | nil =>
      have hcut : '|' ∉ before ++ piece := by
        rw [List.mem_append, not_or]
        exact ⟨hbar hbefore, hnot⟩
      have htrimmed : trimmed (before ++ (piece ++ [])) = piece :=
        trimmed_padded hbefore hpiece nofun
      rw [List.append_nil] at htrimmed
      rw [List.intercalate_singleton, pieces_of_not_mem hcut, List.map_singleton, htrimmed]
    | cons next more =>
      have hcut : '|' ∉ before ++ (piece ++ [' ']) := by
        rw [List.mem_append, List.mem_append, not_or, not_or]
        exact ⟨hbar hbefore, hnot, hbar hspace⟩
      have hsplit : before ++ bar.intercalate (piece :: next :: more) =
          (before ++ (piece ++ [' '])) ++ '|' :: ([' '] ++ bar.intercalate (next :: more)) := by
        rw [List.intercalate_cons_cons]
        simp [bar]
      rw [hsplit, pieces_append_cons hcut, List.map_cons, trimmed_padded hbefore hpiece hspace,
        ih (List.cons_ne_nil next more) hrest hspace]

/-- **A joined text is read piece by piece.** -/
theorem ofText?_joined {texts : List String} (h : ∀ text ∈ texts, Bare text.toList) :
    ofText? (" | ".intercalate texts) =
      (texts.map String.toList).foldlM (fun found piece => (ofPiece? piece).map found.union)
        empty := by
  cases texts with
  | nil => rfl
  | cons text more =>
    have hne : (text :: more).map String.toList ≠ [] := List.cons_ne_nil _ _
    have hbare : ∀ piece ∈ (text :: more).map String.toList, Bare piece := by
      intro piece hpiece
      obtain ⟨other, hother, rfl⟩ := List.mem_map.mp hpiece
      exact h other hother
    have htext : (" | ".intercalate (text :: more)).toList =
        bar.intercalate ((text :: more).map String.toList) := String.toList_intercalate
    obtain ⟨hjoined, hhead, hlast⟩ := ends_joined hne hbare
    have htrimmed : trimmed (" | ".intercalate (text :: more)).toList =
        bar.intercalate ((text :: more).map String.toList) := by
      rw [htext, trimmed, dropBlankStart_eq_self hhead, dropBlankEnd_eq_self hlast]
    have hpieces : (Text.pieces '|' ([] ++ bar.intercalate ((text :: more).map String.toList))).map
        trimmed = (text :: more).map String.toList := map_trimmed_pieces hne hbare nofun
    rw [List.nil_append] at hpieces
    rw [ofText?, htrimmed, if_neg (by simpa using hjoined)]
    generalize bar.intercalate ((text :: more).map String.toList) = cs at hpieces
    rw [← hpieces, List.foldlM_map]

/-! ## Hexadecimal numbers -/

/-- A digit that is written reads as its value. -/
theorem hexValue?_digitChar : ∀ d < 16, Json.hexValue? (Nat.digitChar d) = some d := by
  decide

/-- **A number that is written in hexadecimal reads as the number.** -/
theorem hexNumber?_toDigits (n : Nat) : Json.hexNumber? (Nat.toDigits 16 n) = some n := by
  induction n using Nat.strongRecOn with
  | _ n ih =>
    rw [Nat.toDigits_eq_if (by omega)]
    by_cases hn : n < 16
    · rw [if_pos hn]
      simp [Json.hexNumber?, hexValue?_digitChar n hn]
    · have hdigit : n % 16 < 16 := Nat.mod_lt n (by omega)
      have hrest := ih (n / 16) (by omega)
      have hsum : 16 * (n / 16) + n % 16 = n := Nat.div_add_mod n 16
      unfold Json.hexNumber? at hrest ⊢
      rw [if_neg hn, List.foldlM_append, hrest]
      simp [hexValue?_digitChar _ hdigit, hsum]

/-- What is written in hexadecimal are digits. -/
theorem exists_of_mem_toDigits {n : Nat} {c : Char} (h : c ∈ Nat.toDigits 16 n) :
    ∃ d < 16, c = Nat.digitChar d := by
  induction n using Nat.strongRecOn with
  | _ n ih =>
    rw [Nat.toDigits_eq_if (by omega)] at h
    by_cases hn : n < 16
    · rw [if_pos hn, List.mem_singleton] at h
      exact ⟨n, hn, h⟩
    · rw [if_neg hn, List.mem_append, List.mem_singleton] at h
      rcases h with h | h
      · exact ih (n / 16) (by omega) h
      · exact ⟨n % 16, Nat.mod_lt n (by omega), h⟩

/-- The text of the bits without a name. -/
def hexText (s : Directives) : String :=
  "0x" ++ String.ofList (Nat.toDigits 16 s.bits.toNat)

theorem toList_hexText (s : Directives) :
    s.hexText.toList = '0' :: 'x' :: Nat.toDigits 16 s.bits.toNat := by
  simp [hexText]

/-- The bits without a name are a bare piece. -/
theorem bare_hexText (s : Directives) : Bare s.hexText.toList := by
  have hdigits : ∀ d < 16, isBlank (Nat.digitChar d) = false ∧ Nat.digitChar d ≠ '|' := by
    decide
  rw [toList_hexText]
  refine ⟨List.cons_ne_nil _ _, fun c hc => ?_⟩
  rcases List.mem_cons.mp hc with rfl | hc
  · decide
  rcases List.mem_cons.mp hc with rfl | hc
  · decide
  obtain ⟨d, hd, rfl⟩ := exists_of_mem_toDigits hc
  exact hdigits d hd

/-- **The bits without a name are read as they were.** -/
theorem ofPiece?_hexText (s : Directives) : ofPiece? s.hexText.toList = some s := by
  obtain ⟨bits⟩ := s
  have hsize : bits.toNat < 256 := bits.toNat_lt
  have hne : (Nat.toDigits 16 bits.toNat).isEmpty = false := by
    simp [Nat.toDigits_ne_nil]
  rw [toList_hexText]
  simp only [ofPiece?, ofHex?, hne, hexNumber?_toDigits, hsize, if_true, Bool.false_eq_true,
    if_false, UInt8.ofNat_toNat]

/-! ## The pieces of a set -/

/-- The pieces of the text of a set, each behind the directives that it names. -/
def entries (s : Directives) : List (Directives × String) :=
  let rest := (s.diff left).diff right
  (names.filter fun n => s.contains n.1) ++ if rest = empty then [] else [(rest, rest.hexText)]

theorem textPieces_eq_map (s : Directives) : s.textPieces = s.entries.map Prod.snd := by
  unfold textPieces entries
  by_cases hrest : (s.diff left).diff right = empty
  · simp [hrest]
  · simp [hrest, hexText]

/-- A piece is bare, and it is read as the directives that it names. -/
theorem bare_and_ofPiece?_of_mem_entries (s : Directives) :
    ∀ entry ∈ s.entries, Bare entry.2.toList ∧ ofPiece? entry.2.toList = some entry.1 := by
  intro entry hentry
  rcases List.mem_append.mp hentry with hname | hrest
  · have hnames : ∀ n ∈ names, Bare n.2.toList ∧ ofPiece? n.2.toList = some n.1 := by
      refine List.forall_mem_cons.mpr ⟨?_, List.forall_mem_singleton.mpr ?_⟩
      · exact ⟨bare_of_all (List.cons_ne_nil _ _) rfl, rfl⟩
      · exact ⟨bare_of_all (List.cons_ne_nil _ _) rfl, rfl⟩
    exact hnames entry (List.mem_filter.mp hname).1
  · split at hrest
    · cases hrest
    · rw [List.mem_singleton.mp hrest]
      exact ⟨bare_hexText _, ofPiece?_hexText _⟩

/-- **The pieces name all bits of a set between them.** -/
theorem foldl_entries (s : Directives) :
    s.entries.foldl (fun found entry => found.union entry.1) empty = s := by
  have hbits : ∀ n : Fin 256, (entries ⟨.ofFin n⟩).foldl
      (fun found entry => found.union entry.1) empty = ⟨.ofFin n⟩ := by
    decide +kernel
  exact hbits s.bits.toFin

/-- Pieces that are read as what they name are read as the union of it. -/
theorem foldlM_ofPiece? {entries : List (Directives × String)}
    (h : ∀ entry ∈ entries, ofPiece? entry.2.toList = some entry.1) (found : Directives) :
    (entries.map fun entry => entry.2.toList).foldlM
        (fun found piece => (ofPiece? piece).map found.union) found =
      some (entries.foldl (fun found entry => found.union entry.1) found) := by
  induction entries generalizing found with
  | nil => rfl
  | cons entry entries ih =>
    obtain ⟨hentry, hentries⟩ := List.forall_mem_cons.mp h
    rw [List.map_cons, List.foldlM_cons, hentry]
    exact ih hentries (found.union entry.1)

/-- **The text of a set of directives is read as the set**, bits without a name
included. -/
theorem ofText?_toText (s : Directives) : ofText? s.toText = some s := by
  have hentries := bare_and_ofPiece?_of_mem_entries s
  have hbare : ∀ text ∈ s.textPieces, Bare text.toList := by
    intro text htext
    rw [textPieces_eq_map] at htext
    obtain ⟨entry, hentry, rfl⟩ := List.mem_map.mp htext
    exact (hentries entry hentry).1
  rw [toText, ofText?_joined hbare, textPieces_eq_map, List.map_map]
  have hread := foldlM_ofPiece? (fun entry hentry => (hentries entry hentry).2) empty
  rw [foldl_entries] at hread
  exact hread

end Directives

end MarkupTemplate
