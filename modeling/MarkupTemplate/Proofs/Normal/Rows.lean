import MarkupTemplate.Proofs.Normal.Idle
/-!
# Rows of empty texts — what finishing drops, and what it keeps

Where stripping is off, finishing pads the edges of a body and deals with the empty texts
in it row by row. A row is as long as it can be, so that what it stands between are no
empty texts: all of it is dropped behind an element, only its last text in front of one
alone, and nothing of it elsewhere. `SweptByRows` says so of a list and what is left of
it, by a verdict on each entry; `verdictsFrom` are the verdicts of the scan, one entry
after the other, and `verdictsFrom_append_row` says that along a row they come to the
verdicts on a row.
-/

namespace MarkupTemplate

/-- **A row**: some empty texts, with no empty text next to them on either side. -/
structure IsRow (before row after : List Node) : Prop where
  ne_nil : row ≠ []
  empty : ∀ node ∈ row, node.isEmptyText = true
  left : before.getLast?.any Node.isEmptyText = false
  right : after.head?.any Node.isEmptyText = false

/-- Which texts of a row stay, by whether an element is on its left and on its right. -/
def rowVerdicts (left right : Bool) (count : Nat) : List Bool :=
  if left then List.replicate count false
  else if right then List.replicate (count - 1) true ++ [false]
  else List.replicate count true

/-- The entries that stay. -/
def staying (verdicts : List (Node × Bool)) : List Node :=
  (verdicts.filter Prod.snd).map Prod.fst

/-- **What is left of a list, row by row**: there is a verdict on every entry, such that
the entries that stay are the ones left; whatever is no empty text stays, and the
verdicts along a row are those of a row between its neighbours. -/
def SweptByRows (nodes left : List Node) : Prop :=
  ∃ verdicts : List (Node × Bool), verdicts.map Prod.fst = nodes ∧ staying verdicts = left ∧
    (∀ verdict ∈ verdicts, verdict.1.isEmptyText = false → verdict.2 = true) ∧
    ∀ before row after, verdicts = before ++ row ++ after →
      IsRow (before.map Prod.fst) (row.map Prod.fst) (after.map Prod.fst) →
      row.map Prod.snd = rowVerdicts ((before.map Prod.fst).getLast?.any Node.isElement)
        ((after.map Prod.fst).head?.any Node.isElement) row.length

/-- The body with an empty text beyond each end at which it has a live entry. -/
def padded (body : List Node) : List Node :=
  (if body.head?.any Node.isLive then [Node.emptyText] else []) ++ body ++
    (if body.getLast?.any Node.isLive then [Node.emptyText] else [])

variable {config : Config} {edges : Directives} {previous : Option Node} {behind : Bool}
variable {node : Node} {nodes row rest body : List Node}

/-! ## The verdicts of the scan -/

/-- The verdicts on entries, one after the other; `behind` says whether the last entry
that stays in front of them is an element. -/
def verdictsFrom (behind : Bool) : List Node → List (Node × Bool)
  | [] => []
  | node :: rest =>
    let stays := !(node.isEmptyText && (behind || rest.head?.any Node.isElement))
    (node, stays) :: verdictsFrom (if stays then node.isElement else behind) rest

/-- There is a verdict on every entry. -/
theorem map_fst_verdictsFrom (behind : Bool) (nodes : List Node) :
    (verdictsFrom behind nodes).map Prod.fst = nodes := by
  induction nodes generalizing behind with
  | nil => rfl
  | cons node rest ih => rw [verdictsFrom, List.map_cons, ih]

/-- **The scan leaves the entries that stay**, where stripping is off. -/
theorem scanned_eq_staying (hstripping : config.stripping = false) (previous : Option Node) :
    scanned config edges previous nodes =
      staying (verdictsFrom (previous.any Node.isElement) nodes) := by
  induction nodes generalizing previous with
  | nil => rfl
  | cons node rest ih =>
    rw [scanned, verdictsFrom]
    cases hkept : keptNode config edges previous rest.head? node with
    | none =>
      have hempty : node.isEmptyText = true := isEmptyText_of_keptNode_eq_none hstripping hkept
      have hbeside := (keptNode_eq_none hkept).2
      rw [← Bool.or_eq_true] at hbeside
      simpa [staying, hempty, hbeside] using ih previous
    | some kept =>
      obtain rfl : kept = node := eq_of_keptNode_eq_some hstripping hkept
      -- an empty text that is kept stands beside no element
      have hstays : (kept.isEmptyText &&
          (previous.any Node.isElement || rest.head?.any Node.isElement)) = false := by
        rw [← Bool.not_eq_true, Bool.and_eq_true, Bool.or_eq_true]
        rintro ⟨hempty, hbeside⟩
        rw [(keptNode_eq_none_iff_of_isEmptyText hempty).mpr hbeside] at hkept
        cases hkept
      have hrest := ih (some kept)
      simpa [staying, hstays] using hrest

/-- Whatever is no empty text stays. -/
theorem stays_of_not_isEmptyText {verdict : Node × Bool} (h : verdict ∈ verdictsFrom behind nodes)
    (hfull : verdict.1.isEmptyText = false) : verdict.2 = true := by
  induction nodes generalizing behind with
  | nil => cases h
  | cons node rest ih =>
    rw [verdictsFrom] at h
    rcases List.mem_cons.mp h with rfl | hrest
    · simp [hfull]
    · exact ih hrest

/-! ## Along a row -/

theorem length_rowVerdicts {count : Nat} (left right : Bool) (h : 0 < count) :
    (rowVerdicts left right count).length = count := by
  unfold rowVerdicts
  split
  · rw [List.length_replicate]
  · split
    · rw [List.length_append, List.length_replicate, List.length_singleton]
      omega
    · rw [List.length_replicate]

/-- The first text of a longer row stays unless the row is behind an element. -/
theorem rowVerdicts_add_two (left right : Bool) (count : Nat) :
    rowVerdicts left right (count + 2) = (!left) :: rowVerdicts left right (count + 1) := by
  cases left <;> cases right <;> rfl

/-- **Along a row the scan gives the verdicts on a row**, and what was in front of the row
is in front of the entries behind it. -/
theorem verdictsFrom_append_row (hne : row ≠ []) (hrow : ∀ node ∈ row, node.isEmptyText = true) :
    verdictsFrom behind (row ++ rest) =
      row.zip (rowVerdicts behind (rest.head?.any Node.isElement) row.length) ++
        verdictsFrom behind rest := by
  induction row with
  | nil => exact absurd rfl hne
  | cons node row ih =>
    obtain ⟨hnode, hrest⟩ := List.forall_mem_cons.mp hrow
    have helement : node.isElement = false := isElement_of_isEmptyText hnode
    cases row with
    | nil =>
      cases behind <;> cases hnext : rest.head?.any Node.isElement <;>
        simp [verdictsFrom, rowVerdicts, hnode, helement, hnext]
    | cons next row =>
      -- the next entry is an empty text, so only an element in front can be beside this one
      have hnext : next.isElement = false :=
        isElement_of_isEmptyText (hrest next List.mem_cons_self)
      have hfirst : verdictsFrom behind (node :: (next :: row ++ rest)) =
          (node, !behind) :: verdictsFrom behind (next :: row ++ rest) := by
        cases behind <;> simp [verdictsFrom, hnode, hnext, helement]
      have hlength : (node :: next :: row).length = row.length + 2 := rfl
      rw [List.cons_append, hfirst, ih (List.cons_ne_nil next row) hrest, hlength,
        rowVerdicts_add_two, List.zip_cons_cons]
      rfl

/-- **In every row the verdicts of the scan are those on a row** between its neighbours;
at the start, what is in front of the list counts. -/
theorem map_snd_of_isRow {before row after : List (Node × Bool)}
    (hsplit : verdictsFrom behind nodes = before ++ row ++ after)
    (hrow : IsRow (before.map Prod.fst) (row.map Prod.fst) (after.map Prod.fst)) :
    row.map Prod.snd =
      rowVerdicts ((before.map Prod.fst).getLast?.elim behind Node.isElement)
        ((after.map Prod.fst).head?.any Node.isElement) row.length := by
  induction before generalizing behind nodes with
  | nil =>
    have hnodes : nodes = row.map Prod.fst ++ after.map Prod.fst := by
      rw [← map_fst_verdictsFrom behind nodes, hsplit, List.nil_append, List.map_append]
    have hlength := length_rowVerdicts behind ((after.map Prod.fst).head?.any Node.isElement)
      (List.length_pos_of_ne_nil hrow.ne_nil)
    rw [hnodes, verdictsFrom_append_row hrow.ne_nil hrow.empty, List.nil_append] at hsplit
    obtain ⟨hverdicts, -⟩ := List.append_inj hsplit (by rw [List.length_zip, hlength]; simp)
    have hflags := congrArg (List.map Prod.snd) hverdicts
    rw [List.map_snd_zip hlength.le, List.length_map] at hflags
    exact hflags.symm
  | cons verdict before ih =>
    cases nodes with
    | nil => cases hsplit
    | cons node rest =>
      rw [verdictsFrom] at hsplit
      obtain ⟨rfl, hrest⟩ := List.cons.inj hsplit
      cases before with
      | nil =>
        -- the entry in front of a row is no empty text, so it stays
        have hfull : node.isEmptyText = false := hrow.left
        have hstart : IsRow [] (row.map Prod.fst) (after.map Prod.fst) :=
          { hrow with left := rfl }
        rw [ih hrest hstart, hfull]
        rfl
      | cons next before =>
        have hinner : IsRow ((next :: before).map Prod.fst) (row.map Prod.fst)
            (after.map Prod.fst) := { hrow with left := hrow.left }
        simpa only [List.map_cons, List.getLast?_cons, Option.getD_some, Option.elim_some]
          using ih hrest hinner

/-- **The scan sweeps a list row by row**, where stripping is off. -/
theorem sweptByRows_scanned (hstripping : config.stripping = false) :
    SweptByRows nodes (scanned config edges none nodes) := by
  refine ⟨verdictsFrom false nodes, map_fst_verdictsFrom false nodes, ?_, ?_, ?_⟩
  · exact (scanned_eq_staying hstripping none).symm
  · intro verdict hverdict hfull
    exact stays_of_not_isEmptyText hverdict hfull
  · intro before row after hsplit hrow
    rw [map_snd_of_isRow hsplit hrow]
    cases (before.map Prod.fst).getLast? <;> rfl

/-! ## Finished bodies -/

/-- Both ends are padded by the body as it was. -/
theorem padEnd_padStart (body : List Node) : padEnd (padStart body) = padded body := by
  cases body with
  | nil => rfl
  | cons first rest =>
    have hlast : (padStart (first :: rest)).getLast? = (first :: rest).getLast? := by
      unfold padStart
      split
      · exact List.getLast?_cons_cons
      · rfl
    unfold padEnd padded
    rw [hlast]
    unfold padStart
    split <;> split <;> simp

/-- The scan leaves an entry of any list that has one: what it drops at the start stands
in front of an element, which it keeps. -/
theorem scanned_ne_nil (h : nodes ≠ []) : scanned config edges none nodes ≠ [] := by
  cases nodes with
  | nil => exact absurd rfl h
  | cons node rest =>
    rw [scanned]
    cases hkept : keptNode config edges none rest.head? node with
    | some kept => exact List.cons_ne_nil _ _
    | none =>
      have helement : rest.head?.any Node.isElement = true := by
        simpa using (keptNode_eq_none hkept).2
      cases rest with
      | nil => cases helement
      | cons element rest =>
        rw [scanned, keptNode_of_chars?_eq_none (Node.chars?_of_isElement helement)]
        exact List.cons_ne_nil _ _

/-- **A finished body is the body, padded and swept**, with its texts trimmed before where
stripping is on. -/
theorem sweptByRows_finishedBody (config : Config) (edges : Directives) (body : List Node) :
    SweptByRows (padded (trimTexts (if config.stripping then some edges else none) none body))
      (finishedBody config edges body) := by
  rw [finishedBody_eq_trimTexts, finishedBody, padEnd_padStart]
  exact sweptByRows_scanned rfl

/-- **What finishing a program does to its body**, where stripping is off. An empty body
stays empty. Any other is padded at its live ends and swept row by row, and something is
left of it. Nothing else of the program changes. -/
theorem finish_sweeps_rows (config : Config) (p : Program)
    (hstripping : config.stripping = false) :
    (p.body = [] → (p.finish config).value = p) ∧
      (p.body ≠ [] → ∃ left, (p.finish config).value = { p with body := left } ∧ left ≠ [] ∧
        SweptByRows (padded p.body) left) := by
  rw [value_finish, Program.finished, finishedBody, padEnd_padStart]
  constructor
  · intro hempty
    obtain ⟨body, blockParams, strip, loc⟩ := p
    obtain rfl : body = [] := hempty
    rfl
  · intro hbody
    refine ⟨_, rfl, scanned_ne_nil ?_, sweptByRows_scanned hstripping⟩
    unfold padded
    simp [hbody]

/-- A paragraph between two rows, behind a live node. -/
def looseLines : Program :=
  .build [.buildMustache (.ofText "title") [] [] true, .emptyText, .emptyText,
    .element (.build "p" []), .emptyText, .emptyText, .ofText "end"] none

theorem finish_sweeps_rows_looseLines : looseLines.body ≠ [] ∧
    ∃ left, (looseLines.finish .default).value = { looseLines with body := left } ∧ left ≠ [] ∧
      SweptByRows (padded looseLines.body) left := by
  have hbody : looseLines.body ≠ [] := List.cons_ne_nil _ _
  exact ⟨hbody, (finish_sweeps_rows .default looseLines rfl).2 hbody⟩

example : (looseLines.finish .default).value.body.map Node.kind =
    [.text, .mustache, .text, .element, .text] := by
  decide

end MarkupTemplate
