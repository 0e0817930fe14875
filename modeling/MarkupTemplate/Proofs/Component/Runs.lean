import Mathlib.Data.List.Chain
import Mathlib.Data.List.TakeDrop
import Mathlib.Data.List.TakeWhile
import MarkupTemplate.Proofs.Component.ParamList
import MarkupTemplate.Tree.Build
/-!
# Parameter runs — which names are taken, and which are passed over

`Element.attempt` is what a caller holds after the attempt to take the parameter run of
an element, refused or not; a refusal comes before anything is written (`attempt_refused`).
The run starts at the first attribute named `as`, and the names behind it decide
(`attempt_param_run`): the words of a parameter list are bound, any other run is refused as
a whole, and without a run nothing changes.

Only that first attribute is tried. So a run is heeded if no attribute in front of it is
named `as`, and is passed over otherwise (`heedsRun_iff`).
-/

namespace MarkupTemplate

/-- No attribute named `as` is followed at once by one whose name begins with a bar. -/
def RunFree (attributes : List Attr) : Prop :=
  attributes.IsChain fun left right =>
    ¬ (left.name = "as" ∧ right.name.toList.head? = some '|')

instance (attributes : List Attr) : Decidable (RunFree attributes) := by
  unfold RunFree
  infer_instance

/-- From the start of one attribute to the end of another, in the source of the first,
where both places are known. -/
def spanOver (first last : Attr) : Option Span :=
  match first.loc, last.loc with
  | some opening, some closing =>
    some { start := opening.start, stop := closing.stop, source := opening.source }
  | _, _ => none

variable {words : List String} {attributes before rest : List Attr} {first second : Attr}

/-! ## Where a run starts -/

theorem splitAtAs_eq (attributes : List Attr) : splitAtAs attributes =
    (attributes.takeWhile fun attr => attr.name != "as",
      attributes.dropWhile fun attr => attr.name != "as") :=
  List.span_eq_takeWhile_dropWhile _ attributes

/-- **A run starts at the first attribute named `as`.** -/
theorem splitAtAs_append (hbefore : ∀ attr ∈ before, attr.name ≠ "as")
    (hfirst : first.name = "as") :
    splitAtAs (before ++ first :: rest) = (before, first :: rest) := by
  have hnames : ∀ attr ∈ before, (attr.name != "as") = true := fun attr h => by
    simpa using hbefore attr h
  rw [splitAtAs_eq, List.takeWhile_append_of_pos hnames, List.dropWhile_append_of_pos hnames]
  simp [hfirst]

/-- Without an attribute named `as` there is no run. -/
theorem splitAtAs_of_forall_ne (h : ∀ attr ∈ attributes, attr.name ≠ "as") :
    splitAtAs attributes = (attributes, []) := by
  have hnames : ∀ attr ∈ attributes, (attr.name != "as") = true := fun attr hattr => by
    simpa using h attr hattr
  rw [splitAtAs_eq, List.takeWhile_eq_self_iff.mpr hnames, List.dropWhile_eq_nil_iff.mpr hnames]

/-- Attributes have none of that name, or a first one. -/
theorem forall_ne_or_exists_first (attributes : List Attr) :
    (∀ attr ∈ attributes, attr.name ≠ "as") ∨
      ∃ before first rest, attributes = before ++ first :: rest ∧
        (∀ attr ∈ before, attr.name ≠ "as") ∧ first.name = "as" := by
  induction attributes with
  | nil => exact .inl nofun
  | cons attr attributes ih =>
    by_cases hname : attr.name = "as"
    · exact .inr ⟨[], attr, attributes, rfl, nofun, hname⟩
    · rcases ih with hnone | ⟨before, first, rest, rfl, hbefore, hfirst⟩
      · exact .inl (List.forall_mem_cons.mpr ⟨hname, hnone⟩)
      · exact .inr ⟨attr :: before, first, rest, rfl,
          List.forall_mem_cons.mpr ⟨hname, hbefore⟩, hfirst⟩

/-- The second attribute of a parameter run has a name that begins with a bar. -/
theorem isParamRun_cons_cons_iff :
    isParamRun (first :: second :: rest) = true ↔ second.name.toList.head? = some '|' :=
  beq_iff_eq

/-- What stands around the start of a run, in attributes without one. -/
theorem RunFree.not_opens (h : RunFree (before ++ first :: second :: rest))
    (hfirst : first.name = "as") : second.name.toList.head? ≠ some '|' := by
  obtain ⟨-, hpair, -⟩ := List.isChain_append_cons_cons.mp h
  exact fun hsecond => hpair ⟨hfirst, hsecond⟩

/-- Without an attribute named `as` there is no run. -/
theorem runFree_of_forall_ne (h : ∀ attr ∈ attributes, attr.name ≠ "as") :
    RunFree attributes := by
  induction attributes with
  | nil => exact .nil
  | cons attr attributes ih =>
    obtain ⟨hattr, hrest⟩ := List.forall_mem_cons.mp h
    cases attributes with
    | nil => exact .singleton attr
    | cons next rest => exact .cons_cons (fun hpair => hattr hpair.1) (ih hrest)

/-- **Without a parameter run, the first attribute named `as` opens none.** -/
theorem isParamRun_splitAtAs_of_runFree (h : RunFree attributes) :
    isParamRun (splitAtAs attributes).2 = false := by
  rcases forall_ne_or_exists_first attributes with
    hnone | ⟨before, first, rest, rfl, hbefore, hfirst⟩
  · rw [splitAtAs_of_forall_ne hnone]
    rfl
  · rw [splitAtAs_append hbefore hfirst]
    cases rest with
    | nil => rfl
    | cons second rest =>
      rw [← Bool.not_eq_true, isParamRun_cons_cons_iff]
      exact h.not_opens hfirst

/-- **An earlier attribute named `as` hides a run behind it.** -/
theorem isParamRun_splitAtAs_of_hidden (h : RunFree before)
    (has : ∃ attr ∈ before, attr.name = "as") (hfirst : first.name = "as") :
    isParamRun (splitAtAs (before ++ first :: rest)).2 = false := by
  rcases forall_ne_or_exists_first before with
    hnone | ⟨front, earlier, between, rfl, hfront, hearlier⟩
  · obtain ⟨attr, hattr, hname⟩ := has
    exact absurd hname (hnone attr hattr)
  · rw [List.append_assoc, List.cons_append, splitAtAs_append hfront hearlier,
      ← Bool.not_eq_true]
    cases between with
    | nil =>
      -- the name that would have to open the list is `as`
      rw [List.nil_append, isParamRun_cons_cons_iff, hfirst]
      decide
    | cons second between =>
      rw [List.cons_append, isParamRun_cons_cons_iff]
      exact h.not_opens hearlier

/-! ## Taking a run -/

variable {e : Element} {p : Program}

/-- **A refused attempt leaves the element and the program as they were.** -/
theorem attempt_refused {fault : TemplateFault} (h : e.takeBlockParams p = .error fault) :
    e.attempt p = (some fault, e, p) := by
  unfold Element.takeBlockParams at h
  unfold Element.attempt
  rcases hrun : bindParams.run.run (e, p) with ⟨refused | taken, held⟩
  · rw [hrun] at h
    cases h
    rw [bindParams_refused hrun]
  · rw [hrun] at h
    cases h

/-- An attempt that is not refused leaves what it has taken. -/
theorem attempt_taken {rest : Element} {bound : Program}
    (h : e.takeBlockParams p = .ok (rest, bound)) : e.attempt p = (none, rest, bound) := by
  unfold Element.takeBlockParams at h
  unfold Element.attempt
  rcases hrun : bindParams.run.run (e, p) with ⟨refused | taken, held⟩
  · rw [hrun] at h
    cases h
  · rw [hrun] at h
    cases h
    rfl

/-- Where the attributes split off no run, nothing is taken. -/
theorem takeBlockParams_of_no_run (h : isParamRun (splitAtAs e.attributes).2 = false) :
    e.takeBlockParams p = .ok (e, p) := by
  rcases hsplit : splitAtAs e.attributes with ⟨kept, run⟩
  rw [hsplit] at h
  rw [Element.takeBlockParams_eq hsplit, if_neg (ne_true_of_eq_false h)]

/-- So the attempt changes nothing. -/
theorem attempt_of_no_run (h : isParamRun (splitAtAs e.attributes).2 = false) :
    e.attempt p = (none, e, p) :=
  attempt_taken (takeBlockParams_of_no_run h)

/-- The span of a run goes from its first attribute to its last. -/
theorem runSpan_eq : runSpan (first :: second :: rest) =
    spanOver first ((second :: rest).getLast (List.cons_ne_nil second rest)) := by
  have hlast : (first :: second :: rest).getLast? =
      some ((second :: rest).getLast (List.cons_ne_nil second rest)) := by
    rw [List.getLast?_cons_cons, List.getLast?_eq_some_getLast]
  unfold runSpan spanOver
  rw [hlast, List.head?_cons]
  cases hstart : first.loc <;>
    cases hstop : ((second :: rest).getLast (List.cons_ne_nil second rest)).loc <;>
    simp [hstart, hstop, Span.through]

section

variable (hattributes : e.attributes = before ++ first :: second :: rest)
variable (hbefore : ∀ attr ∈ before, attr.name ≠ "as") (hfirst : first.name = "as")
variable (hsecond : second.name.toList.head? = some '|')

include hattributes hbefore hfirst hsecond

/-- What is done with a run is decided by its text. -/
theorem takeBlockParams_of_run : e.takeBlockParams p =
    if isClosedRun (" ".intercalate ((first :: second :: rest).map Attr.name)) then
      .ok ({ e with attributes := before },
        { p with blockParams := runParams (first :: second :: rest) })
    else
      .error (.malformedParams (" ".intercalate ((first :: second :: rest).map Attr.name))
        (spanOver first ((second :: rest).getLast (List.cons_ne_nil second rest)))) := by
  have hsplit : splitAtAs e.attributes = (before, first :: second :: rest) := by
    rw [hattributes]
    exact splitAtAs_append hbefore hfirst
  have hrun : isParamRun (first :: second :: rest) = true := isParamRun_cons_cons_iff.mpr hsecond
  rw [Element.takeBlockParams_eq hsplit, if_pos hrun, ← runText, ← runSpan_eq]

/-- A run with a closed text is taken. -/
theorem attempt_of_closed
    (h : isClosedRun (" ".intercalate ((first :: second :: rest).map Attr.name)) = true) :
    e.attempt p = (none, { e with attributes := before },
      { p with blockParams := runParams (first :: second :: rest) }) := by
  refine attempt_taken ?_
  rw [takeBlockParams_of_run hattributes hbefore hfirst hsecond, if_pos h]

/-- Any other run is refused. -/
theorem attempt_of_not_closed
    (h : isClosedRun (" ".intercalate ((first :: second :: rest).map Attr.name)) = false) :
    e.attempt p = (some (.malformedParams
        (" ".intercalate ((first :: second :: rest).map Attr.name))
        (spanOver first ((second :: rest).getLast (List.cons_ne_nil second rest)))), e, p) := by
  refine attempt_refused ?_
  rw [takeBlockParams_of_run hattributes hbefore hfirst hsecond, if_neg (ne_true_of_eq_false h)]

/-- **The words of a parameter list are bound**, those that are not empty. -/
theorem attempt_of_isParamList (h : IsParamList ((second :: rest).map Attr.name) words) :
    e.attempt p = (none, { e with attributes := before },
      { p with blockParams := words.filter fun word => !word.isEmpty }) := by
  have hclosed :
      isClosedRun (" ".intercalate ((first :: second :: rest).map Attr.name)) = true := by
    rw [List.map_cons, hfirst]
    exact h.isClosedRun
  have hparams : runParams (first :: second :: rest) = words.filter fun word => !word.isEmpty := by
    rw [← h.map_withoutBars, List.map_map]
    rfl
  rw [attempt_of_closed hattributes hbefore hfirst hsecond hclosed, hparams]

/-- **Any other run is refused**, with its text and its span. -/
theorem attempt_of_not_isParamList
    (h : ¬ ∃ words, IsParamList ((second :: rest).map Attr.name) words) :
    e.attempt p = (some (.malformedParams
        (" ".intercalate ((first :: second :: rest).map Attr.name))
        (spanOver first ((second :: rest).getLast (List.cons_ne_nil second rest)))), e, p) := by
  refine attempt_of_not_closed hattributes hbefore hfirst hsecond ?_
  rw [List.map_cons] at h
  rw [← Bool.not_eq_true, List.map_cons, List.map_cons, hfirst, isClosedRun_iff hsecond]
  exact h

end

/-- **What taking a parameter run does.** Without a run nothing changes. If the first
attribute named `as` is followed by a name that begins with a bar, then the run is taken
exactly if the names behind `as` are a parameter list: the attributes in front of it are
left, the words that are not empty are bound, and a second attempt changes nothing. Any
other run is refused with its text and its span, and changes nothing. -/
theorem attempt_param_run (e : Element) (p : Program) :
    (RunFree e.attributes → e.attempt p = (none, e, p)) ∧
    ∀ before first second rest, e.attributes = before ++ first :: second :: rest →
      (∀ attr ∈ before, attr.name ≠ "as") → first.name = "as" →
      second.name.toList.head? = some '|' →
      ((e.attempt p).1 = none ↔ ∃ words, IsParamList ((second :: rest).map Attr.name) words) ∧
      (∀ words, IsParamList ((second :: rest).map Attr.name) words →
        ∃ taken bound, taken = { e with attributes := before } ∧
          bound = { p with blockParams := some (words.filter fun word => !word.isEmpty) } ∧
          e.attempt p = (none, taken, bound) ∧ taken.attempt bound = (none, taken, bound)) ∧
      ((¬ ∃ words, IsParamList ((second :: rest).map Attr.name) words) →
        e.attempt p = (some (.malformedParams
          (" ".intercalate ((first :: second :: rest).map Attr.name))
          (spanOver first ((second :: rest).getLast (List.cons_ne_nil second rest)))), e, p)) := by
  refine ⟨fun h => attempt_of_no_run (isParamRun_splitAtAs_of_runFree h), ?_⟩
  intro before first second rest hattributes hbefore hfirst hsecond
  have htaken {words : List String} (h : IsParamList ((second :: rest).map Attr.name) words) :=
    attempt_of_isParamList (p := p) hattributes hbefore hfirst hsecond h
  have hrefused := attempt_of_not_isParamList (p := p) hattributes hbefore hfirst hsecond
  refine ⟨⟨fun h => ?_, ?_⟩, fun words h => ?_, hrefused⟩
  · by_contra hnone
    rw [hrefused hnone] at h
    cases h
  · rintro ⟨words, h⟩
    rw [htaken h]
  · refine ⟨_, _, rfl, rfl, htaken h, ?_⟩
    -- no attribute named `as` is left
    exact attempt_of_no_run
      (isParamRun_splitAtAs_of_runFree (runFree_of_forall_ne hbefore))

/-- A custom element with attributes of these names, each in a line of its own. -/
def listElement (names : List String) : Element :=
  let place (i : Nat) : Span :=
    { start := ⟨.ofNat i, 0⟩, stop := ⟨.ofNat i, 9⟩, source := some "list" }
  let attributes := names.mapIdx fun i name =>
    { name, value := .ofText "", loc := some (place i) }
  .build "x-list" attributes

theorem attempt_param_run_listElement :
    (listElement ["id", "class"]).attempt (.build [] none) =
        (none, listElement ["id", "class"], .build [] none) ∧
      (listElement ["id", "as", "|item", "index|"]).attempt (.build [] none) =
        (none, listElement ["id"], .build [] (some ["item", "index"])) ∧
      (listElement ["id", "as", "|a|", "|b|"]).attempt (.build [] none) =
        (some (.malformedParams "as |a| |b|" (some ⟨⟨1, 0⟩, ⟨3, 9⟩, some "list"⟩)),
          listElement ["id", "as", "|a|", "|b|"], .build [] none) := by
  refine ⟨?_, ?_, ?_⟩
  · exact (attempt_param_run (listElement ["id", "class"]) (.build [] none)).1 (by decide)
  · have hwords : IsParamList ["|item", "index|"] ["item", "index"] :=
      @IsParamList.several "item" "index" [] (by decide) nofun (by decide)
    obtain ⟨-, htaken, -⟩ :=
      (attempt_param_run (listElement ["id", "as", "|item", "index|"]) (.build [] none)).2
        (listElement ["id"]).attributes _ _ _ rfl (by decide) rfl rfl
    obtain ⟨taken, bound, rfl, rfl, h, -⟩ := htaken _ hwords
    exact h
  · have hmalformed : ¬ ∃ words, IsParamList ["|a|", "|b|"] words := by
      rw [← isClosedRun_iff rfl]
      decide
    obtain ⟨-, -, hrefused⟩ :=
      (attempt_param_run (listElement ["id", "as", "|a|", "|b|"]) (.build [] none)).2
        (listElement ["id"]).attributes _ _ _ rfl (by decide) rfl rfl
    exact hrefused hmalformed

/-! ## Runs that are passed over -/

/-- The run behind some attributes is not passed over: it is refused as a whole, with
the element and the program left as they were, or it is taken, with the attributes in
front of it left and the names behind `as` bound, without bars and without empty ones. -/
def Element.HeedsRun (e : Element) (p : Program) (before run : List Attr) : Prop :=
  (∃ span, e.attempt p =
    (some (.malformedParams (" ".intercalate (run.map Attr.name)) span), e, p)) ∨
  e.attempt p = (none, { e with attributes := before },
    { p with blockParams := some (((run.drop 1).map fun attr => withoutBars attr.name).filter
      fun name => !name.isEmpty) })

/-- **Which runs are passed over.** The first run of an element is taken or refused
exactly if no attribute in front of it is named `as`; if one is, the run is passed over,
and its names stay among the attributes. -/
theorem heedsRun_iff (e : Element) (p : Program) (before : List Attr) (first second : Attr)
    (rest : List Attr) (hattributes : e.attributes = before ++ first :: second :: rest)
    (hnone : RunFree before) (hfirst : first.name = "as")
    (hsecond : second.name.toList.head? = some '|') :
    (e.HeedsRun p before (first :: second :: rest) ↔ ∀ attr ∈ before, attr.name ≠ "as") ∧
      ((∃ attr ∈ before, attr.name = "as") → e.attempt p = (none, e, p)) := by
  have hhidden : (∃ attr ∈ before, attr.name = "as") → e.attempt p = (none, e, p) := by
    intro has
    refine attempt_of_no_run ?_
    rw [hattributes]
    exact isParamRun_splitAtAs_of_hidden hnone has hfirst
  refine ⟨⟨fun hheeds attr hattr hname => ?_, fun hbefore => ?_⟩, hhidden⟩
  · -- an attempt that changes nothing neither refuses the run nor takes it
    have hattempt := hhidden ⟨attr, hattr, hname⟩
    rcases hheeds with ⟨span, hrefused⟩ | htaken
    · rw [hattempt] at hrefused
      cases hrefused
    · rw [hattempt] at htaken
      have hsame : e.attributes = before := congrArg (fun held => held.2.1.attributes) htaken
      rw [hattributes] at hsame
      exact List.cons_ne_nil _ _ (List.append_right_eq_self.mp hsame)
  · cases hclosed : isClosedRun (" ".intercalate ((first :: second :: rest).map Attr.name)) with
    | false => exact .inl ⟨_, attempt_of_not_closed hattributes hbefore hfirst hsecond hclosed⟩
    | true => exact .inr (attempt_of_closed hattributes hbefore hfirst hsecond hclosed)

theorem heedsRun_iff_listElement :
    (listElement ["id", "as", "|item|"]).HeedsRun (.build [] none) (listElement ["id"]).attributes
        ((listElement ["id", "as", "|item|"]).attributes.drop 1) ∧
      (listElement ["as", "id", "as", "|item|"]).attempt (.build [] none) =
        (none, listElement ["as", "id", "as", "|item|"], .build [] none) := by
  constructor
  · exact (heedsRun_iff (listElement ["id", "as", "|item|"]) (.build [] none)
      (listElement ["id"]).attributes _ _ _ rfl (by decide) rfl rfl).1.mpr (by decide)
  · exact (heedsRun_iff (listElement ["as", "id", "as", "|item|"]) (.build [] none)
      (listElement ["as", "id"]).attributes _ _ _ rfl (by decide) rfl rfl).2 (by decide)

/-- **A run can be passed over without a fault**: an earlier attribute named `as` hides
the parameter `item`. -/
theorem not_forall_heedsRun :
    ¬ ∀ (e : Element) (p : Program) (before : List Attr) (first second : Attr)
        (rest : List Attr),
      e.attributes = before ++ first :: second :: rest → RunFree before →
      first.name = "as" → second.name.toList.head? = some '|' →
      e.HeedsRun p before (first :: second :: rest) := by
  intro h
  have hheeds := h (listElement ["as", "as", "|item|"]) (.build [] none)
    (listElement ["as"]).attributes _ _ _ rfl (by decide) rfl rfl
  rcases hheeds with ⟨span, hrefused⟩ | htaken
  · cases hrefused
  · cases htaken

end MarkupTemplate
