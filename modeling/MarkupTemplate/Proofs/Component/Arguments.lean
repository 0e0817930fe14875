import Mathlib.Data.List.Forall2
import MarkupTemplate.Component.Arguments
import MarkupTemplate.Proofs.Component.Runs
import MarkupTemplate.Proofs.Normal.Rows
/-!
# Attributes and arguments — each attribute is used once

The attributes of a custom element go two ways: those in front of the parameter run become
arguments of the component, and the run binds names. `Splits` says where the list is cut
and what the run binds, and `Node.PassedAs` how a value is passed. Both are met by what
conversion leaves (`splits_keptAttributes`, `passedAs_toArgument`), so that no attribute
is lost or used twice (`arguments_of_toComponent`). The children are the body, padded and
swept as every finished body is.
-/

namespace MarkupTemplate

/-- A parameter run starts behind the given attributes: `first` is the first attribute
named `as`, and the name of the one behind it begins with a bar. -/
structure StartsRun (attributes before : List Attr) (first second : Attr) (rest : List Attr) :
    Prop where
  attributes_eq : attributes = before ++ first :: second :: rest
  before_ne : ∀ attr ∈ before, attr.name ≠ "as"
  first_eq : first.name = "as"
  opens : second.name.toList.head? = some '|'

/-- **How attributes are split**: the ones that are passed on, and the names that the
parameter run behind them binds. -/
inductive Splits (attributes : List Attr) : List Attr → Option (List String) → Prop
  /-- Without a run all attributes are passed on. -/
  | whole : (¬ ∃ before first second rest, StartsRun attributes before first second rest) →
      Splits attributes attributes none
  /-- A run binds the names behind `as`, without bars and without empty ones. -/
  | run {before : List Attr} {first second : Attr} {rest : List Attr} :
      StartsRun attributes before first second rest →
      Splits attributes before
        (some (((second :: rest).map fun attr => withoutBars attr.name).filter fun name =>
          !name.isEmpty))

/-- The call of a helper with positional arguments alone. -/
def helperCall (helper : String) (params : List Node) : Node :=
  .subExpression { expression := { path := .ofText helper, params, hash := [] }, loc := none }

/-- **How a value is passed**: a text as a string, a subexpression as it is, the parts of a
concatenation to the concat helper, and any other value alone to the concat helper. -/
inductive Node.PassedAs (config : Config) : Node → Node → Prop
  | text (chars : String) (loc : Option Span) :
      PassedAs config (.text chars loc) (.string chars none)
  | subExpression (e : SubExpression) : PassedAs config (.subExpression e) (.subExpression e)
  | concat (parts : List Node) (loc : Option Span) :
      PassedAs config (.concat parts loc) (helperCall config.concatHelper parts)
  | single {value : Node} : value.kind ≠ .text → value.kind ≠ .subExpression →
      value.kind ≠ .concat → PassedAs config value (helperCall config.concatHelper [value])

variable {config : Config} {attributes : List Attr}

/-! ## Splitting attributes -/

/-- **The code's test for a run finds the runs that start.** -/
theorem isParamRun_splitAtAs_iff : isParamRun (splitAtAs attributes).2 = true ↔
    ∃ before first second rest, StartsRun attributes before first second rest := by
  constructor
  · intro h
    rcases forall_ne_or_exists_first attributes with
      hnone | ⟨before, first, rest, rfl, hbefore, hfirst⟩
    · rw [splitAtAs_of_forall_ne hnone] at h
      cases h
    · rw [splitAtAs_append hbefore hfirst] at h
      cases rest with
      | nil => cases h
      | cons second rest =>
        exact ⟨before, first, second, rest, rfl, hbefore, hfirst, isParamRun_cons_cons_iff.mp h⟩
  · rintro ⟨before, first, second, rest, rfl, hbefore, hfirst, hopens⟩
    rw [splitAtAs_append hbefore hfirst]
    exact isParamRun_cons_cons_iff.mpr hopens

/-- **What conversion leaves of attributes, and what it binds**, if their run is not
malformed. -/
theorem splits_keptAttributes (h : runFault? attributes = none) :
    Splits attributes (keptAttributes attributes) (boundNames attributes) := by
  unfold runFault? at h
  unfold keptAttributes boundNames
  cases hrun : isParamRun (splitAtAs attributes).2 with
  | false =>
    have hnone : ¬ ∃ before first second rest, StartsRun attributes before first second rest := by
      rw [← isParamRun_splitAtAs_iff, hrun]
      exact Bool.false_ne_true
    rw [takeBlockParams_of_no_run hrun]
    exact .whole hnone
  | true =>
    obtain ⟨before, first, second, rest, rfl, hbefore, hfirst, hopens⟩ :=
      isParamRun_splitAtAs_iff.mp hrun
    cases hclosed : isClosedRun (" ".intercalate ((first :: second :: rest).map Attr.name)) with
    | false =>
      -- such a run is malformed
      rw [takeBlockParams_of_run rfl hbefore hfirst hopens,
        if_neg (ne_true_of_eq_false hclosed)] at h
      cases h
    | true =>
      rw [takeBlockParams_of_run rfl hbefore hfirst hopens, if_pos hclosed]
      exact .run ⟨rfl, hbefore, hfirst, hopens⟩

/-! ## Passing values -/

/-- **A value is passed as its kind asks.** -/
theorem passedAs_toArgument (value : Node) : value.PassedAs config (value.toArgument config) := by
  cases value with
  | text chars loc => exact .text chars loc
  | subExpression e => exact .subExpression e
  | concat parts loc => exact .concat parts loc
  | _ => exact .single nofun nofun nofun

/-- **No attribute of a custom element is lost or used twice.** Of the component that an
element becomes, there is one argument for each attribute in front of the parameter run, or
for each one if there is no run: with its name, in its place, and with its value passed as
its kind asks. The names that the run binds are the parameters of the program, and the
children are the body that is finished: padded at its ends and swept row by row, with the
texts trimmed before where stripping is on. The tag and the place stay. -/
theorem arguments_of_toComponent (config naming : Config) (e : Element) (c : Component)
    (h : outcome (e.toComponent config) = .ok c) :
    ∃ passed names, Splits e.attributes passed names ∧
      List.Forall₂ (fun attr argument =>
          argument.key = attr.name ∧ attr.value.PassedAs naming argument.value)
        passed (c.arguments naming) ∧
      c.program.blockParams = names ∧
      c.program = ((Program.build e.children names).finish config).value ∧
      SweptByRows
        (padded (trimTexts (if config.stripping then some .empty else none) none e.children))
        c.program.body ∧
      c.tag = e.tag ∧ c.loc = e.loc := by
  rw [outcome_toComponent] at h
  obtain ⟨hfault, rfl⟩ := settle_eq_ok_iff.mp h
  refine ⟨keptAttributes e.attributes, boundNames e.attributes, splits_keptAttributes hfault, ?_,
    rfl, (value_finish config _).symm, sweptByRows_finishedBody config .empty e.children, rfl, rfl⟩
  refine List.forall₂_map_right_iff.mpr (List.forall₂_same.mpr ?_)
  intro attr _
  exact ⟨rfl, passedAs_toArgument attr.value⟩

/-- A custom element with a value of each kind, a repeated name and a parameter run. -/
def cardElement : Element :=
  { tag := "x-card"
    attributes :=
      [.build "title" (.ofText "Today"),
        .build "size" (.subExpression (.build (.ofText "fit") [.ofText "wide"] [])),
        .build "class" (.ofParts [.ofText "card ", .buildMustache (.ofText "tone") [] [] true]),
        .build "open" (.buildMustache (.ofText "isOpen") [] [] true),
        .build "title" (.ofText "Tomorrow"),
        .build "as" (.ofText ""), .build "|item" (.ofText ""), .build "index|" (.ofText "")]
    children := [.buildMustache (.ofText "item") [] [] true]
    loc := none }

theorem arguments_of_toComponent_cardElement :
    ∃ c, outcome (cardElement.toComponent .default) = .ok c ∧
      ∃ passed names, Splits cardElement.attributes passed names ∧
        List.Forall₂ (fun attr argument =>
            argument.key = attr.name ∧ attr.value.PassedAs .default argument.value)
          passed (c.arguments .default) ∧
        c.program.blockParams = names ∧
        c.program = ((Program.build cardElement.children names).finish .default).value ∧
        SweptByRows (padded (trimTexts (if Config.default.stripping then some .empty else none) none
          cardElement.children)) c.program.body ∧
        c.tag = "x-card" ∧ c.loc = none :=
  ⟨_, rfl, arguments_of_toComponent .default .default cardElement _ rfl⟩

example : (outcome (cardElement.toComponent .default)).map (fun c =>
      ((c.arguments .default).map Pair.key, c.program.blockParams)) =
    .ok (["title", "size", "class", "open", "title"], some ["item", "index"]) := by
  rfl

end MarkupTemplate
