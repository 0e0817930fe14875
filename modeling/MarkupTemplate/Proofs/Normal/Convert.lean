import MarkupTemplate.Compile
import MarkupTemplate.Proofs.Normal.Scan
/-!
# Conversion — what becomes of an element

Taking the parameter run of an element looks at its attributes alone:
`runFault?` is what is wrong with them, `keptAttributes` and `boundNames` are what
is left of them and what they bind, and `takeBlockParams_build` is the equation.
`Element.invocation` is the component that an element stands for before its program
is finished, and `Element.converted` what conversion makes of an element.

`settle` puts a first fault and a value together, and `settle_bind` says that of two
steps in a row the first fault counts.
-/

namespace MarkupTemplate

/-! ## A first fault, or a value -/

/-- The outcome of a computation whose first fault, if any, is the given one. -/
def settle {α : Type} (fault? : Option TemplateFault) (value : α) : Except CompileFault α :=
  match fault? with
  | some fault => .error (.template fault)
  | none => .ok value

section

variable {α β : Type} {fault? fault?' : Option TemplateFault} {a b : α}

@[simp]
theorem settle_none (a : α) : settle none a = .ok a := rfl

@[simp]
theorem settle_some (fault : TemplateFault) (a : α) :
    settle (some fault) a = .error (.template fault) := rfl

/-- **Of two steps the first fault counts.** -/
theorem settle_bind (f : α → β) :
    (settle fault? a >>= fun a => settle fault?' (f a)) = settle (fault?.or fault?') (f a) := by
  cases fault? <;> rfl

/-- A step without faults changes the value. -/
theorem settle_bind_ok (f : α → β) :
    (settle fault? a >>= fun a => .ok (f a)) = settle fault? (f a) := by
  cases fault? <;> rfl

/-- A settled computation gives a result where there is no fault. -/
theorem settle_eq_ok_iff : settle fault? a = .ok b ↔ fault? = none ∧ a = b := by
  cases fault? <;> simp [settle]

end

/-! ## Parameter runs -/

/-- What is wrong with the parameter run of attributes. -/
def runFault? (attributes : List Attr) : Option TemplateFault :=
  match (Element.build "" attributes).takeBlockParams (.build [] none) with
  | .ok _ => none
  | .error fault => some fault

/-- The attributes that taking their parameter run leaves; a malformed run stays. -/
def keptAttributes (attributes : List Attr) : List Attr :=
  match (Element.build "" attributes).takeBlockParams (.build [] none) with
  | .ok (rest, _) => rest.attributes
  | .error _ => attributes

/-- The names that the parameter run of attributes binds, if there is one. -/
def boundNames (attributes : List Attr) : Option (List String) :=
  match (Element.build "" attributes).takeBlockParams (.build [] none) with
  | .ok (_, program) => program.blockParams
  | .error _ => none

/-- **Taking a parameter run reads the attributes alone.** -/
theorem takeBlockParams_build (e : Element) (body : List Node) :
    e.takeBlockParams (.build body none) =
      match runFault? e.attributes with
      | some fault => .error fault
      | none => .ok ({ e with attributes := keptAttributes e.attributes },
          .build body (boundNames e.attributes)) := by
  rcases hsplit : splitAtAs e.attributes with ⟨kept, run⟩
  have halone : splitAtAs (Element.build "" e.attributes).attributes = (kept, run) := hsplit
  unfold runFault? keptAttributes boundNames
  rw [Element.takeBlockParams_eq hsplit, Element.takeBlockParams_eq halone]
  by_cases hparams : isParamRun run = true
  · by_cases hclosed : isClosedRun (runText run) = true
    · simp [hparams, hclosed, Program.build]
    · simp [hparams, hclosed]
  · cases e
    simp [hparams, Element.build, Program.build]

namespace Element

/-- The component that an element stands for, before its program is finished: the
children are the body, and the parameter run binds the names. -/
def invocation (e : Element) : Component :=
  { tag := e.tag
    attributes := keptAttributes e.attributes
    program := .build e.children (boundNames e.attributes)
    loc := e.loc }

/-- What conversion makes of an element: the finished component if its tag asks for
one, or else the element. -/
def converted (config : Config) (e : Element) : Node :=
  if isCustomTag e.tag then
    .component { e.invocation with program := e.invocation.program.finished config }
  else
    .element e

/-- The fault of converting an element. -/
def fault? (e : Element) : Option TemplateFault :=
  if isCustomTag e.tag then runFault? e.attributes else none

end Element

/-- A component is made unless the parameter run is malformed. -/
theorem outcome_toComponent (config : Config) (e : Element) :
    outcome (e.toComponent config) = settle (runFault? e.attributes)
      { e.invocation with program := e.invocation.program.finished config } := by
  rw [Element.toComponent, takeBlockParams_build]
  cases runFault? e.attributes with
  | some fault => rfl
  | none =>
    simp only [outcome_bind, outcome_lift, outcome_pure, value_finish]
    rfl

/-- **The outcome of converting an element.** -/
theorem outcome_convertElement (config : Config) (e : Element) :
    outcome (convertElement config e) = settle e.fault? (e.converted config) := by
  unfold convertElement Element.fault? Element.converted
  by_cases htag : isCustomTag e.tag = true
  · simp only [htag, if_true, outcome_bind, outcome_toComponent, outcome_pure, settle_bind_ok]
  · simp [htag]

/-- What is left of an element by conversion is no custom element. -/
theorem isCustomElement_converted (config : Config) (e : Element) :
    (e.converted config).isCustomElement = false := by
  unfold Element.converted
  by_cases htag : isCustomTag e.tag = true
  · rw [if_pos htag]
    rfl
  · rw [if_neg htag]
    simpa [Node.isCustomElement] using htag

end MarkupTemplate
