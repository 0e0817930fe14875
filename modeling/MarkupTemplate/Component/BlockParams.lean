import MarkupTemplate.Error
/-!
# Block parameters — names bound by a run of attributes

A custom element binds names with attributes such as `as`, `|item`, `index|`:
the run that starts at the first attribute named `as`, if a bar opens the next
name. Joined by spaces, a well-formed run ends with a bar and has exactly two of
them. Only the names of attributes are looked at. The element and its program are
written to once the run has passed its checks, so that a refusal leaves both as they
were (`bindParams_refused`).
-/

namespace MarkupTemplate

/-- The attributes in front of the first one named `as`, and those from it on. -/
def splitAtAs (attributes : List Attr) : List Attr × List Attr :=
  attributes.span fun attr => attr.name != "as"

/-- The attribute's name opens a parameter list. -/
def Attr.opensParams (attr : Attr) : Bool :=
  attr.name.toList.head? == some '|'

/-- The attributes form a parameter run: the second one opens a list. -/
def isParamRun (run : List Attr) : Bool :=
  match run with
  | _ :: second :: _ => second.opensParams
  | _ => false

/-- The names of a run, joined by spaces. -/
def runText (run : List Attr) : String :=
  " ".intercalate (run.map Attr.name)

/-- The text of a run ends with a bar and has two of them. -/
def isClosedRun (text : String) : Bool :=
  text.toList.getLast? == some '|' && text.toList.count '|' == 2

/-- A name without its bars. -/
def withoutBars (name : String) : String :=
  String.ofList (name.toList.filter (· != '|'))

/-- The names that a run binds: those behind `as`, without bars and without empty
ones. -/
def runParams (run : List Attr) : List String :=
  ((run.drop 1).map fun attr => withoutBars attr.name).filter fun name => !name.isEmpty

/-- From the start of a run to its end, where both places are known. -/
def runSpan (run : List Attr) : Option Span := do
  let first ← run.head?
  let last ← run.getLast?
  pure ((← first.loc).through (← last.loc))

/-- A computation on an element and its program that may refuse the element; what it
has written by then stays. -/
abbrev Binding := ExceptT TemplateFault (StateM (Element × Program))

/-- Keep some attributes and bind the names of a run, if the text of the run is closed. -/
def bindRun (kept run : List Attr) : Binding Unit := do
  unless isClosedRun (runText run) do
    throw (.malformedParams (runText run) (runSpan run))
  modify fun (element, program) => ({ element with attributes := kept }, program)
  modify fun (element, program) => (element, { program with blockParams := runParams run })

/-- Take the parameter run out of the element's attributes and bind its names in the
program. Without a run nothing is done. -/
def bindParams : Binding Unit := do
  let (kept, run) := splitAtAs (← get).1.attributes
  if isParamRun run then
    bindRun kept run

section

variable {e : Element} {p : Program} {kept run : List Attr}

/-- A run is bound exactly if its text is closed, and nothing is written otherwise. -/
theorem run_bindRun : (bindRun kept run).run.run (e, p) =
    if isClosedRun (runText run) then
      (.ok (), { e with attributes := kept }, { p with blockParams := runParams run })
    else
      (.error (.malformedParams (runText run) (runSpan run)), e, p) := by
  unfold bindRun
  split <;> rfl

/-- What is bound is decided by the run that the attributes have. -/
theorem run_bindParams (h : splitAtAs e.attributes = (kept, run)) :
    bindParams.run.run (e, p) =
      if isParamRun run then (bindRun kept run).run.run (e, p) else (.ok (), e, p) := by
  have hsplit : bindParams.run.run (e, p) = (if isParamRun (splitAtAs e.attributes).2 then
      bindRun (splitAtAs e.attributes).1 (splitAtAs e.attributes).2 else pure ()).run.run (e, p) :=
    rfl
  rw [hsplit, h]
  split <;> rfl

/-- **A refusal leaves the element and the program as they were.** -/
theorem bindParams_refused {fault : TemplateFault} {held : Element × Program}
    (h : bindParams.run.run (e, p) = (.error fault, held)) : held = (e, p) := by
  rcases hsplit : splitAtAs e.attributes with ⟨kept, run⟩
  rw [run_bindParams hsplit, run_bindRun] at h
  split at h
  · split at h
    · cases h
    · exact (congrArg Prod.snd h).symm
  · cases h

end

namespace Element

/-- What is there after the attempt to take an element's parameter run: the fault of a
refused one, and what is left of the element and the program. -/
def attempt (e : Element) (p : Program) : Option TemplateFault × Element × Program :=
  match bindParams.run.run (e, p) with
  | (.ok (), held) => (none, held)
  | (.error fault, held) => (some fault, held)

/-- The element without its parameter run and the program with its names, if the run is
not refused. -/
def takeBlockParams (e : Element) (p : Program) : Except TemplateFault (Element × Program) :=
  match bindParams.run.run (e, p) with
  | (.ok (), held) => .ok held
  | (.error fault, _) => .error fault

variable {e : Element} {p : Program} {kept run : List Attr}

/-- What taking a run gives is decided by the run that the attributes have. -/
theorem takeBlockParams_eq (h : splitAtAs e.attributes = (kept, run)) : e.takeBlockParams p =
    if isParamRun run then
      if isClosedRun (runText run) then
        .ok ({ e with attributes := kept }, { p with blockParams := runParams run })
      else
        .error (.malformedParams (runText run) (runSpan run))
    else
      .ok (e, p) := by
  rw [takeBlockParams, run_bindParams h, run_bindRun]
  cases isParamRun run with
  | false => rfl
  | true => cases isClosedRun (runText run) <;> rfl

end Element

end MarkupTemplate
