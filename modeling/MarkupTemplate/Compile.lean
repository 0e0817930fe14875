import MarkupTemplate.Component.Convert
import MarkupTemplate.Tree.Siblings
/-!
# Compilation — a whole template in its normal form

Every program is finished after the programs inside it, and custom elements
become components on the way. A list in which an element was converted is spaced
anew, since the component is live where the element was not. A component in the
input has been finished before; only when something directly in its body was
converted is it finished again.
-/

namespace MarkupTemplate

/-- Space a normalized list anew if an element in it was converted. -/
def respace (before after : List Node) : Compiling (List Node) :=
  if before.any Node.isCustomElement then spaced after else pure after

/-- Finish a component's program again if an element in its body was converted. -/
def refinish (config : Config) (before : List Node) (program : Program) : Compiling Program :=
  if before.any Node.isCustomElement then program.finish config else pure program

/-- Turn an element with normalized children into a component, if its tag asks for
one. -/
def convertElement (config : Config) (element : Element) : Compiling Node :=
  if isCustomTag element.tag then do
    let component ← element.toComponent config
    pure (.component component)
  else
    pure (.element element)

mutual

/-- Normalize what a node contains, and the node itself if it is a custom element. -/
def Node.normalize (config : Config) : Node → Compiling Node
  | .block ⟨expression, program, inverse, openStrip, closeStrip, loc⟩ => do
    let program ← program.normalize config
    let inverse ← normalizeInverse config inverse
    pure (.block ⟨expression, program, inverse, openStrip, closeStrip, loc⟩)
  | .component ⟨tag, attributes, ⟨body, blockParams, strip, programLoc⟩, loc⟩ => do
    let normalized ← normalizeEach config body
    let spaced ← respace body normalized
    let program ← refinish config body ⟨spaced, blockParams, strip, programLoc⟩
    pure (.component ⟨tag, attributes, program, loc⟩)
  | .element ⟨tag, attributes, children, loc⟩ => do
    let normalized ← normalizeEach config children
    let spaced ← respace children normalized
    convertElement config ⟨tag, attributes, spaced, loc⟩
  | node => pure node

/-- Normalize nodes from left to right. -/
def normalizeEach (config : Config) : List Node → Compiling (List Node)
  | [] => pure []
  | node :: nodes => do
    let node ← node.normalize config
    let nodes ← normalizeEach config nodes
    pure (node :: nodes)

/-- Normalize the program of a block that is not always there. -/
def normalizeInverse (config : Config) : Option Program → Compiling (Option Program)
  | none => pure none
  | some program => do
    let program ← program.normalize config
    pure (some program)

/-- Normalize a program and every program inside it. -/
def Program.normalize (config : Config) : Program → Compiling Program
  | ⟨body, blockParams, strip, loc⟩ => do
    let normalized ← normalizeEach config body
    let spaced ← respace body normalized
    Program.finish config ⟨spaced, blockParams, strip, loc⟩

end

namespace CompileFault

/-- How a fault that ends a compilation is reported. -/
def event : CompileFault → Event
  | template fault => .rejectedTemplate fault
  | internal fault => .abortedCompilation fault

end CompileFault

/-- Run a computation, and report the fault that ends it. -/
def reporting {α : Type} (x : Compiling α) : Compiling α :=
  tryCatch x fun fault => do
    Traced.report fault.event
    throw fault

/-- Reporting a fault does not change the outcome. -/
@[simp]
theorem outcome_reporting {α : Type} (x : Compiling α) : outcome (reporting x) = outcome x := by
  obtain ⟨result, events⟩ := x
  cases result <;> rfl

namespace Program

/-- Compile one template: its normal form, or the fault that was reported. -/
def compile (config : Config) (program : Program) : Compiling Program :=
  reporting (program.normalize config)

/-- Compile templates one by one; no fault affects another template. -/
def compileEach (config : Config) (programs : List Program) :
    Traced (List (Except CompileFault Program)) :=
  programs.mapM fun program => (program.compile config).run

end Program

end MarkupTemplate
