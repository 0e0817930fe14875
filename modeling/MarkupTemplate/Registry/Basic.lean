import MarkupTemplate.Event
import MarkupTemplate.Registry.Definition
/-!
# The registry — components by name, each accepted once

A registry holds definitions in the order in which they were accepted. The same
definition may come again, without effect; a different one under a name in use is
refused.
-/

namespace MarkupTemplate

/-- Checked components by name. -/
structure Registry where
  definitions : OrderedMap String Definition

/-- How a definition was accepted: as a new component, or as one that the registry
holds already. -/
inductive Acceptance where
  | added (definition : Definition)
  | present (definition : Definition)

/-- The definition that the registry holds after an acceptance. -/
def Acceptance.definition : Acceptance → Definition
  | added definition => definition
  | present definition => definition

namespace Registry

/-- The registry without components. -/
def empty : Registry :=
  ⟨.empty⟩

/-- The definition under a name. -/
def get? (r : Registry) (name : String) : Option Definition :=
  r.definitions.get? name

/-- The names in use, in the order of acceptance. -/
def names (r : Registry) : List String :=
  r.definitions.keys

/-- The number of components. -/
def size (r : Registry) : Nat :=
  r.definitions.size

/-- The registry has no component. -/
def isEmpty (r : Registry) : Bool :=
  r.definitions.isEmpty

/-- How a definition was accepted, or why it was not, and the registry after it. -/
abbrev Answer := Except DefinitionFault Acceptance × Registry

/-- Accept a definition under its name. -/
def accept (r : Registry) (definition : Definition) : Traced Answer :=
  match r.get? definition.name with
  | some held =>
    if held.same definition then do
      Traced.report (.alreadyAccepted definition.name)
      pure (.ok (.present held), r)
    else
      pure (.error (.nameTaken definition.name), r)
  | none => do
    Traced.report (.accepted definition.name definition.defaults.size definition.methods.length)
    pure (.ok (.added definition), ⟨r.definitions.insert definition.name definition⟩)

/-- Check a declaration and accept the definition it makes. -/
def declare (r : Registry) (declaration : Declaration) : Traced Answer :=
  match Definition.ofDeclaration declaration with
  | .ok definition => r.accept definition
  | .error fault => pure (.error fault, r)

end Registry

end MarkupTemplate
