import MarkupTemplate.Component.BlockParams
import MarkupTemplate.Program.Finish
import MarkupTemplate.Tree.Build
/-!
# Components — custom elements with their content finished

A custom element that has been closed becomes a component: its children are the
program's body, its parameter run binds the program's names, and the program, now
complete, is finished.
-/

namespace MarkupTemplate.Element

/-- The component that an element stands for. -/
def toComponent (config : Config) (element : Element) : Compiling Component :=
  match element.takeBlockParams (.build element.children none) with
  | .error fault => throw (.template fault)
  | .ok (rest, program) => do
    let program ← program.finish config
    pure
      { tag := element.tag
        attributes := rest.attributes
        program
        loc := element.loc }

end MarkupTemplate.Element
