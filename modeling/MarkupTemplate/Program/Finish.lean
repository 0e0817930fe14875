import MarkupTemplate.Config
import MarkupTemplate.Event
import MarkupTemplate.Text.Blank
/-!
# Finishing a program — static edges and no idle text

A finished program begins and ends with a node that is not live, and no empty
text stands beside an element. Where directives are honoured, the neighbours of a
text decide in the same scan which of its ends are trimmed; the directives of the
program itself face its first and its last entry.
-/

namespace MarkupTemplate

/-- The body with an empty text in front of a live first entry. -/
def padStart (body : List Node) : List Node :=
  if body.head?.any Node.isLive then Node.emptyText :: body else body

/-- The body with an empty text behind a live last entry. -/
def padEnd (body : List Node) : List Node :=
  if body.getLast?.any Node.isLive then body ++ [Node.emptyText] else body

/-- The left end of a text is trimmed: its previous sibling has a directive that
faces right, or it comes first and the program has one that faces left. -/
def trimsStart (edges : Directives) (previous : Option Node) : Bool :=
  match previous with
  | some node => node.facing.contains .right
  | none => edges.contains .left

/-- The right end of a text is trimmed: its next sibling has a directive that faces
left, or it comes last and the program has one that faces right. -/
def trimsEnd (edges : Directives) (next : Option Node) : Bool :=
  match next with
  | some node => node.facing.contains .left
  | none => edges.contains .right

/-- The characters of a text between two siblings, with the ends trimmed that the
directives ask for. -/
def trimBetween (edges : Directives) (previous next : Option Node) (chars : String) : String :=
  let chars := if trimsStart edges previous then Text.trimStart chars else chars
  if trimsEnd edges next then Text.trimEnd chars else chars

/-- The characters that are kept of a text between two siblings. -/
def keptChars (config : Config) (edges : Directives) (previous next : Option Node)
    (chars : String) : String :=
  if config.stripping then trimBetween edges previous next chars else chars

/-- Scan the entries behind `previous`, the first of them at `index`: trim the texts,
and drop those that are empty beside an element. -/
def scanBody (config : Config) (edges : Directives) (previous : Option Node) (index : Nat) :
    List Node → Traced (List Node)
  | [] => pure []
  | .text chars loc :: rest => do
    let kept := keptChars config edges previous rest.head? chars
    if kept.isEmpty && (previous.any Node.isElement || rest.head?.any Node.isElement) then
      Traced.report (.droppedEmptyText index)
      scanBody config edges previous index rest
    else
      let scanned ← scanBody config edges (some (.text kept loc)) (index + 1) rest
      pure (.text kept loc :: scanned)
  | node :: rest => do
    let scanned ← scanBody config edges (some node) (index + 1) rest
    pure (node :: scanned)

namespace Program

/-- The program with static edges and no idle text; an empty one is left alone. -/
def finish (config : Config) (p : Program) : Traced Program :=
  if p.body.isEmpty then
    pure p
  else do
    let body ← scanBody config p.strip none 0 (padEnd (padStart p.body))
    Traced.report (.finishedProgram body.length p.blockParams)
    pure { p with body }

end Program

end MarkupTemplate
