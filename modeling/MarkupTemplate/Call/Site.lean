import MarkupTemplate.Call.Literals
import MarkupTemplate.Call.Stack
import MarkupTemplate.Event
/-!
# Call sites — from frames to a call, from a call to source text

`Site.take` reads one call site off the stack, from its last frame to its first,
and `Site.emit` turns it into what code generation needs. Counts stand on the
stack or come from the caller and are not trusted: before a section is read, the
stack has to be large enough for it, and the number of frames that takes is computed in
words, with a check.
-/

namespace MarkupTemplate.Call

/-- A positional argument. -/
structure Arg where
  type : ArgType
  value : String
deriving DecidableEq

/-- A named argument. -/
structure NamedArg where
  key : String
  type : ArgType
  value : String
deriving DecidableEq

/-- A call, with its arguments in source order and the ids of its child
templates. -/
structure Site where
  callee : String
  args : List Arg
  named : List NamedArg
  program : Option UInt64
  inverse : Option UInt64
deriving DecidableEq

/-- A call as code generation reads it. -/
structure Emitted where
  callee : String
  args : String
  named : String
  children : List String
deriving DecidableEq

/-- Repeat a read; what is read last stands in front. -/
def takeTimes {α : Type} (x : Taking α) : Nat → Taking (List α)
  | 0 => pure []
  | n + 1 => do
    let content ← x
    let deeper ← takeTimes x n
    pure (deeper ++ [content])

/-- The product of two words, if it is a word. -/
def checkedMul (a b : UInt64) : Option UInt64 :=
  if a.toNat * b.toNat < UInt64.size then some (a * b) else none

/-- A product in words is the product of the numbers. -/
theorem checkedMul_eq_some_iff {a b c : UInt64} :
    checkedMul a b = some c ↔ a.toNat * b.toNat = c.toNat := by
  unfold checkedMul
  by_cases h : a.toNat * b.toNat < UInt64.size
  · rw [if_pos h, Option.some.injEq, ← UInt64.toNat_inj, UInt64.toNat_mul]
    rw [Nat.mod_eq_of_lt h]
  · have hc := c.toNat_lt_size
    rw [if_neg h]
    exact iff_of_false nofun (by omega)

/-- Fail unless `count` entries of `width` frames can be on the stack; a number of frames
that is no word is too large for it. -/
def expectEntries (count width : UInt64) (label : String) : Taking Unit := do
  let size := (← get).size
  match checkedMul count width with
  | some needed =>
    if size < needed.toNat then
      throw (.underflow .value label)
  | none => throw (.underflow .value label)

namespace Arg

/-- Read one positional argument. -/
def take : Taking Arg := do
  let value ← Stack.takeValue "positional param"
  let type ← Stack.takeType "positional param"
  pure { type, value }

end Arg

namespace NamedArg

/-- Read one named argument. -/
def take : Taking NamedArg := do
  let value ← Stack.takeValue "hash pair"
  let type ← Stack.takeType "hash pair"
  let key ← Stack.takeKey "hash pair"
  pure { key, type, value }

end NamedArg

namespace Site

/-- Read one call site with the given number of positional arguments. -/
def take (arity : UInt64) : Taking Site := do
  let pairs ← Stack.takePairCount "hash pair count"
  expectEntries pairs 3 "hash pair"
  let named ← takeTimes NamedArg.take pairs.toNat
  expectEntries arity 2 "positional param"
  let args ← takeTimes Arg.take arity.toNat
  let callee ← Stack.takeCallee "callee"
  let program ← Stack.takeChild "program template"
  let inverse ← Stack.takeChild "inverse template"
  pure { callee, args, named, program, inverse }

/-- The reference to a child template under a label, if there is one. -/
def childReference (label : String) : Option UInt64 → List String
  | some id => [label ++ ":child" ++ toString id]
  | none => []

/-- The references to the child templates, the program's before the inverse's. -/
def children (site : Site) : List String :=
  childReference "template" site.program ++ childReference "inverse" site.inverse

/-- The call with its arguments as literals. -/
def emit (literals : Literals) (site : Site) : Emitted :=
  { callee := site.callee
    args := literals.array (site.args.map Arg.value)
    named := literals.object (site.named.map fun arg => (arg.key, arg.value))
    children := site.children }

end Site

namespace Stack

/-- What emitting a call answers, and the stack after it. -/
abbrev Answer := Except InternalFault Emitted × Stack

/-- Read one call site and emit it. -/
def emitSite (literals : Literals) (arity : UInt64) (s : Stack) : Traced Answer :=
  match (Site.take arity).run.run s with
  | (.ok site, rest) => do
    Traced.report (.emittedCall site.callee site.args.length site.named.length)
    pure (.ok (site.emit literals), rest)
  | (.error fault, rest) => pure (.error fault, rest)

/-- Emit a call for a template, and report the fault that ends its compilation. -/
def compileSite (literals : Literals) (arity : UInt64) (s : Stack) : Traced Answer := do
  let (result, rest) ← s.emitSite literals arity
  match result with
  | .ok call => pure (.ok call, rest)
  | .error fault =>
    Traced.report (.abortedCompilation fault)
    pure (.error fault, rest)

end Stack

end MarkupTemplate.Call
