import MarkupTemplate.Error
import MarkupTemplate.Text.Escaped
/-!
# Events — what the library reports while it works

An `Event` is a noteworthy step, with its level and its text. A `Traced` value
comes with the events of its making, oldest first, and `Compiling` adds the
possibility of a fault: the events up to the fault are kept.
-/

namespace MarkupTemplate

/-- How much an event matters. -/
inductive Level where
  | trace
  | debug
  | info
  | warn
  | error
deriving DecidableEq

/-- A noteworthy step. -/
inductive Event where
  | separated (left right : Node.Kind)
  | droppedEmptyText (index : Nat)
  | finishedProgram (statements : Nat) (blockParams : Option (List String))
  | rejectedTemplate (fault : TemplateFault)
  | abortedCompilation (fault : InternalFault)
  | emittedCall (callee : String) (args named : Nat)
  | accepted (name : String) (defaults methods : Nat)
  | alreadyAccepted (name : String)
deriving DecidableEq

namespace Event

/-- The level of an event. -/
def level : Event → Level
  | separated .. => .trace
  | droppedEmptyText _ => .trace
  | finishedProgram .. => .debug
  | rejectedTemplate _ => .warn
  | abortedCompilation _ => .error
  | emittedCall .. => .debug
  | accepted .. => .info
  | alreadyAccepted _ => .debug

/-- Optional block parameters as messages show them. -/
def blockParamsText : Option (List String) → String
  | none => "None"
  | some names => "Some(" ++ Text.escapeList names ++ ")"

/-- The text of an event. -/
def message : Event → String
  | separated left right =>
    "separating adjacent " ++ left.name ++ " and " ++ right.name ++ " with an empty text node"
  | droppedEmptyText index =>
    "dropping empty text node at " ++ toString index ++ " next to an element"
  | finishedProgram statements blockParams =>
    "normalized program: " ++ toString statements ++ " statement(s), block params " ++
      blockParamsText blockParams
  | rejectedTemplate fault => "template rejected: " ++ fault.message
  | abortedCompilation fault => "aborting template compilation: " ++ fault.message
  | emittedCall callee args named =>
    "lowered helper call " ++ callee ++ " (" ++ toString args ++ " param(s), " ++
      toString named ++ " hash pair(s))"
  | accepted name defaults methods =>
    "registered component " ++ name ++ " (" ++ toString defaults ++ " default(s), " ++
      toString methods ++ " method(s))"
  | alreadyAccepted name => "component " ++ name ++ " already registered"

end Event

/-- A value with the events of its making, oldest first. -/
structure Traced (α : Type) where
  value : α
  events : List Event

namespace Traced

variable {α β : Type}

instance : Monad Traced where
  pure a := ⟨a, []⟩
  bind x f := ⟨(f x.value).value, x.events ++ (f x.value).events⟩

@[simp]
theorem value_pure (a : α) : (pure a : Traced α).value = a := rfl

@[simp]
theorem events_pure (a : α) : (pure a : Traced α).events = [] := rfl

@[simp]
theorem value_bind (x : Traced α) (f : α → Traced β) : (x >>= f).value = (f x.value).value := rfl

@[simp]
theorem events_bind (x : Traced α) (f : α → Traced β) :
    (x >>= f).events = x.events ++ (f x.value).events := rfl

@[ext]
theorem ext {x y : Traced α} (hvalue : x.value = y.value) (hevents : x.events = y.events) :
    x = y := by
  cases x; cases y; simp_all

@[simp]
theorem value_map (f : α → β) (x : Traced α) : (f <$> x).value = f x.value := rfl

instance : LawfulMonad Traced :=
  LawfulMonad.mk' _
    (fun x => by apply ext <;> simp [Functor.map])
    (fun a f => by apply ext <;> simp)
    (fun x f g => by apply ext <;> simp)

/-- Report an event. -/
def report (event : Event) : Traced Unit :=
  ⟨(), [event]⟩

@[simp]
theorem value_report (event : Event) : (report event).value = () := rfl

@[simp]
theorem events_report (event : Event) : (report event).events = [event] := rfl

end Traced

/-- A traced computation that may end in a compile fault. -/
abbrev Compiling := ExceptT CompileFault Traced

/-- What a computation ends in, without its events. -/
def outcome {α : Type} (x : Compiling α) : Except CompileFault α :=
  x.run.value

section

variable {α β : Type}

@[simp]
theorem outcome_pure (a : α) : outcome (pure a) = .ok a := rfl

@[simp]
theorem outcome_throw (fault : CompileFault) : outcome (throw fault : Compiling α) = .error fault :=
  rfl

@[simp]
theorem outcome_lift (x : Traced α) : outcome (liftM x : Compiling α) = .ok x.value := rfl

@[simp]
theorem outcome_bind (x : Compiling α) (f : α → Compiling β) :
    outcome (x >>= f) = outcome x >>= fun a => outcome (f a) := by
  simp only [outcome, ExceptT.run_bind, Traced.value_bind]
  cases x.run.value <;> rfl

end

end MarkupTemplate
