import MarkupTemplate.Error
/-!
# The operand stack — call sites, written and read at the top

One call site stands on the stack, from the bottom up, as the child ids of its
inverse and its program, its callee, a type and a value for each positional
argument, a key, a type and a value for each named one, and the number of these.
A typed read that meets a frame of another kind has removed it all the same.
-/

namespace MarkupTemplate.Call

/-- A stack of frames, the top one first. -/
structure Stack where
  frames : List Frame
deriving DecidableEq

/-- A computation that takes frames off a stack and may find a wrong one. -/
abbrev Taking := ExceptT InternalFault (StateM Stack)

namespace Stack

/-- The stack without frames. -/
def empty : Stack :=
  ⟨[]⟩

/-- The number of frames. -/
def size (s : Stack) : Nat :=
  s.frames.length

/-- The stack has no frame. -/
def isEmpty (s : Stack) : Bool :=
  s.frames.isEmpty

/-- The frames, the bottom one first. -/
def toList (s : Stack) : List Frame :=
  s.frames.reverse

/-! ## Writing -/

/-- Put a frame on top. -/
def push (s : Stack) (frame : Frame) : Stack :=
  ⟨frame :: s.frames⟩

/-- Put frames on top, one after the other. -/
def append (s : Stack) (frames : List Frame) : Stack :=
  ⟨frames.reverse ++ s.frames⟩

/-- The stack of the given frames, the bottom one first. -/
def ofList (frames : List Frame) : Stack :=
  ⟨frames.reverse⟩

/-- Start a call site with the child ids of its programs. -/
def openSite (s : Stack) (program inverse : Option UInt64) : Stack :=
  s.append [.child inverse, .child program]

/-- Add the callee. -/
def addCallee (s : Stack) (name : String) : Stack :=
  s.push (.callee name)

/-- Add a positional argument. -/
def addArg (s : Stack) (type : ArgType) (value : String) : Stack :=
  s.append [.type type, .value value]

/-- Add a named argument. -/
def addNamedArg (s : Stack) (key : String) (type : ArgType) (value : String) : Stack :=
  s.append [.key key, .type type, .value value]

/-- End a call site with the number of its named arguments. -/
def closeSite (s : Stack) (count : UInt64) : Stack :=
  s.push (.pairCount count)

/-! ## The frames after writing -/

@[simp]
theorem toList_empty : empty.toList = [] := rfl

@[simp]
theorem toList_push (s : Stack) (frame : Frame) : (s.push frame).toList = s.toList ++ [frame] := by
  simp [push, toList]

@[simp]
theorem toList_append (s : Stack) (frames : List Frame) :
    (s.append frames).toList = s.toList ++ frames := by
  simp [append, toList]

@[simp]
theorem toList_ofList (frames : List Frame) : (ofList frames).toList = frames := by
  simp [ofList, toList]

@[simp]
theorem ofList_toList (s : Stack) : ofList s.toList = s := by
  simp [ofList, toList]

@[simp]
theorem length_toList (s : Stack) : s.toList.length = s.size := by
  simp [toList, size]

/-! ## Reading -/

/-- Take the top frame off, which should hold what `content?` finds in it; `label`
says what it is read for. -/
def take {α : Type} (expected : Frame.Kind) (content? : Frame → Option α) (label : String) :
    Taking α := do
  match (← get).frames with
  | [] => throw (.underflow expected label)
  | frame :: rest =>
    set (Stack.mk rest)
    match content? frame with
    | some content => pure content
    | none => throw (.mismatch expected frame.kind label)

/-- Take off a child id. -/
def takeChild : String → Taking (Option UInt64) :=
  take .child fun frame => match frame with
    | .child id => some id
    | _ => none

/-- Take off a callee. -/
def takeCallee : String → Taking String :=
  take .callee fun frame => match frame with
    | .callee name => some name
    | _ => none

/-- Take off a type. -/
def takeType : String → Taking ArgType :=
  take .type fun frame => match frame with
    | .type type => some type
    | _ => none

/-- Take off a value. -/
def takeValue : String → Taking String :=
  take .value fun frame => match frame with
    | .value text => some text
    | _ => none

/-- Take off a key. -/
def takeKey : String → Taking String :=
  take .key fun frame => match frame with
    | .key text => some text
    | _ => none

/-- Take off the number of named arguments. -/
def takePairCount : String → Taking UInt64 :=
  take .pairCount fun frame => match frame with
    | .pairCount count => some count
    | _ => none

end Stack

end MarkupTemplate.Call
