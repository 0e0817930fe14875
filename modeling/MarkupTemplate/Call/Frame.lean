/-!
# Frames — what stands on the operand stack

A helper call is described by frames of six kinds. The type of an argument is
what the expression in it is known to be.
-/

namespace MarkupTemplate.Call

/-- The static type of an argument. -/
inductive ArgType where
  | id
  | string
  | number
  | boolean
  | sexpr
  | null
  | undefined
deriving DecidableEq

namespace ArgType

/-- All types. -/
def all : List ArgType :=
  [id, string, number, boolean, sexpr, null, undefined]

/-- The name of a type. -/
def name : ArgType → String
  | id => "id"
  | string => "string"
  | number => "number"
  | boolean => "boolean"
  | sexpr => "sexpr"
  | null => "null"
  | undefined => "undefined"

/-- The type of that name. -/
def ofName? (text : String) : Option ArgType :=
  all.find? fun type => type.name == text

end ArgType

/-- A frame of a call site. -/
inductive Frame where
  | child (id : Option UInt64)
  | callee (name : String)
  | type (type : ArgType)
  | value (text : String)
  | key (text : String)
  | pairCount (count : UInt64)
deriving DecidableEq

namespace Frame

/-- The kinds of frame. -/
inductive Kind where
  | child
  | callee
  | type
  | value
  | key
  | pairCount
deriving DecidableEq

namespace Kind

/-- All kinds. -/
def all : List Kind :=
  [child, callee, type, value, key, pairCount]

/-- A kind as messages call it. -/
def description : Kind → String
  | child => "child template id"
  | callee => "callee name"
  | type => "type tag"
  | value => "value"
  | key => "hash key"
  | pairCount => "hash pair count"

end Kind

/-- The kind of a frame. -/
def kind : Frame → Kind
  | child _ => .child
  | callee _ => .callee
  | type _ => .type
  | value _ => .value
  | key _ => .key
  | pairCount _ => .pairCount

end Frame

end MarkupTemplate.Call
