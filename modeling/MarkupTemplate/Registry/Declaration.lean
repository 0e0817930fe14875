import MarkupTemplate.Json.Data
/-!
# Declarations — what a component says about itself

A component declares members, which are data or functions, routes from a pattern
to the name of a handler, and a template. The maps keep the order in which it
does so.
-/

namespace MarkupTemplate

/-- A callback in the life of a component. -/
inductive Hook where
  | created
  | attached
  | detached
deriving DecidableEq

namespace Hook

/-- All hooks. -/
def all : List Hook :=
  [created, attached, detached]

/-- The name of a hook. -/
def name : Hook → String
  | created => "created"
  | attached => "attached"
  | detached => "detached"

/-- The hook of that name. -/
def ofName? (text : String) : Option Hook :=
  all.find? fun hook => hook.name == text

/-- The name of the member that declares a hook. -/
def memberName (hook : Hook) : String :=
  hook.name ++ "Callback"

/-- The hook that a member of that name declares. -/
def ofMemberName? (text : String) : Option Hook :=
  all.find? fun hook => hook.memberName == text

end Hook

/-- A declared member. -/
inductive Member where
  | data (value : Data)
  | function (arity : UInt64) (returnsValue : Bool)

namespace Member

/-- The member is a function. -/
def isFunction : Member → Bool
  | data _ => false
  | function .. => true

/-- A function without arguments that returns a value is a computed property. -/
def isComputed : Member → Bool
  | data _ => false
  | function arity returnsValue => arity == 0 && returnsValue

end Member

/-- The declaration of a component. -/
structure Declaration where
  name : String
  members : OrderedMap String Member
  routes : OrderedMap String String
  template : Option String

end MarkupTemplate
