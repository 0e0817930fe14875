import MarkupTemplate.Registry.Declaration
import MarkupTemplate.Tree.Basic
/-!
# Definitions — declarations that have been checked

A definition sorts the members of a declaration by their class. A declaration is
refused for the first of these faults: a name without a dash, a member that may
not be declared so, a route without a handler among the methods, no template.
-/

namespace MarkupTemplate

/-- Member names that every component has already. -/
def inheritedNames : List String :=
  ["trigger", "constructor", "get", "set", "has", "extend", "escape", "unset", "clear", "cid",
   "attributes", "changed", "toJSON", "validationError", "isValid", "isNew", "hasChanged",
   "changedAttributes", "previous", "previousAttributes"]

/-- Member names that are settings of a component and no part of its state. -/
def settingNames : List String :=
  ["routes", "template", "defaults", "outlet", "url", "urlRoot", "idAttribute", "id",
   "createdCallback", "attachedCallback", "detachedCallback"]

/-- Why a declaration is refused. -/
inductive DefinitionFault where
  | nameWithoutDash (name : String)
  | inheritedName (component name : String)
  | hookIsData (component hook : String)
  | unhandledRoute (component route handler : String)
  | noTemplate (component : String)
  | nameTaken (name : String)
deriving DecidableEq

namespace DefinitionFault

/-- The text of a fault. -/
def message : DefinitionFault → String
  | nameWithoutDash name => "component name '" ++ name ++ "' must contain a dash"
  | inheritedName component name => name ++ " is a reserved method name in " ++ component
  | hookIsData component hook => hook ++ " on the " ++ component ++ " component must be a function"
  | unhandledRoute component route handler =>
    "callback function " ++ handler ++ " for route '" ++ route ++ "' does not exist on the " ++
      component ++ " component"
  | noTemplate component => "template must be provided for the " ++ component ++ " component"
  | nameTaken name => "a different component named " ++ name ++ " is already registered"

end DefinitionFault

/-- What a declared member is to its component. -/
inductive MemberClass where
  | hook (hook : Hook)
  | setting
  | default (value : Data)
  | computed
  | method

namespace MemberClass

/-- The default value of a member that has one. -/
def default? : MemberClass → Option Data
  | default value => some value
  | _ => none

/-- The hook that a member declares. -/
def hook? : MemberClass → Option Hook
  | hook h => some h
  | _ => none

/-- The member is a computed property. -/
def isComputed : MemberClass → Bool
  | computed => true
  | _ => false

/-- The member is a method. -/
def isMethod : MemberClass → Bool
  | method => true
  | _ => false

end MemberClass

namespace Member

/-- The class of a member under its name, if it may be declared so. -/
def classify (component key : String) (member : Member) : Except DefinitionFault MemberClass :=
  if settingNames.contains key then
    match Hook.ofMemberName? key with
    | some hook =>
      if member.isFunction then .ok (.hook hook) else .error (.hookIsData component key)
    | none => .ok .setting
  else if inheritedNames.contains key then
    .error (.inheritedName component key)
  else
    match member with
    | .data value => .ok (.default value)
    | .function .. => .ok (if member.isComputed then .computed else .method)

/-- The members with their classes, in order, or the fault of the first that may not be
declared so. -/
def classifyAll (component : String) (members : List (String × Member)) :
    Except DefinitionFault (List (String × MemberClass)) :=
  members.mapM fun entry => (entry.2.classify component entry.1).map (entry.1, ·)

end Member

/-- A checked component. -/
structure Definition where
  name : String
  defaults : OrderedMap String Data
  computed : List String
  methods : List String
  hooks : List Hook
  routes : OrderedMap String String
  template : String

namespace Definition

/-- The names of the members whose class satisfies a condition. -/
def namesWhere (p : MemberClass → Bool) (members : List (String × MemberClass)) : List String :=
  (members.filter fun entry => p entry.2).map Prod.fst

/-- The default values among the members. -/
def defaultsOf (members : List (String × MemberClass)) : OrderedMap String Data :=
  .ofList (members.filterMap fun entry => entry.2.default?.map (entry.1, ·))

/-- The first route whose handler is not among the methods. -/
def unhandled? (methods : List String) (routes : OrderedMap String String) :
    Option (String × String) :=
  routes.entries.find? fun route => !methods.contains route.2

/-- A template that is there and not empty. -/
def usable? (template : Option String) : Option String :=
  template.filter fun text => !text.isEmpty

/-- The definition that a component declares, or the first fault. -/
def ofDeclaration (d : Declaration) : Except DefinitionFault Definition := do
  if !isCustomTag d.name then
    throw (.nameWithoutDash d.name)
  let members ← Member.classifyAll d.name d.members.entries
  let methods := namesWhere MemberClass.isMethod members
  match unhandled? methods d.routes with
  | some (route, handler) => throw (.unhandledRoute d.name route handler)
  | none =>
    match usable? d.template with
    | none => throw (.noTemplate d.name)
    | some template =>
      pure
        { name := d.name
          defaults := defaultsOf members
          computed := namesWhere MemberClass.isComputed members
          methods
          hooks := members.filterMap fun entry => entry.2.hook?
          routes := d.routes
          template }

/-- Two definitions are the same when they differ at most in the order of defaults and
routes, and of members inside a default value. -/
def same (d e : Definition) : Bool :=
  d.name == e.name && d.defaults.sameUpToOrder Data.same e.defaults &&
    d.computed == e.computed && d.methods == e.methods && d.hooks == e.hooks &&
    d.routes.sameUpToOrder (· == ·) e.routes && d.template == e.template

end Definition

end MarkupTemplate
