import MarkupTemplate.Proofs.Registry.Equation
/-!
# The first fault — why a declaration is refused, and when it is not

`Declaration.Valid` is what the checks ask for: of the name, of each member, of each route
and of the template. `Declaration.FirstFault` has a case for each check, which says that
the checks before it pass. A declaration is refused for its first fault, and defines its
component if it is valid; the first hangs on the order of members and routes, and the second
does not.
-/

namespace MarkupTemplate

/-! ## Members -/

namespace Member

variable {component : String} {entry : String × Member} {fault : DefinitionFault}

/-- A member may be declared if it is a function where its name is that of a hook, and its
name is not inherited. -/
structure Allowed (entry : String × Member) : Prop where
  isFunction_of_hook : ∀ hook : Hook, entry.1 = hook.memberName → entry.2.isFunction = true
  not_inherited : entry.1 ∉ inheritedNames

/-- A member without fault may be declared. -/
theorem fault?_eq_none_iff : fault? component entry = none ↔ Allowed entry := by
  unfold fault?
  constructor
  · intro h
    split at h
    · cases h
    · rename_i hdata
      split at h
      · cases h
      · rename_i hinherited
        refine ⟨fun hook hkey => ?_, hinherited⟩
        cases hfunction : entry.2.isFunction with
        | true => rfl
        | false => exact absurd ⟨Hook.mem_memberNames_iff.mpr ⟨hook, hkey⟩, hfunction⟩ hdata
  · intro h
    have hdata : ¬ (entry.1 ∈ Hook.memberNames ∧ entry.2.isFunction = false) := by
      rintro ⟨hname, hfunction⟩
      obtain ⟨hook, hkey⟩ := Hook.mem_memberNames_iff.mp hname
      rw [h.isFunction_of_hook hook hkey] at hfunction
      cases hfunction
    rw [if_neg hdata, if_neg h.not_inherited]

/-- The fault of a member is that a hook is data, or that its name is inherited. -/
theorem fault?_eq_some_iff : fault? component entry = some fault ↔
    (∃ hook value, entry = (Hook.memberName hook, data value) ∧
        fault = .hookIsData component hook.memberName) ∨
      entry.1 ∈ inheritedNames ∧ fault = .inheritedName component entry.1 := by
  obtain ⟨key, member⟩ := entry
  unfold fault?
  constructor
  · intro h
    split at h
    · rename_i hdata
      obtain ⟨hname, hfunction⟩ := hdata
      obtain ⟨hook, hkey⟩ := Hook.mem_memberNames_iff.mp hname
      cases member with
      | data value =>
        obtain rfl : key = hook.memberName := hkey
        exact .inl ⟨hook, value, rfl, (Option.some.inj h).symm⟩
      | function => cases hfunction
    · split at h
      · rename_i hinherited
        exact .inr ⟨hinherited, (Option.some.inj h).symm⟩
      · cases h
  · rintro (⟨hook, value, hentry, rfl⟩ | ⟨hinherited, rfl⟩)
    · obtain ⟨rfl, rfl⟩ := Prod.mk.inj hentry
      exact if_pos ⟨Hook.mem_memberNames_iff.mpr ⟨hook, rfl⟩, rfl⟩
    · -- the member name of a hook is not inherited
      have hdata : ¬ (key ∈ Hook.memberNames ∧ member.isFunction = false) := by
        rintro ⟨hname, -⟩
        obtain ⟨hook, rfl⟩ := Hook.mem_memberNames_iff.mp hname
        exact not_mem_inheritedNames hook.memberName_mem_settingNames hinherited
      rw [if_neg hdata, if_pos hinherited]

end Member

/-- The map with its entries in the opposite order. -/
def OrderedMap.reversed {α β : Type} (m : OrderedMap α β) : OrderedMap α β where
  entries := m.entries.reverse
  nodup := by
    rw [List.map_reverse]
    exact (List.reverse_perm _).nodup_iff.mpr m.nodup

/-! ## Declarations -/

namespace Declaration

variable {d e : Declaration} {fault : DefinitionFault}

/-- A handler is a member that is a function and no computed property, under a name that is
no setting. -/
def Handles (d : Declaration) (handler : String) : Prop :=
  ∃ member, (handler, member) ∈ d.members.entries ∧ handler ∉ settingNames ∧
    member.isFunction = true ∧ member.isComputed = false

/-- The methods are the possible handlers. -/
theorem mem_methods_iff {name : String} : name ∈ d.methods ↔ d.Handles name := by
  simp only [methods, List.mem_filterMap, Member.method?, Option.ite_none_right_eq_some,
    Option.some.injEq, Prod.exists, Handles]
  constructor
  · rintro ⟨key, member, hmem, hmethod, rfl⟩
    exact ⟨member, hmem, hmethod⟩
  · rintro ⟨member, hmem, hmethod⟩
    exact ⟨name, member, hmem, hmethod, rfl⟩

/-- What the checks ask of a declaration. -/
structure Valid (d : Declaration) : Prop where
  dash : '-' ∈ d.name.toList
  allowed : ∀ entry ∈ d.members.entries, Member.Allowed entry
  handled : ∀ route ∈ d.routes.entries, d.Handles route.2
  template : d.template ≠ none ∧ d.template ≠ some ""

/-- The template of a valid declaration is that of its definition. -/
theorem Valid.template_eq (h : d.Valid) : d.template = some d.definition.template := by
  obtain ⟨text, htext⟩ := Option.ne_none_iff_exists'.mp h.template.1
  simp [definition, htext]

/-- The first fault of a declaration: each check is made when those before it pass, and the
members and the routes are checked in order. -/
inductive FirstFault (d : Declaration) : DefinitionFault → Prop where
  | name (hname : '-' ∉ d.name.toList) : FirstFault d (.nameWithoutDash d.name)
  | hook {before after : List (String × Member)} {hook : Hook} {value : Data}
      (hname : '-' ∈ d.name.toList)
      (hmembers : d.members.entries = before ++ (hook.memberName, .data value) :: after)
      (hbefore : ∀ entry ∈ before, Member.Allowed entry) :
      FirstFault d (.hookIsData d.name hook.memberName)
  | inherited {before after : List (String × Member)} {key : String} {member : Member}
      (hname : '-' ∈ d.name.toList)
      (hmembers : d.members.entries = before ++ (key, member) :: after)
      (hbefore : ∀ entry ∈ before, Member.Allowed entry) (hkey : key ∈ inheritedNames) :
      FirstFault d (.inheritedName d.name key)
  | route {before after : List (String × String)} {pattern handler : String}
      (hname : '-' ∈ d.name.toList)
      (hmembers : ∀ entry ∈ d.members.entries, Member.Allowed entry)
      (hroutes : d.routes.entries = before ++ (pattern, handler) :: after)
      (hbefore : ∀ route ∈ before, d.Handles route.2) (hhandler : ¬ d.Handles handler) :
      FirstFault d (.unhandledRoute d.name pattern handler)
  | template (hname : '-' ∈ d.name.toList)
      (hmembers : ∀ entry ∈ d.members.entries, Member.Allowed entry)
      (hroutes : ∀ route ∈ d.routes.entries, d.Handles route.2)
      (htemplate : d.template = none ∨ d.template = some "") : FirstFault d (.noTemplate d.name)

/-! ### The lists of faults -/

theorem nameFaults_eq_nil_iff : d.nameFaults = [] ↔ '-' ∈ d.name.toList := by
  simp [nameFaults]

theorem memberFaults_eq_nil_iff :
    d.memberFaults = [] ↔ ∀ entry ∈ d.members.entries, Member.Allowed entry := by
  simp only [memberFaults, List.filterMap_eq_nil_iff, Member.fault?_eq_none_iff]

theorem routeFaults_eq_nil_iff :
    d.routeFaults = [] ↔ ∀ route ∈ d.routes.entries, d.Handles route.2 := by
  simp only [routeFaults, List.map_eq_nil_iff, List.filter_eq_nil_iff, decide_eq_true_eq,
    Classical.not_not, mem_methods_iff]

theorem templateFaults_eq_nil_iff :
    d.templateFaults = [] ↔ d.template ≠ none ∧ d.template ≠ some "" := by
  simp [templateFaults]

/-- The fault of the members is that of the first one which may not be declared. -/
theorem head?_memberFaults_eq_some_iff : d.memberFaults.head? = some fault ↔
    ∃ before entry after, d.members.entries = before ++ entry :: after ∧
      Member.fault? d.name entry = some fault ∧ ∀ other ∈ before, Member.Allowed other := by
  simp only [memberFaults, List.head?_filterMap, List.findSome?_eq_some_iff,
    Member.fault?_eq_none_iff]

/-- The fault of the routes is that of the first one without its handler. -/
theorem head?_routeFaults_eq_some_iff : d.routeFaults.head? = some fault ↔
    ∃ before route after, d.routes.entries = before ++ route :: after ∧
      ¬ d.Handles route.2 ∧ (∀ other ∈ before, d.Handles other.2) ∧
        fault = .unhandledRoute d.name route.1 route.2 := by
  simp only [routeFaults, List.head?_map, List.head?_filter, Option.map_eq_some_iff,
    List.find?_eq_some_iff_append, decide_eq_true_eq, mem_methods_iff, Bool.not_eq_true',
    decide_eq_false_iff_not, Classical.not_not]
  constructor
  · rintro ⟨route, ⟨hhandler, before, after, hsplit, hbefore⟩, rfl⟩
    exact ⟨before, route, after, hsplit, hhandler, hbefore, rfl⟩
  · rintro ⟨before, route, after, hsplit, hhandler, hbefore, rfl⟩
    exact ⟨route, ⟨hhandler, before, after, hsplit, hbefore⟩, rfl⟩

/-- A declaration without fault is valid. -/
theorem faults_eq_nil_iff : d.faults = [] ↔ d.Valid := by
  simp only [faults, List.append_eq_nil_iff, nameFaults_eq_nil_iff, memberFaults_eq_nil_iff,
    routeFaults_eq_nil_iff, templateFaults_eq_nil_iff]
  constructor
  · rintro ⟨⟨⟨hname, hmembers⟩, hroutes⟩, htemplate⟩
    exact ⟨hname, hmembers, hroutes, htemplate⟩
  · intro h
    exact ⟨⟨⟨h.dash, h.allowed⟩, h.handled⟩, h.template⟩

/-- **The first of the faults is the first fault.** -/
theorem head?_faults_eq_some_iff : d.faults.head? = some fault ↔ d.FirstFault fault := by
  simp only [faults, List.head?_append, Option.or_assoc, Option.or_eq_some_iff,
    List.head?_eq_none_iff, nameFaults_eq_nil_iff, memberFaults_eq_nil_iff,
    routeFaults_eq_nil_iff]
  constructor
  · rintro (h | ⟨hname, h | ⟨hmembers, h | ⟨hroutes, h⟩⟩⟩)
    · unfold nameFaults at h
      split at h
      · cases h
      · rename_i hname
        obtain rfl := Option.some.inj h
        exact .name hname
    · obtain ⟨before, ⟨key, member⟩, after, hsplit, hfault, hbefore⟩ :=
        head?_memberFaults_eq_some_iff.mp h
      rcases Member.fault?_eq_some_iff.mp hfault with ⟨hook, value, hentry, rfl⟩ | ⟨hkey, rfl⟩
      · exact .hook hname (hentry ▸ hsplit) hbefore
      · exact .inherited hname hsplit hbefore hkey
    · obtain ⟨before, ⟨pattern, handler⟩, after, hsplit, hhandler, hbefore, rfl⟩ :=
        head?_routeFaults_eq_some_iff.mp h
      exact .route hname hmembers hsplit hbefore hhandler
    · unfold templateFaults at h
      split at h
      · rename_i htemplate
        obtain rfl := Option.some.inj h
        exact .template hname hmembers hroutes htemplate
      · cases h
  · intro h
    cases h with
    | name hname => exact .inl (by simp [nameFaults, hname])
    | hook hname hmembers hbefore =>
      refine .inr ⟨hname, .inl (head?_memberFaults_eq_some_iff.mpr ?_)⟩
      exact ⟨_, _, _, hmembers, Member.fault?_eq_some_iff.mpr (.inl ⟨_, _, rfl, rfl⟩), hbefore⟩
    | inherited hname hmembers hbefore hkey =>
      refine .inr ⟨hname, .inl (head?_memberFaults_eq_some_iff.mpr ?_)⟩
      exact ⟨_, _, _, hmembers, Member.fault?_eq_some_iff.mpr (.inr ⟨hkey, rfl⟩), hbefore⟩
    | route hname hmembers hroutes hbefore hhandler =>
      refine .inr ⟨hname, .inr ⟨hmembers, .inl (head?_routeFaults_eq_some_iff.mpr ?_)⟩⟩
      exact ⟨_, _, _, hroutes, hhandler, hbefore, rfl⟩
    | template hname hmembers hroutes htemplate =>
      exact .inr ⟨hname, .inr ⟨hmembers, .inr ⟨hroutes, by simp [templateFaults, htemplate]⟩⟩⟩

/-! ### Refusal and acceptance -/

/-- A declaration is refused for its first fault. -/
theorem ofDeclaration_eq_error_iff :
    Definition.ofDeclaration d = .error fault ↔ d.FirstFault fault := by
  rw [ofDeclaration_eq, ← head?_faults_eq_some_iff]
  cases d.faults.head? <;> simp

/-- **No declaration is refused for a name in use**: it is checked on its own. -/
theorem ofDeclaration_ne_nameTaken (d : Declaration) (name : String) :
    Definition.ofDeclaration d ≠ .error (.nameTaken name) := by
  intro h
  cases ofDeclaration_eq_error_iff.mp h

/-- A declaration that is accepted is valid, and defines its component. -/
theorem ofDeclaration_eq_ok_iff {definition : Definition} :
    Definition.ofDeclaration d = .ok definition ↔ d.Valid ∧ d.definition = definition := by
  rw [ofDeclaration_eq, ← faults_eq_nil_iff, ← List.head?_eq_none_iff]
  cases d.faults.head? <;> simp

/-! ### Order -/

/-- Declarations that differ at most in the order of members and routes. -/
structure Reorders (d e : Declaration) : Prop where
  name : d.name = e.name
  members : d.members.entries.Perm e.members.entries
  routes : d.routes.entries.Perm e.routes.entries
  template : d.template = e.template

theorem Reorders.symm (h : d.Reorders e) : e.Reorders d :=
  ⟨h.name.symm, h.members.symm, h.routes.symm, h.template.symm⟩

/-- The order of members does not matter to a handler. -/
theorem Reorders.handles (h : d.Reorders e) {handler : String} (hd : d.Handles handler) :
    e.Handles handler := by
  obtain ⟨member, hmem, hmethod⟩ := hd
  exact ⟨member, h.members.mem_iff.mp hmem, hmethod⟩

/-- **A valid declaration is valid in any order.** -/
theorem Reorders.valid (h : d.Reorders e) (hd : d.Valid) : e.Valid where
  dash := h.name ▸ hd.dash
  allowed entry hentry := hd.allowed entry (h.members.mem_iff.mpr hentry)
  handled route hroute := h.handles (hd.handled route (h.routes.mem_iff.mpr hroute))
  template := h.template ▸ hd.template

/-- A declaration that defines a component. -/
def Accepted (d : Declaration) : Prop :=
  ∃ definition, Definition.ofDeclaration d = .ok definition

/-- **A declaration is accepted if it is valid.** -/
theorem accepted_iff : d.Accepted ↔ d.Valid := by
  simp only [Accepted, ofDeclaration_eq_ok_iff, exists_and_left, exists_eq', and_true]

/-- A declaration with its members and its routes in the opposite order. -/
def reversed (d : Declaration) : Declaration :=
  { d with members := d.members.reversed, routes := d.routes.reversed }

theorem reorders_reversed (d : Declaration) : d.Reorders d.reversed :=
  ⟨rfl, (List.reverse_perm _).symm, (List.reverse_perm _).symm, rfl⟩

/-- A component with two members under inherited names. -/
def shoppingCart : Declaration where
  name := "shopping-cart"
  members := ⟨[("get", .function 1 true), ("clear", .function 0 false)], by decide⟩
  routes := .empty
  template := some "<ul></ul>"

/-- **A declaration is refused for its first fault, and accepted if it is valid.** So the
order of members and routes does not matter to acceptance, and it may matter to the fault. -/
theorem refused_for_first_fault :
    (∀ d fault, Definition.ofDeclaration d = .error fault ↔ d.FirstFault fault) ∧
      (∀ d : Declaration, d.Accepted ↔ d.Valid) ∧
      (∀ d e : Declaration, d.Reorders e → (d.Accepted ↔ e.Accepted)) ∧
      ∃ d e fault other, d.Reorders e ∧ Definition.ofDeclaration d = .error fault ∧
        Definition.ofDeclaration e = .error other ∧ fault ≠ other := by
  refine ⟨fun d fault => ofDeclaration_eq_error_iff, fun d => accepted_iff, ?_, ?_⟩
  · intro d e h
    rw [accepted_iff, accepted_iff]
    exact ⟨h.valid, h.symm.valid⟩
  · refine ⟨shoppingCart, shoppingCart.reversed, .inheritedName "shopping-cart" "get",
      .inheritedName "shopping-cart" "clear", reorders_reversed shoppingCart, ?_, ?_, by decide⟩
    · have hfirst : shoppingCart.faults.head? = some (.inheritedName "shopping-cart" "get") := by
        decide
      exact ofDeclaration_eq_error_iff.mpr (head?_faults_eq_some_iff.mp hfirst)
    · have hfirst : shoppingCart.reversed.faults.head? =
          some (.inheritedName "shopping-cart" "clear") := by
        decide
      exact ofDeclaration_eq_error_iff.mpr (head?_faults_eq_some_iff.mp hfirst)

/-- The data value of a text. -/
def textData (text : String) : Data :=
  ⟨.string text, rfl⟩

/-- The data value of the empty array. -/
def emptyData : Data :=
  ⟨.array [], rfl⟩

/-- A list of things to do. -/
def todoList : Declaration where
  name := "todo-list"
  members :=
    ⟨[("items", .data emptyData), ("title", .data (textData "Todos")),
      ("remaining", .function 0 true), ("addItem", .function 1 false),
      ("showItem", .function 1 false), ("createdCallback", .function 0 false),
      ("outlet", .data (textData "main"))], by decide⟩
  routes := ⟨[("items/:id", "showItem"), ("new", "addItem")], by decide⟩
  template := some "<ul><li>To do</li></ul>"

theorem ofDeclaration_todoList : Definition.ofDeclaration todoList = .ok todoList.definition :=
  ofDeclaration_eq_ok_iff.mpr ⟨faults_eq_nil_iff.mp (by decide), rfl⟩

/-- The list of things to do is accepted in the opposite order as well. -/
theorem refused_for_first_fault_todoList :
    todoList.Reorders todoList.reversed ∧ todoList.Accepted ∧ todoList.reversed.Accepted := by
  have hreorders : todoList.Reorders todoList.reversed := reorders_reversed todoList
  have haccepted : todoList.Accepted := ⟨todoList.definition, ofDeclaration_todoList⟩
  exact ⟨hreorders, haccepted, (refused_for_first_fault.2.2.1 _ _ hreorders).mp haccepted⟩

end Declaration

end MarkupTemplate
