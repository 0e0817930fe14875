import Mathlib.Data.List.Nodup
import Mathlib.Logic.ExistsUnique
import MarkupTemplate.Proofs.Map.Matching
import MarkupTemplate.Proofs.Registry.FirstFault
/-!
# Sorted members — each in one class, and every class in full

A definition keeps the members of a declaration in four lists, which leave out the
settings. `Declaration.Lists` says that a list has the names of the members of a kind, in
the order in which they are declared, and `Declaration.SortedInto` all that a definition
keeps of the declaration that it was made from.
-/

namespace MarkupTemplate

theorem MemberClass.default?_eq_some_iff {cls : MemberClass} {value : Data} :
    cls.default? = some value ↔ cls = .default value := by
  cases cls <;> simp [default?]

namespace Declaration

variable {d : Declaration} {definition : Definition} {key : String} {cls other : MemberClass}
variable {names others : List String} {kind otherKind : MemberKind}

/-- The declaration has a member of that name and class. -/
def HasMember (d : Declaration) (key : String) (cls : MemberClass) : Prop :=
  ∃ member, (key, member) ∈ d.members.entries ∧ Member.HasClass (key, member) cls

/-- The names are those of the members of a kind: in order of declaration, none left out and
none twice. -/
structure Lists (d : Declaration) (names : List String) (kind : MemberKind) : Prop where
  sublist : names.Sublist d.members.keys
  nodup : names.Nodup
  mem_iff : ∀ key, key ∈ names ↔ ∃ cls, d.HasMember key cls ∧ cls.kind = kind

/-- What a definition keeps of the declaration that it was made from. -/
structure SortedInto (d : Declaration) (definition : Definition) : Prop where
  existsUnique_class : ∀ key ∈ d.members.keys, ∃! cls, d.HasMember key cls
  hooks : d.Lists (definition.hooks.map Hook.memberName) .hook
  defaults : d.Lists definition.defaults.keys .default
  computed : d.Lists definition.computed .computed
  methods : d.Lists definition.methods .method
  default_value : ∀ key value, definition.defaults.get? key = some value ↔
    d.HasMember key (.default value)
  nodup_hooks : definition.hooks.Nodup
  disjoint : [definition.defaults.keys, definition.computed, definition.methods].Pairwise
    List.Disjoint
  name_is_free : ∀ names ∈ [definition.defaults.keys, definition.computed, definition.methods],
    ∀ name ∈ names, name ∉ inheritedNames ∧ name ∉ settingNames
  name : definition.name = d.name
  routes : definition.routes = d.routes
  template : d.template = some definition.template
  dash : '-' ∈ definition.name.toList
  template_ne : definition.template ≠ ""
  handled : ∀ route ∈ definition.routes.entries, route.2 ∈ definition.methods
  class_of_handler : ∀ route ∈ definition.routes.entries, ∀ cls,
    d.HasMember route.2 cls → cls.kind = .method

/-! ## Classes -/

/-- A member has one class. -/
theorem HasMember.unique (h : d.HasMember key cls) (h' : d.HasMember key other) : cls = other := by
  obtain ⟨member, hmem, hclass⟩ := h
  obtain ⟨member', hmem', hclass'⟩ := h'
  have hlookup : d.members.entries.lookup key = some member :=
    (lookup_eq_some_iff_mem d.members.nodup).mpr hmem
  have hlookup' : d.members.entries.lookup key = some member' :=
    (lookup_eq_some_iff_mem d.members.nodup).mpr hmem'
  obtain rfl : member = member' := Option.some.inj (hlookup.symm.trans hlookup')
  rw [Member.hasClass_iff.mp hclass, Member.hasClass_iff.mp hclass']

/-- **Every member has one class.** -/
theorem existsUnique_hasMember (hkey : key ∈ d.members.keys) : ∃! cls, d.HasMember key cls := by
  obtain ⟨⟨key, member⟩, hmem, rfl⟩ := List.mem_map.mp hkey
  have hclass : d.HasMember key (Member.classOf (key, member)) :=
    ⟨member, hmem, Member.hasClass_classOf (key, member)⟩
  exact ⟨_, hclass, fun other hother => hother.unique hclass⟩

/-- Only settings and hooks have the name of a setting. -/
theorem HasMember.not_mem_settingNames (h : d.HasMember key cls) (hsetting : cls.kind ≠ .setting)
    (hhook : cls.kind ≠ .hook) : key ∉ settingNames := by
  obtain ⟨member, -, hclass⟩ := h
  cases hclass with
  | hook => exact absurd rfl hhook
  | setting => exact absurd rfl hsetting
  | default value hkey => exact hkey
  | computed hkey => exact hkey
  | method hkey => exact hkey

/-! ## Lists -/

/-- Lists of members of different kinds have no name in common. -/
theorem Lists.disjoint (h : d.Lists names kind) (h' : d.Lists others otherKind)
    (hkind : kind ≠ otherKind) : names.Disjoint others := by
  intro key hkey hother
  obtain ⟨cls, hcls, rfl⟩ := (h.mem_iff key).mp hkey
  obtain ⟨cls', hcls', rfl⟩ := (h'.mem_iff key).mp hother
  exact hkind (congrArg MemberClass.kind (hcls.unique hcls'))

/-- The names of members other than settings and hooks are free, in a valid declaration. -/
theorem Lists.name_is_free (h : d.Lists names kind) (hvalid : d.Valid) (hsetting : kind ≠ .setting)
    (hhook : kind ≠ .hook) : ∀ name ∈ names, name ∉ inheritedNames ∧ name ∉ settingNames := by
  intro name hname
  obtain ⟨cls, hclass, rfl⟩ := (h.mem_iff name).mp hname
  refine ⟨?_, hclass.not_mem_settingNames hsetting hhook⟩
  obtain ⟨member, hmem, -⟩ := hclass
  exact (hvalid.allowed _ hmem).not_inherited

/-- **What is read off the members of a kind lists them.** -/
theorem lists_of_readsKind {β : Type} {read : String × Member → Option β} {name : β → String}
    (hread : Member.ReadsKind read name kind) :
    d.Lists ((d.members.entries.filterMap read).map name) kind := by
  have hsublist : ((d.members.entries.filterMap read).map name).Sublist d.members.keys :=
    d.map_filterMap_sublist_keys hread
  refine ⟨hsublist, hsublist.nodup d.members.nodup, fun key => ?_⟩
  rw [List.mem_map]
  constructor
  · rintro ⟨b, hb, rfl⟩
    obtain ⟨entry, hmem, hsome⟩ := List.mem_filterMap.mp hb
    have hclass : Member.HasClass entry (Member.classOf entry) := Member.hasClass_classOf entry
    by_cases hkind : (Member.classOf entry).kind = kind
    · obtain ⟨b', hsome', hname⟩ := hread.exists_eq_some hclass hkind
      obtain rfl := Option.some.inj (hsome.symm.trans hsome')
      exact ⟨_, ⟨entry.2, hname ▸ hmem, hname ▸ hclass⟩, hkind⟩
    · rw [hread.eq_none hclass hkind] at hsome
      cases hsome
  · rintro ⟨cls, ⟨member, hmem, hclass⟩, hkind⟩
    obtain ⟨b, hb, hname⟩ := hread.exists_eq_some hclass hkind
    exact ⟨b, List.mem_filterMap.mpr ⟨(key, member), hmem, hb⟩, hname⟩

theorem lists_hooks : d.Lists (d.hooks.map Hook.memberName) .hook :=
  lists_of_readsKind Member.readsKind_hook?

theorem lists_defaults : d.Lists (d.defaults.map Prod.fst) .default :=
  lists_of_readsKind Member.readsKind_default?

theorem lists_computed : d.Lists d.computed .computed := by
  have hlists : d.Lists (d.computed.map id) .computed :=
    lists_of_readsKind Member.readsKind_computed?
  rwa [List.map_id] at hlists

theorem lists_methods : d.Lists d.methods .method := by
  have hlists : d.Lists (d.methods.map id) .method := lists_of_readsKind Member.readsKind_method?
  rwa [List.map_id] at hlists

/-- A default value is that of its member. -/
theorem get?_defaults_eq_some_iff {value : Data} :
    d.definition.defaults.get? key = some value ↔ d.HasMember key (.default value) := by
  rw [OrderedMap.get?, lookup_eq_some_iff_mem d.definition.defaults.nodup,
    entries_definition_defaults, defaults, List.mem_filterMap]
  constructor
  · rintro ⟨entry, hmem, hdefault⟩
    have hclass : Member.HasClass entry (Member.classOf entry) := Member.hasClass_classOf entry
    rw [hclass.default?_eq] at hdefault
    obtain ⟨value', hvalue, hentry⟩ := Option.map_eq_some_iff.mp hdefault
    obtain ⟨rfl, rfl⟩ := Prod.mk.inj hentry
    rw [MemberClass.default?_eq_some_iff.mp hvalue] at hclass
    exact ⟨entry.2, hmem, hclass⟩
  · rintro ⟨member, hmem, hclass⟩
    exact ⟨(key, member), hmem, hclass.default?_eq⟩

/-! ## What a definition keeps -/

/-- **A definition sorts the members of its declaration.** Each has one class, and each list
has the members of its class: all of them, in order of declaration and once. The default
values are those of their members; the names of members that are listed are free, and none
is in two lists. The name, the routes and the template are those of the declaration, and the
handlers of routes are methods and nothing else. -/
theorem sortedInto_of_ok (h : Definition.ofDeclaration d = .ok definition) :
    d.SortedInto definition := by
  obtain ⟨hvalid, rfl⟩ := ofDeclaration_eq_ok_iff.mp h
  have hdefaults : d.Lists d.definition.defaults.keys .default := by
    rw [OrderedMap.keys, entries_definition_defaults]
    exact lists_defaults
  have hcomputed : d.Lists d.definition.computed .computed := lists_computed
  have hmethods : d.Lists d.definition.methods .method := lists_methods
  have hhandler : ∀ route ∈ d.routes.entries, route.2 ∈ d.methods := fun route hroute =>
    mem_methods_iff.mpr (hvalid.handled route hroute)
  have htemplate : d.template = some d.definition.template := hvalid.template_eq
  constructor
  case existsUnique_class => exact fun key hkey => existsUnique_hasMember hkey
  case hooks => exact lists_hooks
  case defaults => exact hdefaults
  case computed => exact hcomputed
  case methods => exact hmethods
  case default_value => exact fun key value => get?_defaults_eq_some_iff
  case nodup_hooks => exact List.Nodup.of_map _ lists_hooks.nodup
  case disjoint =>
    simp [hdefaults.disjoint hcomputed (by decide), hdefaults.disjoint hmethods (by decide),
      hcomputed.disjoint hmethods (by decide)]
  case name_is_free =>
    simp only [List.forall_mem_cons, List.not_mem_nil, false_imp_iff, forall_const, and_true]
    exact ⟨hdefaults.name_is_free hvalid (by decide) (by decide),
      hcomputed.name_is_free hvalid (by decide) (by decide),
      hmethods.name_is_free hvalid (by decide) (by decide)⟩
  case name => rfl
  case routes => rfl
  case template => exact htemplate
  case dash => exact hvalid.dash
  case template_ne =>
    intro hempty
    rw [hempty] at htemplate
    exact hvalid.template.2 htemplate
  case handled => exact hhandler
  case class_of_handler =>
    intro route hroute cls hcls
    obtain ⟨other, hother, hkind⟩ := (hmethods.mem_iff _).mp (hhandler route hroute)
    obtain rfl := hcls.unique hother
    exact hkind

/-- The list of things to do has two default values, a computed property and two methods. -/
theorem sortedInto_of_ok_todoList :
    Definition.ofDeclaration todoList = .ok todoList.definition ∧
      todoList.SortedInto todoList.definition ∧
      todoList.definition.defaults.keys = ["items", "title"] ∧
      todoList.definition.computed = ["remaining"] ∧
      todoList.definition.methods = ["addItem", "showItem"] ∧
      todoList.definition.hooks = [.created] := by
  have hok : Definition.ofDeclaration todoList = .ok todoList.definition := ofDeclaration_todoList
  exact ⟨hok, sortedInto_of_ok hok, by decide, by decide, by decide, by decide⟩

end Declaration

end MarkupTemplate
