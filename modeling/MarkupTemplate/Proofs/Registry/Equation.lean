import MarkupTemplate.Proofs.Registry.Classes
/-!
# The definition of a declaration — its faults, or its members class by class

`Declaration.faults` are all the faults of a declaration, in the order in which they are
looked for, and `Declaration.definition` is what it defines if it has none, each list of
members said on its own. `ofDeclaration_eq` is the equation from which the checks, the
classes of members and the sameness of definitions are read off.
-/

namespace MarkupTemplate

/-- **A run over a list ends with the first fault of an entry**, or has a result for each. -/
theorem mapM_eq_elim {α β ε : Type} {f : α → Except ε β} {fault? : α → Option ε} {g : α → β}
    (h : ∀ a, f a = (fault? a).elim (.ok (g a)) .error) (list : List α) :
    list.mapM f = (list.findSome? fault?).elim (.ok (list.map g)) .error := by
  induction list with
  | nil => rfl
  | cons a rest ih =>
    rw [List.mapM_cons, h, ih, List.findSome?_cons]
    cases fault? a with
    | some fault => rfl
    | none =>
      cases rest.findSome? fault? with
      | some fault => rfl
      | none => rfl

/-- What is kept of a list, as it is or as what it stands for, is there in its order. -/
theorem filterMap_sublist_map {α β : Type} {f : α → Option β} {g : α → β}
    (h : ∀ a, f a = none ∨ f a = some (g a)) (list : List α) :
    (list.filterMap f).Sublist (list.map g) := by
  induction list with
  | nil => exact .slnil
  | cons a rest ih =>
    rw [List.filterMap_cons, List.map_cons]
    rcases h a with ha | ha
    · rw [ha]
      exact ih.cons (g a)
    · rw [ha]
      exact ih.cons_cons (g a)

namespace Definition

/-- The names of members that satisfy a condition on their class. -/
theorem namesWhere_map {p : MemberClass → Bool} {name? : String × Member → Option String}
    (h : ∀ entry, name? entry = if p (Member.classOf entry) then some entry.1 else none)
    (members : List (String × Member)) :
    namesWhere p (members.map fun entry => (entry.1, Member.classOf entry)) =
      members.filterMap name? := by
  induction members with
  | nil => rfl
  | cons entry rest ih =>
    rw [List.filterMap_cons, h, ← ih]
    cases hp : p (Member.classOf entry) <;> simp [namesWhere, hp]

end Definition

namespace Declaration

variable (d : Declaration)

/-! ## The parts of a definition -/

/-- The default values that a component declares. -/
def defaults : List (String × Data) :=
  d.members.entries.filterMap Member.default?

/-- The names of the computed properties that a component declares. -/
def computed : List String :=
  d.members.entries.filterMap Member.computed?

/-- The names of the methods that a component declares. -/
def methods : List String :=
  d.members.entries.filterMap Member.method?

/-- The hooks that a component declares. -/
def hooks : List Hook :=
  d.members.entries.filterMap Member.hook?

/-- What a component defines if its declaration has no fault. -/
def definition : Definition :=
  { name := d.name
    defaults := .ofList d.defaults
    computed := d.computed
    methods := d.methods
    hooks := d.hooks
    routes := d.routes
    template := d.template.getD "" }

/-- The names of the members of a kind are names of members, in order. -/
theorem map_filterMap_sublist_keys {β : Type} {read : String × Member → Option β}
    {name : β → String} {kind : MemberKind} (hread : Member.ReadsKind read name kind) :
    ((d.members.entries.filterMap read).map name).Sublist d.members.keys := by
  rw [List.map_filterMap]
  refine filterMap_sublist_map (fun entry => ?_) d.members.entries
  have hclass : Member.HasClass entry (Member.classOf entry) := Member.hasClass_classOf entry
  by_cases hkind : (Member.classOf entry).kind = kind
  · obtain ⟨b, hb, hname⟩ := hread.exists_eq_some hclass hkind
    exact .inr (by rw [hb, Option.map_some, hname])
  · exact .inl (by rw [hread.eq_none hclass hkind, Option.map_none])

/-- The keys of the default values are different. -/
theorem nodup_keys_defaults : (d.defaults.map Prod.fst).Nodup :=
  (d.map_filterMap_sublist_keys Member.readsKind_default?).nodup d.members.nodup

/-- The default values that are declared are those of the definition. -/
theorem entries_definition_defaults : d.definition.defaults.entries = d.defaults :=
  OrderedMap.entries_ofList d.nodup_keys_defaults

/-! ## Faults -/

/-- The name has no dash. -/
def nameFaults : List DefinitionFault :=
  if '-' ∈ d.name.toList then [] else [.nameWithoutDash d.name]

/-- The members that may not be declared so, in order. -/
def memberFaults : List DefinitionFault :=
  d.members.entries.filterMap (Member.fault? d.name)

/-- The routes whose handlers are no methods, in order. -/
def routeFaults : List DefinitionFault :=
  (d.routes.entries.filter fun route => route.2 ∉ d.methods).map fun route =>
    .unhandledRoute d.name route.1 route.2

/-- There is no template, or an empty one. -/
def templateFaults : List DefinitionFault :=
  if d.template = none ∨ d.template = some "" then [.noTemplate d.name] else []

/-- All faults of a declaration: of its name, of its members, of its routes and of its
template. -/
def faults : List DefinitionFault :=
  d.nameFaults ++ d.memberFaults ++ d.routeFaults ++ d.templateFaults

/-- The members are sorted, or the first that may not be declared so is refused. -/
theorem classifyAll_eq : Member.classifyAll d.name d.members.entries =
    d.memberFaults.head?.elim
      (.ok (d.members.entries.map fun entry => (entry.1, Member.classOf entry))) .error := by
  rw [memberFaults, List.head?_filterMap]
  refine mapM_eq_elim (fun entry => ?_) d.members.entries
  rw [Member.classify_eq]
  cases Member.fault? d.name entry with
  | none => rfl
  | some fault => rfl

/-- The first route that is refused is the first one without its handler. -/
theorem head?_routeFaults : d.routeFaults.head? =
    (Definition.unhandled? d.methods d.routes).map fun route =>
      .unhandledRoute d.name route.1 route.2 := by
  simp only [routeFaults, Definition.unhandled?, List.head?_map, List.head?_filter,
    List.contains_eq_mem, decide_not]

/-- A template is used unless it is missing or empty. -/
theorem usable?_eq : Definition.usable? d.template =
    if d.template = none ∨ d.template = some "" then none else some (d.template.getD "") := by
  unfold Definition.usable?
  cases d.template with
  | none => rfl
  | some text => by_cases htext : text = "" <;> simp [Option.filter, htext]

/-- The default values are those of the sorted members. -/
theorem defaultsOf_map : Definition.defaultsOf
    (d.members.entries.map fun entry => (entry.1, Member.classOf entry)) = .ofList d.defaults := by
  rw [Definition.defaultsOf, List.filterMap_map]
  refine congrArg (fun f => OrderedMap.ofList (d.members.entries.filterMap f)) ?_
  exact funext fun entry => (Member.hasClass_classOf entry).default?_eq.symm

/-- The hooks are those of the sorted members. -/
theorem hooks_map :
    (d.members.entries.map fun entry => (entry.1, Member.classOf entry)).filterMap
      (fun entry => entry.2.hook?) = d.hooks := by
  rw [List.filterMap_map]
  refine congrArg d.members.entries.filterMap ?_
  exact funext fun entry => (Member.hasClass_classOf entry).hook?_eq.symm

/-- **A declaration is refused for its first fault, or else defines its component.** -/
theorem ofDeclaration_eq :
    Definition.ofDeclaration d = d.faults.head?.elim (.ok d.definition) .error := by
  have hmethods : Definition.namesWhere MemberClass.isMethod
      (d.members.entries.map fun entry => (entry.1, Member.classOf entry)) = d.methods :=
    Definition.namesWhere_map (fun entry => (Member.hasClass_classOf entry).method?_eq) _
  have hcomputed : Definition.namesWhere MemberClass.isComputed
      (d.members.entries.map fun entry => (entry.1, Member.classOf entry)) = d.computed :=
    Definition.namesWhere_map (fun entry => (Member.hasClass_classOf entry).computed?_eq) _
  simp only [Definition.ofDeclaration, isCustomTag, classifyAll_eq, faults, List.head?_append,
    head?_routeFaults]
  by_cases hdash : '-' ∈ d.name.toList
  · have hname : d.nameFaults = [] := if_pos hdash
    -- the checks are made in the order of the faults
    cases hmember : d.memberFaults.head? with
    | some fault => simp [hname, hdash, bind, Except.bind]
    | none =>
      simp only [Option.elim, bind, Except.bind, hmethods]
      cases hroute : Definition.unhandled? d.methods d.routes with
      | some route => simp [hname, hdash, throw, throwThe, MonadExceptOf.throw]
      | none =>
        rw [usable?_eq, defaultsOf_map, hcomputed, hooks_map]
        by_cases htemplate : d.template = none ∨ d.template = some ""
        · have hfaults : d.templateFaults = [.noTemplate d.name] := if_pos htemplate
          simp [hname, hdash, htemplate, hfaults, throw, throwThe, MonadExceptOf.throw]
        · have hfaults : d.templateFaults = [] := if_neg htemplate
          simp [hname, hdash, htemplate, hfaults, definition, pure, Except.pure]
  · have hname : d.nameFaults = [.nameWithoutDash d.name] := if_neg hdash
    simp [hname, hdash, bind, Except.bind, throw, throwThe, MonadExceptOf.throw]

end Declaration

end MarkupTemplate
