import Mathlib.Logic.Relation
import MarkupTemplate.Proofs.Registry.FirstFault
import MarkupTemplate.Proofs.Registry.History
/-!
# Declared again — when a second declaration is the one that is held

A registry compares the definitions of two declarations. `Declaration.Alike` says of the
declarations themselves what they must agree in, and `Immaterial` lists the changes that
members can undergo without any effect: of a signature within its class, of settings, and of
the order of members that differ in class.
-/

namespace MarkupTemplate

/-! ## Declarations that agree -/

namespace Declaration

variable {s t : Declaration}

/-- Two declarations agree: in their default values under each key, in whatever order, in
their routes in whatever order, in their template, and in the names of their computed
properties, of their methods and in their hooks, in order. -/
structure Alike (s t : Declaration) : Prop where
  keys : (s.defaults.map Prod.fst).Perm (t.defaults.map Prod.fst)
  values : ∀ key value other, (key, value) ∈ s.defaults → (key, other) ∈ t.defaults →
    Json.Alike value.json other.json
  routes : ∀ pattern, s.routes.get? pattern = t.routes.get? pattern
  template : s.template = t.template
  computed : s.computed = t.computed
  methods : s.methods = t.methods
  hooks : s.hooks = t.hooks

/-- **Valid declarations under one name define the same if they agree.** -/
theorem same_definition_iff (hs : s.Valid) (ht : t.Valid) (hname : s.name = t.name) :
    s.definition.same t.definition = true ↔ s.Alike t := by
  have hdefaults : (∀ key, MatchAt Data.same s.defaults t.defaults key) ↔
      (s.defaults.map Prod.fst).Perm (t.defaults.map Prod.fst) ∧
        ∀ key value other, (key, value) ∈ s.defaults → (key, other) ∈ t.defaults →
          Json.Alike value.json other.json := by
    simp only [forall_matchAt_iff s.nodup_keys_defaults t.nodup_keys_defaults, Data.same,
      Json.same_iff_alike (Data.plain _) (Data.plain _)]
  have htemplate : s.definition.template = t.definition.template ↔ s.template = t.template := by
    rw [hs.template_eq, ht.template_eq, Option.some.injEq]
  rw [Definition.same_iff, entries_definition_defaults, entries_definition_defaults, hdefaults,
    htemplate]
  constructor
  · rintro ⟨-, ⟨hkeys, hvalues⟩, hcomputed, hmethods, hhooks, hroutes, htemplate⟩
    exact ⟨hkeys, hvalues, hroutes, htemplate, hcomputed, hmethods, hhooks⟩
  · intro h
    exact ⟨hname, ⟨h.keys, h.values⟩, h.computed, h.methods, h.hooks, h.routes, h.template⟩

end Declaration

/-! ## Changes without effect -/

/-- A change of members that has no effect: a function takes another number of arguments or
returns a value or none, and keeps its class; a setting is dropped; two members of different
classes change places. -/
inductive Immaterial : List (String × Member) → List (String × Member) → Prop where
  | signature {before after : List (String × Member)} {key : String} {arity arity' : UInt64}
      {returnsValue returnsValue' : Bool} {cls : MemberClass}
      (h : Member.HasClass (key, .function arity returnsValue) cls)
      (h' : Member.HasClass (key, .function arity' returnsValue') cls) :
      Immaterial (before ++ (key, .function arity returnsValue) :: after)
        (before ++ (key, .function arity' returnsValue') :: after)
  | setting {before after : List (String × Member)} {entry : String × Member}
      (h : Member.HasClass entry .setting) :
      Immaterial (before ++ entry :: after) (before ++ after)
  | swap {before after : List (String × Member)} {entry other : String × Member}
      {cls cls' : MemberClass} (h : Member.HasClass entry cls) (h' : Member.HasClass other cls')
      (hkind : cls.kind ≠ cls'.kind) :
      Immaterial (before ++ entry :: other :: after) (before ++ other :: entry :: after)

section

variable {β : Type} {read : String × Member → Option β} {name : β → String} {kind : MemberKind}
variable {members others : List (String × Member)}

/-- **A change without effect leaves what is read off a kind**, unless it is that of the
settings. -/
theorem Immaterial.filterMap_eq (h : Immaterial members others)
    (hread : Member.ReadsKind read name kind) (hkind : kind ≠ .setting) :
    members.filterMap read = others.filterMap read := by
  cases h with
  | signature h h' =>
    simp only [List.filterMap_append, List.filterMap_cons, hread.eq_of_class h h']
  | setting h =>
    have hnone := hread.eq_none h hkind.symm
    simp only [List.filterMap_append, List.filterMap_cons, hnone]
  | @swap before after entry other cls cls' h h' hne =>
    -- at most one of the two is read
    by_cases hcls : cls.kind = kind
    · have hnone := hread.eq_none h' (hcls ▸ hne.symm)
      simp only [List.filterMap_append, List.filterMap_cons, hnone]
    · have hnone := hread.eq_none h hcls
      simp only [List.filterMap_append, List.filterMap_cons, hnone]

/-- And so do any number of them, forth and back. -/
theorem filterMap_eq_of_eqvGen (h : Relation.EqvGen Immaterial members others)
    (hread : Member.ReadsKind read name kind) (hkind : kind ≠ .setting) :
    members.filterMap read = others.filterMap read := by
  induction h with
  | rel _ _ h => exact h.filterMap_eq hread hkind
  | refl _ => rfl
  | symm _ _ _ ih => exact ih.symm
  | trans _ _ _ _ _ ih ih' => exact ih.trans ih'

end

namespace Declaration

variable {s t : Declaration}

/-- **Declarations agree if their members differ in changes without effect.** -/
theorem alike_of_eqvGen (h : Relation.EqvGen Immaterial s.members.entries t.members.entries)
    (hroutes : ∀ pattern, s.routes.get? pattern = t.routes.get? pattern)
    (htemplate : s.template = t.template) : s.Alike t := by
  have hdefaults : s.defaults = t.defaults :=
    filterMap_eq_of_eqvGen h Member.readsKind_default? nofun
  constructor
  case keys => rw [hdefaults]
  case values =>
    intro key value other hvalue hother
    rw [← hdefaults, ← lookup_eq_some_iff_mem s.nodup_keys_defaults] at hother
    rw [← lookup_eq_some_iff_mem s.nodup_keys_defaults, hother] at hvalue
    obtain rfl := Option.some.inj hvalue
    exact (Json.same_iff_alike other.plain other.plain).mp (Json.same_refl other.plain)
  case routes => exact hroutes
  case template => exact htemplate
  case computed => exact filterMap_eq_of_eqvGen h Member.readsKind_computed? nofun
  case methods => exact filterMap_eq_of_eqvGen h Member.readsKind_method? nofun
  case hooks => exact filterMap_eq_of_eqvGen h Member.readsKind_hook? nofun

/-! ## The second declaration -/

variable {d e : Definition}

/-- **A component that is declared again is present if the declarations agree**, and its name
is taken if they do not. Changes of members without effect, and no change of routes and
template, are none. -/
theorem declared_again (hs : Definition.ofDeclaration s = .ok d)
    (ht : Definition.ofDeclaration t = .ok e) (hname : s.name = t.name) :
    let r := Registry.empty.next (.declare s)
    Registry.empty.answer (.declare s) = .ok (.added d) ∧
      (r.answer (.declare t) = .ok (.present d) ↔ s.Alike t) ∧
      (r.answer (.declare t) = .error (.nameTaken s.name) ↔ ¬ s.Alike t) ∧
      (Relation.EqvGen Immaterial s.members.entries t.members.entries →
        (∀ pattern, s.routes.get? pattern = t.routes.get? pattern) → s.template = t.template →
          r.answer (.declare t) = .ok (.present d)) := by
  intro r
  obtain ⟨hvalid, rfl⟩ := ofDeclaration_eq_ok_iff.mp hs
  obtain ⟨hvalid', rfl⟩ := ofDeclaration_eq_ok_iff.mp ht
  have hbrought : (Request.declare s).definition = .ok s.definition := hs
  have hheld : r.get? s.name = some s.definition := by
    rw [Registry.get?_next, Request.brings_of_ok hbrought]
    simp [Registry.get?, Registry.empty, OrderedMap.get?, OrderedMap.empty, definition]
  have hsame : s.definition.same t.definition = true ↔ s.Alike t :=
    same_definition_iff hvalid hvalid' hname
  have hpresent : r.answer (.declare t) = .ok (.present s.definition) ↔ s.Alike t := by
    rw [(r.serves _).present_iff, ← hsame]
    constructor
    · rintro ⟨e, he, -, hsame'⟩
      obtain rfl := Except.ok.inj (ht.symm.trans he)
      exact hsame'
    · intro hsame'
      have hnamed : t.definition.name = s.name := hname.symm
      exact ⟨t.definition, ht, hnamed ▸ hheld, hsame'⟩
  have htaken : r.answer (.declare t) = .error (.nameTaken s.name) ↔ ¬ s.Alike t := by
    rw [(r.serves _).taken_iff, ← hsame, Bool.not_eq_true]
    constructor
    · rintro ⟨e, held, he, -, hget, hdiffer⟩
      obtain rfl := Except.ok.inj (ht.symm.trans he)
      obtain rfl := Option.some.inj (hheld.symm.trans hget)
      exact hdiffer
    · intro hdiffer
      exact ⟨t.definition, s.definition, ht, hname.symm, hheld, hdiffer⟩
  refine ⟨((Registry.empty.serves _).added_iff _).mpr ⟨hs, rfl⟩, hpresent, htaken, ?_⟩
  intro hmembers hroutes htemplate
  exact hpresent.mpr (alike_of_eqvGen hmembers hroutes htemplate)

/-- The list of things to do in other words: the default values change places, a method takes
more arguments, and there is another setting. -/
def rewordedTodoList : Declaration :=
  { todoList with
    members :=
      ⟨[("createdCallback", .function 2 true), ("title", .data (textData "Todos")),
        ("addItem", .function 3 true), ("items", .data emptyData),
        ("url", .data (textData "/todos")), ("showItem", .function 0 false),
        ("remaining", .function 0 true)], by decide⟩ }

theorem alike_rewordedTodoList : todoList.Alike rewordedTodoList := by
  have hdefaults : todoList.defaults =
      [("items", emptyData), ("title", textData "Todos")] := rfl
  have hdefaults' : rewordedTodoList.defaults =
      [("title", textData "Todos"), ("items", emptyData)] := rfl
  refine ⟨?_, ?_, fun pattern => rfl, rfl, by decide, by decide, by decide⟩
  · rw [hdefaults, hdefaults']
    exact .swap _ _ _
  · intro key value other hvalue hother
    rw [hdefaults] at hvalue
    rw [hdefaults'] at hother
    simp only [List.mem_cons, Prod.mk.injEq, List.not_mem_nil, or_false] at hvalue hother
    rcases hvalue with ⟨rfl, rfl⟩ | ⟨rfl, rfl⟩
    · rcases hother with ⟨hkey, -⟩ | ⟨-, rfl⟩
      · exact absurd hkey (by decide)
      · exact .array rfl nofun
    · rcases hother with ⟨-, rfl⟩ | ⟨hkey, -⟩
      · exact .string "Todos"
      · exact absurd hkey (by decide)

/-- The list of things to do is present in other words, and its name is taken in the opposite
order, in which its methods change places. -/
theorem declared_again_todoList :
    let r := Registry.empty.next (.declare todoList)
    r.answer (.declare rewordedTodoList) = .ok (.present todoList.definition) ∧
      r.answer (.declare todoList.reversed) = .error (.nameTaken "todo-list") := by
  have hlist : Definition.ofDeclaration todoList = .ok todoList.definition := ofDeclaration_todoList
  have hreworded : Definition.ofDeclaration rewordedTodoList = .ok rewordedTodoList.definition :=
    ofDeclaration_eq_ok_iff.mpr ⟨faults_eq_nil_iff.mp (by decide), rfl⟩
  have hreversed : Definition.ofDeclaration todoList.reversed = .ok todoList.reversed.definition :=
    ofDeclaration_eq_ok_iff.mpr ⟨faults_eq_nil_iff.mp (by decide), rfl⟩
  have hdiffer : ¬ todoList.Alike todoList.reversed := by
    intro h
    have hmethods : todoList.methods ≠ todoList.reversed.methods := by decide
    exact hmethods h.methods
  exact ⟨(declared_again hlist hreworded rfl).2.1.mpr alike_rewordedTodoList,
    (declared_again hlist hreversed rfl).2.2.1.mpr hdiffer⟩

end Declaration

end MarkupTemplate
