import MarkupTemplate.Registry.Definition
/-!
# Classes of members — what a member is by its name and its form

`Member.HasClass` says which class a member has, and `hasClass_iff` that it has exactly
one. `default?`, `computed?`, `method?` and `hook?` read the parts of a definition off a
member by its name and form alone; each is read off its class as well. A member is refused
for its `fault?`, which looks at its name and form too.
-/

namespace MarkupTemplate

/-! ## Names with a meaning -/

namespace Hook

/-- A hook is declared under its member name. -/
theorem ofMemberName?_eq_some_iff {key : String} {hook : Hook} :
    ofMemberName? key = some hook ↔ key = hook.memberName := by
  constructor
  · intro h
    have hname : (hook.memberName == key) = true :=
      List.find?_some (p := fun hook : Hook => hook.memberName == key) h
    exact (beq_iff_eq.mp hname).symm
  · rintro rfl
    cases hook <;> decide

/-- A name that is the member name of no hook declares none. -/
theorem ofMemberName?_eq_none_iff {key : String} :
    ofMemberName? key = none ↔ ∀ hook : Hook, key ≠ hook.memberName := by
  simp only [Option.eq_none_iff_forall_ne_some, ne_eq, ofMemberName?_eq_some_iff]

/-- The member name of a hook is a setting. -/
theorem memberName_mem_settingNames (hook : Hook) : hook.memberName ∈ settingNames := by
  cases hook <;> decide

/-- A name that is no setting declares no hook. -/
theorem ofMemberName?_of_not_mem {key : String} (h : key ∉ settingNames) :
    ofMemberName? key = none := by
  rw [ofMemberName?_eq_none_iff]
  rintro hook rfl
  exact h hook.memberName_mem_settingNames

/-- The member names of all hooks. -/
def memberNames : List String :=
  all.map memberName

/-- The member names are those of the hooks. -/
theorem mem_memberNames_iff {key : String} :
    key ∈ memberNames ↔ ∃ hook : Hook, key = hook.memberName := by
  constructor
  · intro h
    obtain ⟨hook, -, hname⟩ := List.mem_map.mp h
    exact ⟨hook, hname.symm⟩
  · rintro ⟨hook, rfl⟩
    cases hook <;> decide

/-- A name is the member name of a hook exactly if it declares one. -/
theorem mem_memberNames_iff_isSome {key : String} :
    key ∈ memberNames ↔ (ofMemberName? key).isSome = true := by
  simp only [mem_memberNames_iff, Option.isSome_iff_exists, ofMemberName?_eq_some_iff]

end Hook

/-- The settings are none of the inherited names. -/
theorem not_mem_inheritedNames {key : String} (h : key ∈ settingNames) :
    key ∉ inheritedNames := by
  have hdisjoint : ∀ name ∈ settingNames, name ∉ inheritedNames := by decide
  exact hdisjoint key h

/-! ## Classes of members -/

/-- The five classes of members, without what a member adds to its class. -/
inductive MemberKind where
  | hook
  | setting
  | default
  | computed
  | method
deriving DecidableEq

/-- The class, without what the member adds to it. -/
def MemberClass.kind : MemberClass → MemberKind
  | hook _ => .hook
  | setting => .setting
  | default _ => .default
  | computed => .computed
  | method => .method

namespace Member

/-- The class of a member is told by its name and its form: a function under the member
name of a hook, anything else under a setting's name, data, a function without arguments
that returns a value, and any other function. -/
inductive HasClass : String × Member → MemberClass → Prop where
  | hook (hook : Hook) (arity : UInt64) (returnsValue : Bool) :
      HasClass (hook.memberName, .function arity returnsValue) (.hook hook)
  | setting {key : String} {member : Member} (hkey : key ∈ settingNames)
      (hother : member.isFunction = true → ∀ hook : Hook, key ≠ hook.memberName) :
      HasClass (key, member) .setting
  | default {key : String} (value : Data) (hkey : key ∉ settingNames) :
      HasClass (key, .data value) (.default value)
  | computed {key : String} (hkey : key ∉ settingNames) :
      HasClass (key, .function 0 true) .computed
  | method {key : String} {arity : UInt64} {returnsValue : Bool} (hkey : key ∉ settingNames)
      (hargs : ¬ (arity = 0 ∧ returnsValue = true)) :
      HasClass (key, .function arity returnsValue) .method

/-- The class of a member. -/
def classOf (entry : String × Member) : MemberClass :=
  if entry.1 ∈ settingNames then
    if entry.2.isFunction then (Hook.ofMemberName? entry.1).elim .setting .hook else .setting
  else
    match entry.2 with
    | .data value => .default value
    | .function arity returnsValue => if arity = 0 ∧ returnsValue = true then .computed else .method

variable {entry : String × Member} {cls : MemberClass}

/-- Every member has its class. -/
theorem hasClass_classOf (entry : String × Member) : HasClass entry (classOf entry) := by
  obtain ⟨key, member⟩ := entry
  unfold classOf
  by_cases hkey : key ∈ settingNames
  · rw [if_pos hkey]
    cases member with
    | data value => exact .setting hkey nofun
    | function arity returnsValue =>
      change HasClass _ ((Hook.ofMemberName? key).elim .setting .hook)
      cases hhook : Hook.ofMemberName? key with
      | none => exact .setting hkey fun _ => Hook.ofMemberName?_eq_none_iff.mp hhook
      | some hook =>
        obtain rfl := Hook.ofMemberName?_eq_some_iff.mp hhook
        exact .hook hook arity returnsValue
  · rw [if_neg hkey]
    cases member with
    | data value => exact .default value hkey
    | function arity returnsValue =>
      by_cases hargs : arity = 0 ∧ returnsValue = true
      · obtain ⟨rfl, rfl⟩ := hargs
        exact .computed hkey
      · simp only [if_neg hargs]
        exact .method hkey hargs

/-- **The class of a member is the only one it has.** -/
theorem hasClass_iff : HasClass entry cls ↔ cls = classOf entry := by
  constructor
  · intro h
    cases h with
    | hook hook arity returnsValue =>
      have hhook : Hook.ofMemberName? hook.memberName = some hook :=
        Hook.ofMemberName?_eq_some_iff.mpr rfl
      simp [classOf, hook.memberName_mem_settingNames, isFunction, hhook]
    | @setting key member hkey hother =>
      cases hfunction : member.isFunction with
      | false => simp [classOf, hkey, hfunction]
      | true =>
        have hhook : Hook.ofMemberName? key = none :=
          Hook.ofMemberName?_eq_none_iff.mpr (hother hfunction)
        simp [classOf, hkey, hfunction, hhook]
    | default value hkey => simp [classOf, hkey]
    | computed hkey => simp [classOf, hkey]
    | method hkey hargs => simp only [classOf, if_neg hkey, if_neg hargs]
  · rintro rfl
    exact hasClass_classOf entry

/-! ## Members by name and form -/

/-- The value of a data member. -/
def data? : Member → Option Data
  | data value => some value
  | function .. => none

/-- Data under a name that is no setting is a default value. -/
def default? (entry : String × Member) : Option (String × Data) :=
  if entry.1 ∈ settingNames then none else entry.2.data?.map (entry.1, ·)

/-- A function without arguments that returns a value is a computed property, under a name
that is no setting. -/
def computed? (entry : String × Member) : Option String :=
  if entry.1 ∉ settingNames ∧ entry.2.isComputed = true then some entry.1 else none

/-- Any other function is a method, under a name that is no setting. -/
def method? (entry : String × Member) : Option String :=
  if entry.1 ∉ settingNames ∧ entry.2.isFunction = true ∧ entry.2.isComputed = false then
    some entry.1
  else
    none

/-- A function under the member name of a hook declares the hook. -/
def hook? (entry : String × Member) : Option Hook :=
  if entry.2.isFunction then Hook.ofMemberName? entry.1 else none

theorem HasClass.default?_eq (h : HasClass entry cls) :
    default? entry = cls.default?.map (entry.1, ·) := by
  cases h with
  | hook hook => simp [default?, hook.memberName_mem_settingNames, MemberClass.default?]
  | setting hkey => simp [default?, hkey, MemberClass.default?]
  | default value hkey => simp [default?, hkey, data?, MemberClass.default?]
  | computed hkey => simp [default?, data?, MemberClass.default?]
  | method hkey hargs => simp [default?, data?, MemberClass.default?]

theorem HasClass.computed?_eq (h : HasClass entry cls) :
    computed? entry = if cls.isComputed then some entry.1 else none := by
  cases h with
  | hook hook => simp [computed?, hook.memberName_mem_settingNames, MemberClass.isComputed]
  | setting hkey => simp [computed?, hkey, MemberClass.isComputed]
  | default value hkey => simp [computed?, isComputed, MemberClass.isComputed]
  | computed hkey => simp [computed?, hkey, isComputed, MemberClass.isComputed]
  | method hkey hargs => simp [computed?, hargs, isComputed, MemberClass.isComputed]

theorem HasClass.method?_eq (h : HasClass entry cls) :
    method? entry = if cls.isMethod then some entry.1 else none := by
  cases h with
  | hook hook => simp [method?, hook.memberName_mem_settingNames, MemberClass.isMethod]
  | setting hkey => simp [method?, hkey, MemberClass.isMethod]
  | default value hkey => simp [method?, isFunction, MemberClass.isMethod]
  | computed hkey => simp [method?, isComputed, MemberClass.isMethod]
  | method hkey hargs => simp [method?, hkey, hargs, isFunction, isComputed, MemberClass.isMethod]

theorem HasClass.hook?_eq (h : HasClass entry cls) : hook? entry = cls.hook? := by
  cases h with
  | hook hook =>
    have hhook := Hook.ofMemberName?_eq_some_iff.mpr (rfl : hook.memberName = hook.memberName)
    simp [hook?, isFunction, hhook, MemberClass.hook?]
  | @setting key member hkey hother =>
    cases hfunction : member.isFunction with
    | false => simp [hook?, hfunction, MemberClass.hook?]
    | true =>
      have hhook := Hook.ofMemberName?_eq_none_iff.mpr (hother hfunction)
      simp [hook?, hhook, MemberClass.hook?]
  | default value hkey => simp [hook?, isFunction, MemberClass.hook?]
  | computed hkey => simp [hook?, Hook.ofMemberName?_of_not_mem hkey, MemberClass.hook?]
  | method hkey hargs => simp [hook?, Hook.ofMemberName?_of_not_mem hkey, MemberClass.hook?]

/-- What is read off a member hangs on its name and its class, and is there for members of
one kind only; it tells the name of the member. -/
structure ReadsKind {β : Type} (read : String × Member → Option β) (name : β → String)
    (kind : MemberKind) : Prop where
  eq_of_class : ∀ {key member other cls}, HasClass (key, member) cls →
    HasClass (key, other) cls → read (key, member) = read (key, other)
  eq_none : ∀ {entry cls}, HasClass entry cls → cls.kind ≠ kind → read entry = none
  exists_eq_some : ∀ {entry cls}, HasClass entry cls → cls.kind = kind →
    ∃ b, read entry = some b ∧ name b = entry.1

theorem readsKind_hook? : ReadsKind hook? Hook.memberName .hook where
  eq_of_class h h' := by rw [h.hook?_eq, h'.hook?_eq]
  eq_none h hkind := by
    rw [h.hook?_eq]
    cases h with
    | hook => exact absurd rfl hkind
    | setting | default | computed | method => rfl
  exists_eq_some h hkind := by
    rw [h.hook?_eq]
    cases h with
    | hook hook => exact ⟨hook, rfl, rfl⟩
    | setting | default | computed | method => cases hkind

theorem readsKind_default? : ReadsKind default? Prod.fst .default where
  eq_of_class h h' := by rw [h.default?_eq, h'.default?_eq]
  eq_none h hkind := by
    rw [h.default?_eq]
    cases h with
    | default => exact absurd rfl hkind
    | hook | setting | computed | method => rfl
  exists_eq_some h hkind := by
    rw [h.default?_eq]
    cases h with
    | @default key value => exact ⟨(key, value), rfl, rfl⟩
    | hook | setting | computed | method => cases hkind

/-- A name is read off the members of a kind if it is so off their class. -/
theorem readsKind_of_eq_ite {name? : String × Member → Option String} {p : MemberClass → Bool}
    {kind : MemberKind}
    (h : ∀ {entry cls}, HasClass entry cls → name? entry = if p cls then some entry.1 else none)
    (hp : ∀ cls, p cls = true ↔ cls.kind = kind) : ReadsKind name? id kind where
  eq_of_class hclass hclass' := by rw [h hclass, h hclass']
  eq_none hclass hkind := by rw [h hclass, if_neg (mt (hp _).mp hkind)]
  exists_eq_some hclass hkind := ⟨_, by rw [h hclass, if_pos ((hp _).mpr hkind)], rfl⟩

theorem readsKind_computed? : ReadsKind computed? id .computed :=
  readsKind_of_eq_ite HasClass.computed?_eq fun cls => by
    cases cls <;> simp [MemberClass.isComputed, MemberClass.kind]

theorem readsKind_method? : ReadsKind method? id .method :=
  readsKind_of_eq_ite HasClass.method?_eq fun cls => by
    cases cls <;> simp [MemberClass.isMethod, MemberClass.kind]

/-! ## Refused members -/

/-- What is wrong with a member: it is data under the member name of a hook, or its name is
inherited. -/
def fault? (component : String) (entry : String × Member) : Option DefinitionFault :=
  if entry.1 ∈ Hook.memberNames ∧ entry.2.isFunction = false then
    some (.hookIsData component entry.1)
  else if entry.1 ∈ inheritedNames then
    some (.inheritedName component entry.1)
  else
    none

/-- **A member is refused for its fault, or has its class.** -/
theorem classify_eq (component : String) (entry : String × Member) :
    entry.2.classify component entry.1 =
      (fault? component entry).elim (.ok (classOf entry)) .error := by
  obtain ⟨key, member⟩ := entry
  unfold classify fault? classOf
  simp only [List.contains_iff_mem, Hook.mem_memberNames_iff_isSome]
  by_cases hsetting : key ∈ settingNames
  · have hinherited : key ∉ inheritedNames := not_mem_inheritedNames hsetting
    cases hhook : Hook.ofMemberName? key with
    | none => simp [hsetting, hinherited]
    | some hook => cases hfunction : member.isFunction <;> simp [hsetting, hinherited]
  · have hhook : Hook.ofMemberName? key = none := Hook.ofMemberName?_of_not_mem hsetting
    by_cases hinherited : key ∈ inheritedNames
    · simp [hsetting, hinherited, hhook]
    · cases member <;> simp [hsetting, hinherited, hhook, isComputed]

end Member

end MarkupTemplate
