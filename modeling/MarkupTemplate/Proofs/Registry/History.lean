import Mathlib.Data.List.Induction
import MarkupTemplate.Proofs.Registry.FirstFault
import MarkupTemplate.Proofs.Registry.Sameness
import MarkupTemplate.Registry.Basic
/-!
# The history of a registry — each name keeps what was accepted first

A `Request` asks a registry to accept a definition, or the one that a declaration makes.
`serve_cases` says what serving a request can do, and `Serves` states the answers as
equivalences. From the cases a registry is followed through requests: its entries are the
definitions that were added, each under its own name and in the order of the requests,
and under a name stands the first definition that was brought for it.
-/

namespace MarkupTemplate

/-- What is asked of a registry: to accept a definition, or what a declaration makes. -/
inductive Request where
  | accept (definition : Definition)
  | declare (declaration : Declaration)

/-- The definition that a request brings, or the fault of its declaration. -/
def Request.definition : Request → Except DefinitionFault Definition
  | accept definition => .ok definition
  | declare declaration => Definition.ofDeclaration declaration

/-- The definition that a request brings, if its declaration is not at fault. -/
def Request.brings (request : Request) : List Definition :=
  match request.definition with
  | .ok definition => [definition]
  | .error _ => []

/-- The definitions that requests bring, in order. -/
def broughtBy (requests : List Request) : List Definition :=
  requests.flatMap Request.brings

theorem Request.brings_of_ok {request : Request} {d : Definition}
    (h : request.definition = .ok d) : request.brings = [d] := by
  rw [brings, h]

theorem Request.brings_of_error {request : Request} {fault : DefinitionFault}
    (h : request.definition = .error fault) : request.brings = [] := by
  rw [brings, h]

namespace Registry

/-- Serve a request. -/
def serve (r : Registry) : Request → Traced Answer
  | .accept definition => r.accept definition
  | .declare declaration => r.declare declaration

/-- What a registry answers to a request. -/
def answer (r : Registry) (request : Request) : Except DefinitionFault Acceptance :=
  (r.serve request).value.1

/-- The registry after a request. -/
def next (r : Registry) (request : Request) : Registry :=
  (r.serve request).value.2

/-- The registry after requests. -/
def after (r : Registry) (requests : List Request) : Registry :=
  requests.foldl next r

/-- The definitions that are added while requests are served. -/
def additions (r : Registry) : List Request → List Definition
  | [] => []
  | request :: requests =>
    match r.answer request with
    | .ok (.added definition) => definition :: (r.next request).additions requests
    | _ => (r.next request).additions requests

/-- **How a request is served.** A definition is added under a name that is new, present
where the same one is held, and refused where a different one is; the fault of a
declaration is the answer to it. Unless a definition is added the registry stays as it
is. -/
structure Serves (r : Registry) (request : Request) : Prop where
  added_iff : ∀ d, r.answer request = .ok (.added d) ↔
    request.definition = .ok d ∧ r.get? d.name = none
  present_iff : ∀ held, r.answer request = .ok (.present held) ↔
    ∃ d, request.definition = .ok d ∧ r.get? d.name = some held ∧ held.same d = true
  taken_iff : ∀ name, r.answer request = .error (.nameTaken name) ↔
    ∃ d held, request.definition = .ok d ∧ d.name = name ∧ r.get? name = some held ∧
      held.same d = false
  refused_iff : ∀ fault, (∀ name, fault ≠ .nameTaken name) →
    (r.answer request = .error fault ↔ request.definition = .error fault)
  unchanged : (∀ d, r.answer request ≠ .ok (.added d)) → r.next request = r

variable {r : Registry} {request : Request} {d : Definition} {acceptance : Acceptance}
variable {name : String}

/-! ## One request -/

/-- A definition that is brought is served as the definition itself. -/
theorem serve_eq (r : Registry) (request : Request) : r.serve request =
    match request.definition with
    | .ok definition => r.accept definition
    | .error fault => pure (.error fault, r) := by
  cases request <;> rfl

/-- **What serving a request can do**: a faulty declaration is answered with its fault, a
definition under a new name is put at the end, and one under a name in use is the held one
again, or is refused. Only the second changes the registry. -/
theorem serve_cases (r : Registry) (request : Request) :
    (∃ fault, request.definition = .error fault ∧
        r.answer request = .error fault ∧ r.next request = r) ∨
      (∃ d, request.definition = .ok d ∧ r.get? d.name = none ∧
        r.answer request = .ok (.added d) ∧ r.next request = ⟨r.definitions.insert d.name d⟩) ∨
      (∃ d held, request.definition = .ok d ∧ r.get? d.name = some held ∧ held.same d = true ∧
        r.answer request = .ok (.present held) ∧ r.next request = r) ∨
      ∃ d held, request.definition = .ok d ∧ r.get? d.name = some held ∧ held.same d = false ∧
        r.answer request = .error (.nameTaken d.name) ∧ r.next request = r := by
  unfold answer next
  rw [serve_eq]
  cases hbrought : request.definition with
  | error fault => exact .inl ⟨fault, rfl, rfl, rfl⟩
  | ok d =>
    right
    simp only [accept]
    cases hheld : r.get? d.name with
    | none => exact .inl ⟨d, rfl, hheld, rfl, rfl⟩
    | some held =>
      right
      by_cases hsame : held.same d = true
      · simp only [hsame, if_true]
        exact .inl ⟨d, held, rfl, hheld, hsame, rfl, rfl⟩
      · rw [Bool.not_eq_true] at hsame
        simp only [hsame, Bool.false_eq_true, if_false]
        exact .inr ⟨d, held, rfl, hheld, hsame, rfl, rfl⟩

/-- A declaration's own fault is never that a name is taken. -/
theorem definition_ne_nameTaken (request : Request) (name : String) :
    request.definition ≠ .error (.nameTaken name) := by
  cases request with
  | accept definition => exact nofun
  | declare declaration => exact declaration.ofDeclaration_ne_nameTaken name

section

variable {held : Definition} {fault : DefinitionFault}

/-- The definition that a request brings is the only one. -/
theorem eq_of_brought {other : Definition} (hbrought : request.definition = .ok d)
    (h : request.definition = .ok other) : other = d := by
  rw [hbrought] at h
  exact (Except.ok.inj h).symm

/-- A declaration at fault brings no definition, so its own fault is all that can be
answered. -/
theorem serves_of_fault (hbrought : request.definition = .error fault)
    (hanswer : r.answer request = .error fault) (hnext : r.next request = r) :
    r.Serves request := by
  have hnone : ∀ d, request.definition ≠ .ok d := by
    rw [hbrought]
    exact fun _ => nofun
  refine ⟨fun d => ?_, fun held => ?_, fun name => ?_, fun other _ => ?_, fun _ => hnext⟩
  · rw [hanswer]
    exact iff_of_false nofun fun h => hnone d h.1
  · rw [hanswer]
    exact iff_of_false nofun fun ⟨d, h, _⟩ => hnone d h
  · have htaken : fault ≠ .nameTaken name := by
      rintro rfl
      exact definition_ne_nameTaken request name hbrought
    rw [hanswer]
    exact iff_of_false (fun h => htaken (Except.error.inj h)) fun ⟨d, _, h, _⟩ => hnone d h
  · rw [hanswer, hbrought, Except.error.injEq, Except.error.injEq]

/-- Under a new name nothing is held, so neither of the answers about a held definition can
be given. -/
theorem serves_of_new (hbrought : request.definition = .ok d) (hnew : r.get? d.name = none)
    (hanswer : r.answer request = .ok (.added d)) : r.Serves request := by
  refine ⟨fun other => ?_, fun held => ?_, fun name => ?_, fun fault _ => ?_,
    fun h => absurd hanswer (h d)⟩
  · rw [hanswer, hbrought]
    constructor
    · rintro ⟨⟩
      exact ⟨rfl, hnew⟩
    · rintro ⟨⟨⟩, -⟩
      rfl
  · rw [hanswer]
    refine iff_of_false nofun ?_
    rintro ⟨other, hother, hheld, -⟩
    rw [eq_of_brought hbrought hother, hnew] at hheld
    cases hheld
  · rw [hanswer]
    refine iff_of_false nofun ?_
    rintro ⟨other, held, hother, rfl, hheld, -⟩
    rw [eq_of_brought hbrought hother, hnew] at hheld
    cases hheld
  · rw [hanswer, hbrought]
    exact iff_of_false nofun nofun

/-- The held definition is present, since it is the same: the name is neither new nor taken
by another one. -/
theorem serves_of_same (hbrought : request.definition = .ok d) (hheld : r.get? d.name = some held)
    (hsame : held.same d = true) (hanswer : r.answer request = .ok (.present held))
    (hnext : r.next request = r) : r.Serves request := by
  refine ⟨fun other => ?_, fun other => ?_, fun name => ?_, fun fault _ => ?_, fun _ => hnext⟩
  · rw [hanswer]
    refine iff_of_false nofun ?_
    rintro ⟨hother, hnew⟩
    rw [eq_of_brought hbrought hother, hheld] at hnew
    cases hnew
  · rw [hanswer]
    constructor
    · rintro ⟨⟩
      exact ⟨d, hbrought, hheld, hsame⟩
    · rintro ⟨brought, hother, hfound, -⟩
      rw [eq_of_brought hbrought hother, hheld] at hfound
      cases hfound
      rfl
  · rw [hanswer]
    refine iff_of_false nofun ?_
    rintro ⟨brought, found, hother, rfl, hfound, hdiffers⟩
    rw [eq_of_brought hbrought hother, hheld] at hfound
    cases hfound
    rw [eq_of_brought hbrought hother, hsame] at hdiffers
    cases hdiffers
  · rw [hanswer, hbrought]
    exact iff_of_false nofun nofun

/-- The name is taken, since a different definition is held: it is not new, and the held one
is not present again. -/
theorem serves_of_different (hbrought : request.definition = .ok d)
    (hheld : r.get? d.name = some held) (hdiffers : held.same d = false)
    (hanswer : r.answer request = .error (.nameTaken d.name)) (hnext : r.next request = r) :
    r.Serves request := by
  refine ⟨fun other => ?_, fun other => ?_, fun name => ?_, fun fault hfault => ?_,
    fun _ => hnext⟩
  · rw [hanswer]
    refine iff_of_false nofun ?_
    rintro ⟨hother, hnew⟩
    rw [eq_of_brought hbrought hother, hheld] at hnew
    cases hnew
  · rw [hanswer]
    refine iff_of_false nofun ?_
    rintro ⟨brought, hother, hfound, hsame⟩
    rw [eq_of_brought hbrought hother, hheld] at hfound
    cases hfound
    rw [eq_of_brought hbrought hother, hdiffers] at hsame
    cases hsame
  · rw [hanswer]
    constructor
    · rintro ⟨⟩
      exact ⟨d, held, hbrought, rfl, hheld, hdiffers⟩
    · rintro ⟨brought, found, hother, rfl, -, -⟩
      rw [eq_of_brought hbrought hother]
  · -- that the name is taken is no fault of the declaration
    rw [hanswer, hbrought]
    exact iff_of_false (fun h => hfault d.name (Except.error.inj h).symm) nofun

end

/-- **Every registry serves every request so.** -/
theorem serves (r : Registry) (request : Request) : r.Serves request := by
  rcases serve_cases r request with ⟨fault, hbrought, hanswer, hnext⟩ |
    ⟨d, hbrought, hnew, hanswer, -⟩ | ⟨d, held, hbrought, hheld, hsame, hanswer, hnext⟩ |
    ⟨d, held, hbrought, hheld, hdiffers, hanswer, hnext⟩
  · exact serves_of_fault hbrought hanswer hnext
  · exact serves_of_new hbrought hnew hanswer
  · exact serves_of_same hbrought hheld hsame hanswer hnext
  · exact serves_of_different hbrought hheld hdiffers hanswer hnext

/-! ## Many requests -/

@[simp]
theorem after_nil (r : Registry) : r.after [] = r := rfl

@[simp]
theorem after_cons (r : Registry) (request : Request) (requests : List Request) :
    r.after (request :: requests) = (r.next request).after requests := rfl

theorem after_append (r : Registry) (requests more : List Request) :
    r.after (requests ++ more) = (r.after requests).after more :=
  List.foldl_append

/-- A new entry goes to the end. -/
theorem entries_insert_of_new (hnew : r.get? name = none) :
    (r.definitions.insert name d).entries = r.definitions.entries ++ [(name, d)] :=
  insertEntry_of_not_mem d (lookup_eq_none_iff_not_mem.mp hnew)

/-- **The entries are the definitions that were added**, each under its own name, behind
those that were there. -/
theorem entries_after (r : Registry) (requests : List Request) :
    (r.after requests).definitions.entries =
      r.definitions.entries ++ (r.additions requests).map fun d => (d.name, d) := by
  induction requests generalizing r with
  | nil => simp [additions]
  | cons request requests ih =>
    rw [after_cons, ih, additions]
    rcases serve_cases r request with ⟨_, -, hanswer, hnext⟩ | ⟨d, -, hnew, hanswer, hnext⟩ |
      ⟨_, _, -, -, -, hanswer, hnext⟩ | ⟨_, _, -, -, -, hanswer, hnext⟩
    · simp only [hanswer, hnext]
    · simp only [hanswer, hnext, entries_insert_of_new hnew, List.map_cons, List.append_assoc,
        List.singleton_append]
    · simp only [hanswer, hnext]
    · simp only [hanswer, hnext]

/-- What is held after a request is what was, or the definition that it brings. -/
theorem get?_next (r : Registry) (request : Request) (name : String) :
    (r.next request).get? name =
      (r.get? name).or (request.brings.find? fun d => d.name == name) := by
  rcases serve_cases r request with ⟨_, hbrought, -, hnext⟩ | ⟨d, hbrought, hnew, -, hnext⟩ |
    ⟨d, held, hbrought, hheld, -, -, hnext⟩ | ⟨d, held, hbrought, hheld, -, -, hnext⟩
  · rw [hnext, Request.brings_of_error hbrought, List.find?_nil, Option.or_none]
  · rw [hnext, Request.brings_of_ok hbrought]
    change (r.definitions.insert d.name d).get? name = (r.definitions.get? name).or _
    rw [OrderedMap.get?_insert]
    by_cases hname : name = d.name
    · subst hname
      change r.definitions.get? d.name = none at hnew
      simp [hnew]
    · simp [hname, Ne.symm hname]
  -- a definition that is brought under a name in use is not looked at
  · rw [hnext, Request.brings_of_ok hbrought]
    by_cases hname : d.name = name
    · simp [← hname, hheld]
    · simp [hname]
  · rw [hnext, Request.brings_of_ok hbrought]
    by_cases hname : d.name = name
    · simp [← hname, hheld]
    · simp [hname]

/-- **What is held under a name** is what was, or the first definition that is brought for
it. -/
theorem get?_after (r : Registry) (requests : List Request) (name : String) :
    (r.after requests).get? name =
      (r.get? name).or ((broughtBy requests).find? fun d => d.name == name) := by
  induction requests generalizing r with
  | nil => simp [broughtBy]
  | cons request requests ih =>
    rw [after_cons, ih, get?_next, Option.or_assoc, ← List.find?_append]
    rfl

/-- **What is held is kept**, whatever is asked later. -/
theorem get?_after_of_some (h : r.get? name = some d) (requests : List Request) :
    (r.after requests).get? name = some d := by
  rw [get?_after, h, Option.some_or]

/-- A name is in use when something is held under it. -/
theorem mem_names_iff : name ∈ r.names ↔ r.get? name ≠ none := by
  rw [Ne, get?, OrderedMap.get?, lookup_eq_none_iff_not_mem, not_not]
  rfl

/-- A request puts the name that it brings at the end, if the name is new. -/
theorem names_next (r : Registry) (request : Request) : (r.next request).names =
    r.names ++ (request.brings.map Definition.name).removeAll r.names := by
  rcases serve_cases r request with ⟨_, hbrought, -, hnext⟩ | ⟨d, hbrought, hnew, -, hnext⟩ |
    ⟨d, held, hbrought, hheld, -, -, hnext⟩ | ⟨d, held, hbrought, hheld, -, -, hnext⟩
  · rw [hnext, Request.brings_of_error hbrought]
    simp
  · have hname : d.name ∉ r.names := by simp [mem_names_iff, hnew]
    rw [hnext, Request.brings_of_ok hbrought]
    change (r.definitions.insert d.name d).keys = _
    rw [OrderedMap.keys_insert]
    change d.name ∉ r.definitions.keys at hname
    simp [List.removeAll, names, hname]
  · have hname : d.name ∈ r.names := by simp [mem_names_iff, hheld]
    rw [hnext, Request.brings_of_ok hbrought]
    simp [List.removeAll, hname]
  · have hname : d.name ∈ r.names := by simp [mem_names_iff, hheld]
    rw [hnext, Request.brings_of_ok hbrought]
    simp [List.removeAll, hname]

/-- **The names are those that were brought**, each at its first place. -/
theorem names_after_empty (requests : List Request) : (empty.after requests).names =
    ((broughtBy requests).map Definition.name).eraseDups := by
  induction requests using List.reverseRecOn with
  | nil => rfl
  | append_singleton requests request ih =>
    rw [after_append, after_cons, after_nil, names_next, ih]
    have hbrought : broughtBy (requests ++ [request]) = broughtBy requests ++ request.brings := by
      rw [broughtBy, List.flatMap_append, List.flatMap_singleton, broughtBy]
    rw [hbrought, List.map_append, List.eraseDups_append]
    -- a request brings one definition or none, so nothing is twice among what it brings
    cases hrequest : request.definition with
    | error fault => simp [Request.brings_of_error hrequest, List.removeAll]
    | ok d =>
      rw [Request.brings_of_ok hrequest]
      by_cases hname : d.name ∈ (broughtBy requests).map Definition.name
      · have hfirst : d.name ∈ ((broughtBy requests).map Definition.name).eraseDups :=
          List.mem_eraseDups.mpr hname
        simp only [List.map_cons, List.map_nil, List.removeAll, List.filter_cons,
          List.filter_nil, List.elem_eq_mem, hname, hfirst, decide_true, Bool.not_true,
          Bool.false_eq_true, if_false, List.eraseDups_nil]
      · have hfirst : d.name ∉ ((broughtBy requests).map Definition.name).eraseDups :=
          mt List.mem_eraseDups.mp hname
        simp only [List.map_cons, List.map_nil, List.removeAll, List.filter_cons,
          List.filter_nil, List.elem_eq_mem, hname, hfirst, decide_false, Bool.not_false,
          if_true, List.eraseDups_cons, List.eraseDups_nil]

/-- **What was accepted is present** to every later request for the same. -/
theorem answer_after_of_ok (h : r.answer request = .ok acceptance) (more : List Request) :
    ((r.next request).after more).answer request = .ok (.present acceptance.definition) := by
  rcases serve_cases r request with ⟨_, -, hanswer, -⟩ | ⟨d, hbrought, hnew, hanswer, hnext⟩ |
    ⟨d, held, hbrought, hheld, hsame, hanswer, hnext⟩ | ⟨_, _, -, -, -, hanswer, -⟩
  · rw [hanswer] at h
    cases h
  · rw [hanswer] at h
    cases h
    have hheld : (r.next request).get? d.name = some d := by
      rw [get?_next, hnew, Request.brings_of_ok hbrought]
      simp
    have hlater := get?_after_of_some hheld more
    refine ((serves _ request).present_iff d).mpr ⟨d, hbrought, hlater, ?_⟩
    exact Definition.same_equivalence.refl d
  · rw [hanswer] at h
    cases h
    rw [hnext]
    have hlater := get?_after_of_some hheld more
    exact ((serves _ request).present_iff held).mpr ⟨d, hbrought, hlater, hsame⟩
  · rw [hanswer] at h
    cases h

/-- **The history of a registry.** Whatever is asked of the empty registry, its entries
are the definitions that were added, each under its own name and in order; the names are
those that were brought, each once and at its first place; under a name stands the first
definition that was brought for it, and it stays there; the next request is served as
`Serves` says; and a request that was accepted finds its definition present ever after. -/
theorem history_from_empty (requests : List Request) :
    let r := empty.after requests
    r.definitions.entries = (empty.additions requests).map (fun d => (d.name, d)) ∧
      r.names = ((broughtBy requests).map Definition.name).eraseDups ∧ r.names.Nodup ∧
      (∀ name, r.get? name = (broughtBy requests).find? fun d => d.name == name) ∧
      (∀ name d, r.get? name = some d → ∀ more, (r.after more).get? name = some d) ∧
      (∀ request, r.Serves request) ∧
      ∀ request acceptance, r.answer request = .ok acceptance → ∀ more,
        ((r.next request).after more).answer request = .ok (.present acceptance.definition) := by
  intro r
  have hentries : r.definitions.entries =
      empty.definitions.entries ++ (empty.additions requests).map fun d => (d.name, d) :=
    entries_after empty requests
  refine ⟨?_, names_after_empty requests, r.definitions.nodup, ?_, ?_, serves r, ?_⟩
  · rw [hentries]
    rfl
  · intro name
    rw [get?_after, show empty.get? name = none from rfl, Option.none_or]
  · intro name d hheld more
    exact get?_after_of_some hheld more
  · intro request acceptance hanswer more
    exact answer_after_of_ok hanswer more

end Registry

end MarkupTemplate
