import MarkupTemplate.Format.Span
import MarkupTemplate.Proofs.Format.Directives
import MarkupTemplate.Proofs.Json.Plain
/-!
# Fields, written and read

A field is found by its name, whatever fields with other names stand around it. The
second part goes through the values that fields hold in all the JSON forms: texts and
lists of texts, numbers, spans, strip directives, and what may be absent. Each is
readable, and is read as what was written.
-/

namespace MarkupTemplate

section

variable {α β : Type} {name key : String} {value : α} {fields more : List (String × α)}
variable {decode? : α → Option β} {fallback : β}

/-! ## Finding a field -/

/-- No field has a name that is not among the names. -/
theorem filter_eq_nil_of_not_mem (h : name ∉ fields.map Prod.fst) :
    (fields.filter fun field => field.1 == name) = [] := by
  refine List.filter_eq_nil_iff.mpr fun field hfield hname => h ?_
  rw [← beq_iff_eq.mp hname]
  exact List.mem_map_of_mem hfield

/-- **A field that stands once is found.** -/
theorem findField?_cons_self (h : name ∉ fields.map Prod.fst) :
    findField? name ((name, value) :: fields) = some (some value) := by
  unfold findField?
  rw [List.filter_cons_of_pos (by simp), filter_eq_nil_of_not_mem h]

/-- Fields with other names may stand in front. -/
theorem findField?_append_right (h : name ∉ fields.map Prod.fst) :
    findField? name (fields ++ more) = findField? name more := by
  unfold findField?
  rw [List.filter_append, filter_eq_nil_of_not_mem h, List.nil_append]

/-- Fields with other names may stand behind. -/
theorem findField?_append_left (h : name ∉ more.map Prod.fst) :
    findField? name (fields ++ more) = findField? name fields := by
  unfold findField?
  rw [List.filter_append, filter_eq_nil_of_not_mem h, List.append_nil]

theorem findField?_cons_of_ne (h : key ≠ name) :
    findField? name ((key, value) :: fields) = findField? name fields := by
  have hkey : name ∉ [(key, value)].map Prod.fst := by simpa using Ne.symm h
  exact findField?_append_right hkey

/-! ## Decoding a field -/

/-- A required field is passed on to its decoder. -/
@[simp]
theorem requiredField?_cons_self (h : name ∉ fields.map Prod.fst) :
    requiredField? name decode? ((name, value) :: fields) = decode? value := by
  rw [requiredField?, findField?_cons_self h]
  rfl

@[simp]
theorem requiredField?_cons_of_ne (h : key ≠ name) :
    requiredField? name decode? ((key, value) :: fields) = requiredField? name decode? fields := by
  rw [requiredField?, findField?_cons_of_ne h, requiredField?]

/-- So is a field with a default. -/
@[simp]
theorem optionalField?_cons_self (h : name ∉ fields.map Prod.fst) :
    optionalField? name fallback decode? ((name, value) :: fields) = decode? value := by
  rw [optionalField?, findField?_cons_self h]
  rfl

@[simp]
theorem optionalField?_cons_of_ne (h : key ≠ name) :
    optionalField? name fallback decode? ((key, value) :: fields) =
      optionalField? name fallback decode? fields := by
  rw [optionalField?, findField?_cons_of_ne h, optionalField?]

/-- Fields with other names in front are passed over. -/
theorem requiredField?_append_right (h : name ∉ fields.map Prod.fst) :
    requiredField? name decode? (fields ++ more) = requiredField? name decode? more := by
  rw [requiredField?, findField?_append_right h, requiredField?]

theorem optionalField?_append_right (h : name ∉ fields.map Prod.fst) :
    optionalField? name fallback decode? (fields ++ more) =
      optionalField? name fallback decode? more := by
  rw [optionalField?, findField?_append_right h, optionalField?]

/-- So are fields with other names behind. -/
theorem requiredField?_append_left (h : name ∉ more.map Prod.fst) :
    requiredField? name decode? (fields ++ more) = requiredField? name decode? fields := by
  rw [requiredField?, findField?_append_left h, requiredField?]

theorem optionalField?_append_left (h : name ∉ more.map Prod.fst) :
    optionalField? name fallback decode? (fields ++ more) =
      optionalField? name fallback decode? fields := by
  rw [optionalField?, findField?_append_left h, optionalField?]

end

/-! ## Values of fields -/

namespace Json

@[simp]
theorem isReadable_string (value : String) : (string value).isReadable = true := rfl

@[simp]
theorem isReadable_bool (value : Bool) : (bool value).isReadable = true := rfl

@[simp]
theorem isReadable_float (value : Double) : (float value).isReadable = true := rfl

@[simp]
theorem isReadable_ofUInt64 (n : UInt64) : (ofUInt64 n).isReadable = true := rfl

@[simp]
theorem toString?_string (value : String) : toString? (string value) = some value := rfl

@[simp]
theorem toBool?_bool (value : Bool) : toBool? (bool value) = some value := rfl

@[simp]
theorem toDouble?_float (value : Double) : toDouble? (float value) = some value := rfl

variable {α : Type} {decode? : Json → Option α} (encode : α → Json)

/-- **What may be absent is read as it was**, if its form is not null. -/
theorem toOption?_ofOption (hnull : ∀ a, encode a ≠ .null)
    (h : ∀ a, decode? (encode a) = some a) (o : Option α) :
    toOption? decode? (ofOption encode o) = some o := by
  cases o with
  | none => rfl
  | some a =>
    have hread : ∀ json : Json, json ≠ .null →
        toOption? decode? json = (decode? json).map some := by
      intro json hjson
      cases json <;> first | rfl | exact absurd rfl hjson
    rw [ofOption, hread _ (hnull a), h, Option.map_some]

/-- What may be absent is readable if it is readable where it is there. -/
theorem isReadable_ofOption (h : ∀ a, (encode a).isReadable = true) (o : Option α) :
    (ofOption encode o).isReadable = true := by
  cases o with
  | none => rfl
  | some a => exact h a

/-- **A list is read item by item.** -/
theorem toList?_ofList (h : ∀ a, decode? (encode a) = some a) (values : List α) :
    toList? decode? (ofList encode values) = some values := by
  rw [ofList, toList?]
  induction values with
  | nil => rfl
  | cons a values ih =>
    rw [List.map_cons, List.mapM_cons, h, ih]
    rfl

/-- A list is readable if its items are. -/
theorem isReadable_ofList (h : ∀ a, (encode a).isReadable = true) (values : List α) :
    (ofList encode values).isReadable = true := by
  refine isReadable_array_iff.mpr fun item hitem => ?_
  obtain ⟨a, -, rfl⟩ := List.mem_map.mp hitem
  exact h a

/-- A 64-bit count is read as it was. -/
@[simp]
theorem toUInt64?_ofUInt64 (n : UInt64) : toUInt64? (ofUInt64 n) = some n := by
  have hsize : n.toNat < UInt64.size := n.toNat_lt_size
  simp [toUInt64?, ofUInt64, hsize]

end Json

/-! ## Spans and directives -/

theorem Location.decode?_encode (l : Location) : decode? l.encode = some l := by
  simp [decode?, encode, Json.toMembers?]

/-- **A span is read as it was**, with its source or without. -/
theorem Span.decode?_encode (span : Span) : decode? span.encode = some span := by
  have hsource : Json.toOption? Json.toString? (.ofOption .string span.source) =
      some span.source :=
    Json.toOption?_ofOption .string (fun _ => nofun) (fun _ => rfl) span.source
  simp [decode?, encode, Json.toMembers?, Location.decode?_encode, hsource]

theorem Span.isReadable_encode (span : Span) : span.encode.isReadable = true := by
  have hsource : (Json.ofOption .string span.source).isReadable = true :=
    Json.isReadable_ofOption .string (fun _ => rfl) span.source
  simp [encode, Location.encode, Json.ofUInt64, Json.isReadable, Json.allMembersReadable, hsource]

theorem Directives.decode?_encode (s : Directives) : decode? s.encode = some s := by
  rw [encode, decode?, Json.toString?]
  exact ofText?_toText s

end MarkupTemplate
