import Mathlib.Data.Option.Basic
import MarkupTemplate.Format.TreeReader
import MarkupTemplate.Format.TreeWriter
import MarkupTemplate.Proofs.Format.Fields
/-!
# Trees, written and read

`Json.ReadsAs` says of a value that it is readable and what a reader makes of it;
`ItemsReadAs` and `FieldsReadAs` say the same of the items of an array and of the fields
of an object. For each structure one lemma leads from its parts to the whole: if what is
written of the parts reads as the parts, what is written of the structure reads as the
structure. `Node.readsAs_encode` and the theorems beside it put these lemmas together,
along the constructors.
-/

namespace MarkupTemplate

variable {α : Type} {read : Reading → Option α} {json item : Json} {items : List Json}
variable {a : α} {values : List α}

/-- **A value reads as something**: it is readable, and that is what a reader makes of
it. -/
def Json.ReadsAs (json : Json) (read : Reading → Option α) (a : α) : Prop :=
  json.isReadable = true ∧ read json.reading = some a

/-- The items of an array read as a list. -/
def ItemsReadAs (items : List Json) (read : Reading → Option α) (values : List α) : Prop :=
  (∀ item ∈ items, item.isReadable = true) ∧ (Json.readItems items).mapM read = some values

/-- The fields of an object read as something. -/
def FieldsReadAs (fields : List (String × Json)) (read : Readings → Option α) (a : α) : Prop :=
  (∀ field ∈ fields, field.2.isReadable = true) ∧ read (Json.readMembers fields) = some a

/-! ## Readings -/

@[simp]
theorem json_reading (json : Json) : json.reading.json = json := by
  cases json <;> rfl

theorem readMembers_eq_map (fields : List (String × Json)) :
    Json.readMembers fields = fields.map fun field => (field.1, field.2.reading) := by
  induction fields with
  | nil => rfl
  | cons field fields ih => rw [Json.readMembers, ih, List.map_cons]

/-- Reading keeps the names of the fields. -/
@[simp]
theorem keys_readMembers (fields : List (String × Json)) :
    (Json.readMembers fields).map Prod.fst = fields.map Prod.fst := by
  rw [readMembers_eq_map, List.map_map]
  rfl

theorem readMembers_append (fields more : List (String × Json)) :
    Json.readMembers (fields ++ more) = Json.readMembers fields ++ Json.readMembers more := by
  rw [readMembers_eq_map, readMembers_eq_map, readMembers_eq_map, List.map_append]

/-! ## Arrays and objects -/

theorem itemsReadAs_nil : ItemsReadAs [] read [] :=
  ⟨nofun, rfl⟩

theorem itemsReadAs_cons (hitem : item.ReadsAs read a) (hitems : ItemsReadAs items read values) :
    ItemsReadAs (item :: items) read (a :: values) := by
  obtain ⟨hreadable, hread⟩ := hitem
  obtain ⟨hreadables, hreads⟩ := hitems
  refine ⟨List.forall_mem_cons.mpr ⟨hreadable, hreadables⟩, ?_⟩
  rw [Json.readItems, List.mapM_cons, hread, hreads]
  rfl

namespace ItemsReadAs

theorem nodes {nodes : List Node} (h : ItemsReadAs items Reading.node nodes) :
    (Json.array items).ReadsAs Reading.nodes nodes :=
  ⟨Json.isReadable_array_iff.mpr h.1, h.2⟩

theorem pairs {pairs : List Pair} (h : ItemsReadAs items Reading.pair pairs) :
    (Json.array items).ReadsAs Reading.pairs pairs :=
  ⟨Json.isReadable_array_iff.mpr h.1, h.2⟩

theorem attrs {attrs : List Attr} (h : ItemsReadAs items Reading.attr attrs) :
    (Json.array items).ReadsAs Reading.attrs attrs :=
  ⟨Json.isReadable_array_iff.mpr h.1, h.2⟩

end ItemsReadAs

variable {fields : List (String × Json)}

namespace FieldsReadAs

theorem program {p : Program} (h : FieldsReadAs fields Readings.program? p) :
    (Json.object fields).ReadsAs Reading.program p :=
  ⟨Json.isReadable_object_iff.mpr h.1, h.2⟩

theorem hash {hash : Hash} (h : FieldsReadAs fields Readings.hash? hash) :
    (Json.object fields).ReadsAs Reading.hash hash :=
  ⟨Json.isReadable_object_iff.mpr h.1, h.2⟩

theorem pair {pair : Pair} (h : FieldsReadAs fields Readings.pair? pair) :
    (Json.object fields).ReadsAs Reading.pair pair :=
  ⟨Json.isReadable_object_iff.mpr h.1, h.2⟩

theorem attr {attr : Attr} (h : FieldsReadAs fields Readings.attr? attr) :
    (Json.object fields).ReadsAs Reading.attr attr :=
  ⟨Json.isReadable_object_iff.mpr h.1, h.2⟩

/-- What is made of what the fields read as. -/
theorem map {β : Type} {read : Readings → Option α} (h : FieldsReadAs fields read a)
    (make : α → β) : FieldsReadAs fields (fun fields => make <$> read fields) (make a) := by
  obtain ⟨hreadable, hread⟩ := h
  exact ⟨hreadable, by simp [hread]⟩

end FieldsReadAs

/-! ## The kind of a node -/

theorem Node.Kind.ofName?_name (kind : Node.Kind) : ofName? kind.name = some kind := by
  cases kind <;> rfl

/-- The fields of a node are read past its `type`. -/
theorem nodeOfKind?_cons_type (r : Reading) (fields : Readings) (kind : Node.Kind) :
    Readings.nodeOfKind? (("type", r) :: fields) kind = fields.nodeOfKind? kind := by
  cases kind <;> simp [Readings.nodeOfKind?, Readings.program?, Readings.element?,
    Readings.component?, Readings.mustache?, Readings.block?, Readings.subExpression?,
    Readings.expression?, Readings.path?, Readings.string?, Readings.loc?, Readings.strip?,
    Readings.nodes?, Readings.attributes?, Path.decode?, Json.toMembers?]

/-- **A node reads as its kind and fields do**, if no field is named as the kind is. -/
theorem readsAs_typed {kind : Node.Kind} {node : Node} (hkeys : "type" ∉ fields.map Prod.fst)
    (h : FieldsReadAs fields (fun fields => fields.nodeOfKind? kind) node) :
    (typed kind fields).ReadsAs Reading.node node := by
  obtain ⟨hreadable, hread⟩ := h
  have hkind : (Json.string kind.name).isReadable = true := rfl
  have hobject : (typed kind fields).isReadable = true :=
    Json.isReadable_object_iff.mpr (List.forall_mem_cons.mpr ⟨hkind, hreadable⟩)
  refine ⟨hobject, ?_⟩
  -- no other field can be taken for the kind, and the kind's own reader passes it over
  have htype : Readings.string? "type" (("type", Json.reading (.string kind.name)) ::
      Json.readMembers fields) = some kind.name := by
    rw [← keys_readMembers] at hkeys
    rw [Readings.string?, requiredField?_cons_self hkeys]
    rfl
  have hnode : Readings.node? (("type", Json.reading (.string kind.name)) ::
      Json.readMembers fields) = some node := by
    simp only [Readings.node?, htype, Option.bind_eq_bind, Option.bind_some,
      Node.Kind.ofName?_name, nodeOfKind?_cons_type, hread]
  unfold typed at hobject ⊢
  rw [Json.reading, Reading.ofFields, if_pos hobject, Json.readMembers, hnode]

/-! ## Values without nodes in them -/

@[simp]
theorem isReadable_encodeLoc (loc : Option Span) : (encodeLoc loc).isReadable = true :=
  Json.isReadable_ofOption Span.encode Span.isReadable_encode loc

@[simp]
theorem toOption?_encodeLoc (loc : Option Span) :
    Json.toOption? Span.decode? (encodeLoc loc) = some loc :=
  Json.toOption?_ofOption Span.encode (fun _ => nofun) Span.decode?_encode loc

@[simp]
theorem isReadable_encodeStrings (texts : List String) : (encodeStrings texts).isReadable = true :=
  Json.isReadable_ofList .string (fun _ => rfl) texts

@[simp]
theorem toList?_encodeStrings (texts : List String) :
    Json.toList? Json.toString? (encodeStrings texts) = some texts :=
  Json.toList?_ofList .string (fun _ => rfl) texts

@[simp]
theorem isReadable_encodeParams (params : Option (List String)) :
    (Json.ofOption encodeStrings params).isReadable = true :=
  Json.isReadable_ofOption encodeStrings isReadable_encodeStrings params

/-- Absent names are not the same as no names, and each is read as it was. -/
@[simp]
theorem toOption?_encodeParams (params : Option (List String)) :
    Json.toOption? (Json.toList? Json.toString?) (.ofOption encodeStrings params) = some params :=
  Json.toOption?_ofOption encodeStrings (fun _ => nofun) toList?_encodeStrings params

@[simp]
theorem isReadable_encodeStrip (s : Directives) : s.encode.isReadable = true := rfl

theorem Path.decode?_encode (p : Path) : decode? p.encode = some p := by
  simp [decode?, encode, Path.fields, Json.toMembers?]

theorem Path.isReadable_encode (p : Path) : p.encode.isReadable = true := by
  refine Json.isReadable_object_iff.mpr ?_
  simp [Path.fields]

/-! ## Structures, from their parts

A mustache, a block and a subexpression have the fields of their expression in front of
their own. `Expression.fieldsReadAs_append` reads the expression past the ones, and the two
lemmas behind it read the others past the expression. -/

theorem Program.fieldsReadAs {p : Program}
    (hbody : ItemsReadAs (encodeNodeItems p.body) Reading.node p.body) :
    FieldsReadAs p.fields Readings.program? p := by
  obtain ⟨body, blockParams, strip, loc⟩ := p
  obtain ⟨hreadable, hread⟩ := hbody.nodes
  constructor
  · simp [Program.fields, hreadable]
  · simp [Program.fields, Json.readMembers, Readings.program?, Readings.strip?, Readings.loc?,
      Directives.decode?_encode, hread]

theorem Element.fieldsReadAs {e : Element}
    (hattributes : ItemsReadAs (encodeAttrItems e.attributes) Reading.attr e.attributes)
    (hchildren : ItemsReadAs (encodeNodeItems e.children) Reading.node e.children) :
    FieldsReadAs e.fields Readings.element? e := by
  obtain ⟨tag, attributes, children, loc⟩ := e
  obtain ⟨hreadable, hread⟩ := hattributes.attrs
  obtain ⟨hreadable', hread'⟩ := hchildren.nodes
  constructor
  · simp [Element.fields, hreadable, hreadable']
  · simp [Element.fields, Json.readMembers, Readings.element?, Readings.string?,
      Readings.attributes?, Readings.nodes?, Readings.loc?, hread, hread']

theorem Attr.readsAs {attr : Attr} (hvalue : attr.value.encode.ReadsAs Reading.node attr.value) :
    attr.encode.ReadsAs Reading.attr attr := by
  obtain ⟨name, value, loc⟩ := attr
  obtain ⟨hreadable, hread⟩ := hvalue
  refine FieldsReadAs.attr ⟨?_, ?_⟩
  · simp [hreadable]
  · simp [Json.readMembers, Readings.attr?, Readings.string?, Readings.loc?, hread]

theorem Component.fieldsReadAs {c : Component}
    (hattributes : ItemsReadAs (encodeAttrItems c.attributes) Reading.attr c.attributes)
    (hprogram : FieldsReadAs c.program.fields Readings.program? c.program) :
    FieldsReadAs c.fields Readings.component? c := by
  obtain ⟨tag, attributes, program, loc⟩ := c
  obtain ⟨hreadable, hread⟩ := hattributes.attrs
  obtain ⟨hreadable', hread'⟩ := hprogram.program
  constructor
  · simp [Component.fields, hreadable, hreadable']
  · simp [Component.fields, Json.readMembers, Readings.component?, Readings.string?,
      Readings.attributes?, Readings.loc?, hread, hread']

theorem Pair.readsAs {pair : Pair} (hvalue : pair.value.encode.ReadsAs Reading.node pair.value) :
    pair.encode.ReadsAs Reading.pair pair := by
  obtain ⟨key, value⟩ := pair
  obtain ⟨hreadable, hread⟩ := hvalue
  refine FieldsReadAs.pair ⟨?_, ?_⟩
  · simp [hreadable]
  · simp [Json.readMembers, Readings.pair?, Readings.string?, hread]

/-- Named arguments, from the pairs. -/
theorem Hash.readsAs {hash : Hash} (hpairs : ItemsReadAs (encodePairItems hash) Reading.pair hash) :
    (Hash.encode hash).ReadsAs Reading.hash hash := by
  obtain ⟨hreadable, hread⟩ := hpairs.pairs
  refine FieldsReadAs.hash ⟨?_, ?_⟩
  · simp [hreadable]
  · simp [Json.readMembers, Readings.hash?, hread]

theorem Expression.fieldsReadAs {e : Expression}
    (hparams : ItemsReadAs (encodeNodeItems e.params) Reading.node e.params)
    (hhash : ItemsReadAs (encodePairItems e.hash) Reading.pair e.hash) :
    FieldsReadAs e.fields Readings.expression? e := by
  obtain ⟨path, params, hash⟩ := e
  obtain ⟨hreadable, hread⟩ := hparams.nodes
  obtain ⟨hreadable', hread'⟩ := Hash.readsAs hhash
  unfold Hash.encode at hreadable' hread'
  constructor
  · simp [Expression.fields, Path.isReadable_encode, hreadable, hreadable']
  · simp [Expression.fields, Json.readMembers, Readings.expression?, Readings.nodes?,
      Path.decode?_encode, hread, hread']

/-- The names of the fields of an expression. -/
@[simp]
theorem Expression.keys_fields (e : Expression) :
    e.fields.map Prod.fst = ["path", "params", "hash"] := by
  cases e
  rfl

/-- An expression is read past other fields behind its own. -/
theorem Expression.fieldsReadAs_append {e : Expression} {more : List (String × Json)}
    (he : FieldsReadAs e.fields Readings.expression? e)
    (hmore : ∀ name ∈ ["path", "params", "hash"], name ∉ more.map Prod.fst) :
    Readings.expression? (Json.readMembers (e.fields ++ more)) = some e := by
  rw [← keys_readMembers] at hmore
  obtain ⟨hpath, hparams, hhash⟩ : "path" ∉ (Json.readMembers more).map Prod.fst ∧
      "params" ∉ (Json.readMembers more).map Prod.fst ∧
      "hash" ∉ (Json.readMembers more).map Prod.fst := by
    simpa using hmore
  rw [readMembers_append, ← he.2]
  simp only [Readings.expression?, Readings.nodes?, requiredField?_append_left hpath,
    optionalField?_append_left hparams, optionalField?_append_left hhash]

section

variable {name : String} {more : List (String × Json)} {decode? : Reading → Option α}
variable {fallback : α}

/-- Other fields are read past those of an expression. -/
theorem Expression.requiredField?_append (e : Expression) (h : name ∉ ["path", "params", "hash"]) :
    requiredField? name decode? (Json.readMembers (e.fields ++ more)) =
      requiredField? name decode? (Json.readMembers more) := by
  rw [← e.keys_fields, ← keys_readMembers] at h
  rw [readMembers_append, requiredField?_append_right h]

theorem Expression.optionalField?_append (e : Expression) (h : name ∉ ["path", "params", "hash"]) :
    optionalField? name fallback decode? (Json.readMembers (e.fields ++ more)) =
      optionalField? name fallback decode? (Json.readMembers more) := by
  rw [← e.keys_fields, ← keys_readMembers] at h
  rw [readMembers_append, optionalField?_append_right h]

end

theorem Mustache.fieldsReadAs {m : Mustache}
    (he : FieldsReadAs m.expression.fields Readings.expression? m.expression) :
    FieldsReadAs m.fields Readings.mustache? m := by
  obtain ⟨expression, escaped, strip, loc⟩ := m
  have hexpression : Readings.expression? (Json.readMembers (expression.fields ++
      [("escaped", .bool escaped), ("strip", strip.encode), ("loc", encodeLoc loc)])) =
      some expression := Expression.fieldsReadAs_append he (by simp)
  constructor
  · refine List.forall_mem_append.mpr ⟨he.1, ?_⟩
    simp
  · simp [Mustache.fields, Readings.mustache?, Readings.strip?, Readings.loc?, hexpression,
      Expression.optionalField?_append, Json.readMembers, Directives.decode?_encode]

theorem Block.fieldsReadAs {b : Block}
    (he : FieldsReadAs b.expression.fields Readings.expression? b.expression)
    (hprogram : FieldsReadAs b.program.fields Readings.program? b.program)
    (hinverse : (encodeInverse b.inverse).ReadsAs Reading.inverse b.inverse) :
    FieldsReadAs b.fields Readings.block? b := by
  obtain ⟨expression, program, inverse, openStrip, closeStrip, loc⟩ := b
  obtain ⟨hreadable, hread⟩ := hprogram.program
  obtain ⟨hreadable', hread'⟩ := hinverse
  have hexpression : Readings.expression? (Json.readMembers (expression.fields ++
      [("program", .object program.fields), ("inverse", encodeInverse inverse),
        ("openStrip", openStrip.encode), ("closeStrip", closeStrip.encode),
        ("loc", encodeLoc loc)])) = some expression :=
    Expression.fieldsReadAs_append he (by simp)
  constructor
  · refine List.forall_mem_append.mpr ⟨he.1, ?_⟩
    simp [hreadable, hreadable']
  · simp [Block.fields, Readings.block?, Readings.strip?, Readings.loc?, hexpression,
      Expression.requiredField?_append, Expression.optionalField?_append, Json.readMembers,
      Directives.decode?_encode, hread, hread']

theorem SubExpression.fieldsReadAs {e : SubExpression}
    (he : FieldsReadAs e.expression.fields Readings.expression? e.expression) :
    FieldsReadAs e.fields Readings.subExpression? e := by
  obtain ⟨expression, loc⟩ := e
  have hexpression : Readings.expression? (Json.readMembers (expression.fields ++
      [("loc", encodeLoc loc)])) = some expression := Expression.fieldsReadAs_append he (by simp)
  constructor
  · refine List.forall_mem_append.mpr ⟨he.1, ?_⟩
    simp
  · simp [SubExpression.fields, Readings.subExpression?, Readings.loc?, hexpression,
      Expression.optionalField?_append, Json.readMembers]

theorem Path.fieldsReadAs (p : Path) : FieldsReadAs p.fields Readings.path? p := by
  constructor
  · simp [Path.fields]
  · have hfields : (Json.readMembers p.fields).map (fun field => (field.1, field.2.json)) =
        p.fields := by
      simp [readMembers_eq_map, Function.comp_def]
    rw [Readings.path?, hfields]
    exact p.decode?_encode

/-! ## Trees -/

/-- A node that is a value and its place reads as its two fields do. -/
theorem fieldsReadAs_value {β : Type} {value : Json} {loc : Option Span} (name : String)
    (make : α → Option Span → β) (hname : name ≠ "loc") (h : value.ReadsAs read a) :
    FieldsReadAs [(name, value), ("loc", encodeLoc loc)]
      (fun fields => make <$> requiredField? name read fields <*> fields.loc?) (make a loc) := by
  obtain ⟨hreadable, hread⟩ := h
  constructor
  · simp [hreadable]
  · simp [Json.readMembers, Readings.loc?, hname, hread]

mutual

/-- **What is written of a node reads as the node.** -/
theorem Node.readsAs_encode : ∀ node : Node, node.encode.ReadsAs Reading.node node
  | .program p =>
    readsAs_typed (by cases p; simp [Program.fields]) ((Program.readsAs_fields p).map Node.program)
  | .element e =>
    readsAs_typed (by cases e; simp [Element.fields]) ((Element.readsAs_fields e).map Node.element)
  | .component c =>
    readsAs_typed (by cases c; simp [Component.fields])
      ((Component.readsAs_fields c).map Node.component)
  | .text chars _ => by
    have hchars : (Json.string chars).ReadsAs (fun r => r.json.toString?) chars := ⟨rfl, rfl⟩
    exact readsAs_typed (by simp) (fieldsReadAs_value "chars" Node.text (by simp) hchars)
  | .mustache m =>
    readsAs_typed (by cases m; simp [Mustache.fields]) ((Mustache.readsAs_fields m).map Node.mustache)
  | .block b =>
    readsAs_typed (by cases b; simp [Block.fields]) ((Block.readsAs_fields b).map Node.block)
  | .comment value _ => by
    have hvalue : (Json.string value).ReadsAs (fun r => r.json.toString?) value := ⟨rfl, rfl⟩
    exact readsAs_typed (by simp) (fieldsReadAs_value "value" Node.comment (by simp) hvalue)
  | .concat parts _ =>
    readsAs_typed (by simp)
      (fieldsReadAs_value "parts" Node.concat (by simp) (itemsReadAs_encodeNodes parts).nodes)
  | .subExpression e =>
    readsAs_typed (by cases e; simp [SubExpression.fields])
      ((SubExpression.readsAs_fields e).map Node.subExpression)
  | .path p =>
    readsAs_typed (by simp [Path.fields]) (p.fieldsReadAs.map Node.path)
  | .string value _ => by
    have hvalue : (Json.string value).ReadsAs (fun r => r.json.toString?) value := ⟨rfl, rfl⟩
    exact readsAs_typed (by simp) (fieldsReadAs_value "value" Node.string (by simp) hvalue)
  | .number value _ => by
    have hvalue : (Json.float value).ReadsAs (fun r => r.json.toDouble?) value := ⟨rfl, rfl⟩
    exact readsAs_typed (by simp) (fieldsReadAs_value "value" Node.number (by simp) hvalue)
  | .boolean value _ => by
    have hvalue : (Json.bool value).ReadsAs (fun r => r.json.toBool?) value := ⟨rfl, rfl⟩
    exact readsAs_typed (by simp) (fieldsReadAs_value "value" Node.boolean (by simp) hvalue)

theorem itemsReadAs_encodeNodes : ∀ nodes : List Node,
    ItemsReadAs (encodeNodeItems nodes) Reading.node nodes
  | [] => itemsReadAs_nil
  | node :: nodes => itemsReadAs_cons (Node.readsAs_encode node) (itemsReadAs_encodeNodes nodes)

theorem Program.readsAs_fields : ∀ p : Program, FieldsReadAs p.fields Readings.program? p
  | ⟨body, _, _, _⟩ => Program.fieldsReadAs (itemsReadAs_encodeNodes body)

theorem readsAs_encodeInverse : ∀ inverse : Option Program,
    (encodeInverse inverse).ReadsAs Reading.inverse inverse
  | none => ⟨rfl, rfl⟩
  | some p => by
    obtain ⟨hreadable, hread⟩ := (Program.readsAs_fields p).program
    -- an object is not null, so it is not taken for an absent program
    refine ⟨hreadable, ?_⟩
    simp [encodeInverse, Reading.inverse, hread]

theorem Element.readsAs_fields : ∀ e : Element, FieldsReadAs e.fields Readings.element? e
  | ⟨_, attributes, children, _⟩ =>
    Element.fieldsReadAs (itemsReadAs_encodeAttrs attributes) (itemsReadAs_encodeNodes children)

theorem Attr.readsAs_encode : ∀ attr : Attr, attr.encode.ReadsAs Reading.attr attr
  | ⟨_, value, _⟩ => Attr.readsAs (Node.readsAs_encode value)

theorem itemsReadAs_encodeAttrs : ∀ attrs : List Attr,
    ItemsReadAs (encodeAttrItems attrs) Reading.attr attrs
  | [] => itemsReadAs_nil
  | attr :: attrs => itemsReadAs_cons (Attr.readsAs_encode attr) (itemsReadAs_encodeAttrs attrs)

theorem Component.readsAs_fields : ∀ c : Component, FieldsReadAs c.fields Readings.component? c
  | ⟨_, attributes, program, _⟩ =>
    Component.fieldsReadAs (itemsReadAs_encodeAttrs attributes) (Program.readsAs_fields program)

theorem Expression.readsAs_fields : ∀ e : Expression,
    FieldsReadAs e.fields Readings.expression? e
  | ⟨_, params, hash⟩ =>
    Expression.fieldsReadAs (itemsReadAs_encodeNodes params) (itemsReadAs_encodePairs hash)

theorem Pair.readsAs_encode : ∀ pair : Pair, pair.encode.ReadsAs Reading.pair pair
  | ⟨_, value⟩ => Pair.readsAs (Node.readsAs_encode value)

theorem itemsReadAs_encodePairs : ∀ pairs : List Pair,
    ItemsReadAs (encodePairItems pairs) Reading.pair pairs
  | [] => itemsReadAs_nil
  | pair :: pairs => itemsReadAs_cons (Pair.readsAs_encode pair) (itemsReadAs_encodePairs pairs)

theorem Mustache.readsAs_fields : ∀ m : Mustache, FieldsReadAs m.fields Readings.mustache? m
  | ⟨expression, _, _, _⟩ => Mustache.fieldsReadAs (Expression.readsAs_fields expression)

theorem Block.readsAs_fields : ∀ b : Block, FieldsReadAs b.fields Readings.block? b
  | ⟨expression, program, inverse, _, _, _⟩ =>
    Block.fieldsReadAs (Expression.readsAs_fields expression) (Program.readsAs_fields program)
      (readsAs_encodeInverse inverse)

theorem SubExpression.readsAs_fields : ∀ e : SubExpression,
    FieldsReadAs e.fields Readings.subExpression? e
  | ⟨expression, _⟩ => SubExpression.fieldsReadAs (Expression.readsAs_fields expression)

end

/-! ## Decoding -/

theorem Node.decode?_encode (node : Node) : decode? node.encode = some node :=
  node.readsAs_encode.2

theorem Program.decode?_encode (p : Program) : decode? p.encode = some p :=
  p.readsAs_fields.program.2

theorem Element.decode?_encode (e : Element) : decode? e.encode = some e :=
  e.readsAs_fields.2

theorem Attr.decode?_encode (attr : Attr) : decode? attr.encode = some attr :=
  attr.readsAs_encode.2

theorem Hash.decode?_encode (hash : Hash) : decode? (encode hash) = some hash :=
  (Hash.readsAs (itemsReadAs_encodePairs hash)).2

end MarkupTemplate
