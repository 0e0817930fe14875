import MarkupTemplate.Compile
import MarkupTemplate.Format.Declaration
import MarkupTemplate.Proofs.Format.Tree
import MarkupTemplate.Registry.Definition
/-!
# Lossless forms — what is written is read as it was

A map is written as an object whose members are its entries. No key of it stands twice,
so the object is read as the map, in the same order; data values are plain, so merging
their keys changes nothing. With that, and with the trees, every JSON form can be read
as what it was written from.
-/

namespace MarkupTemplate

section

variable {α : Type} {decode? : Json → Option α}

/-- **A map is read as it was**, its keys in their order, if its values are. -/
theorem decodeMap?_encodeMap (encode : α → Json) (h : ∀ a, decode? (encode a) = some a)
    (map : OrderedMap String α) :
    decodeMap? decode? (encodeMap encode map) = some map := by
  have hentries : (map.entries.map fun entry => (entry.1, encode entry.2)).mapM
      (fun entry => (decode? entry.2).map (entry.1, ·)) = some map.entries := by
    induction map.entries with
    | nil => rfl
    | cons entry entries ih =>
      rw [List.map_cons, List.mapM_cons, ih, h]
      rfl
  have hmap : OrderedMap.ofList map.entries = map :=
    OrderedMap.ext (OrderedMap.entries_ofList map.nodup)
  rw [encodeMap, decodeMap?, Json.toMembers?]
  simp only [Option.bind_eq_bind, Option.bind_some, hentries, hmap]
  rfl

end

/-- A data value is read as it was: it has no keys to merge. -/
theorem Data.ofJson?_json (value : Data) : ofJson? value.json = some value := by
  have hmerged : value.json.merged = value.json := Json.merged_of_isPlain value.plain
  have hplain : value.json.merged.isPlain = true := by
    rw [hmerged]
    exact value.plain
  rw [ofJson?, dif_pos hplain]
  congr

/-- A member is written without loose ends. -/
theorem Member.isReadable_encode (member : Member) : member.encode.isReadable = true := by
  cases member with
  | data value =>
    have hvalue : value.json.isReadable = true := Json.isReadable_of_isPlain value.plain
    refine Json.isReadable_object_iff.mpr ?_
    simp [hvalue]
  | function arity returnsValue =>
    refine Json.isReadable_object_iff.mpr ?_
    simp

/-- **A member is read as it was.** -/
theorem Member.decode?_encode (member : Member) : decode? member.encode = some member := by
  have hreadable := member.isReadable_encode
  cases member with
  | data value =>
    rw [encode] at hreadable ⊢
    simp [decode?, Json.toMembers?, hreadable, Data.ofJson?_json]
  | function arity returnsValue =>
    rw [encode] at hreadable ⊢
    simp [decode?, Json.toMembers?, hreadable]

/-- **A declaration is read as it was**, members and routes in their order. -/
theorem Declaration.decode?_encode (d : Declaration) : decode? d.encode = some d := by
  have hmembers := decodeMap?_encodeMap Member.encode Member.decode?_encode d.members
  have hroutes : decodeMap? Json.toString? (encodeMap .string d.routes) = some d.routes :=
    decodeMap?_encodeMap .string (fun _ => rfl) d.routes
  have htemplate : Json.toOption? Json.toString? (.ofOption .string d.template) =
      some d.template := Json.toOption?_ofOption .string (fun _ => nofun) (fun _ => rfl) d.template
  simp [decode?, encode, Json.toMembers?, hmembers, hroutes, htemplate]

/-- **The JSON forms lose nothing.** What is written of a tree or of a part of it, of a
span, of a member or of a declaration is read as what it was; so a template compiles as
it did before it was written and read, and a declaration makes the same definition or has
the same fault. -/
theorem lossless_forms :
    (∀ node : Node, Node.decode? node.encode = some node) ∧
      (∀ p : Program, Program.decode? p.encode = some p) ∧
      (∀ e : Element, Element.decode? e.encode = some e) ∧
      (∀ attr : Attr, Attr.decode? attr.encode = some attr) ∧
      (∀ hash : Hash, Hash.decode? (Hash.encode hash) = some hash) ∧
      (∀ path : Path, Path.decode? path.encode = some path) ∧
      (∀ span : Span, Span.decode? span.encode = some span) ∧
      (∀ member : Member, Member.decode? member.encode = some member) ∧
      (∀ d : Declaration, Declaration.decode? d.encode = some d) ∧
      (∀ (config : Config) (p : Program),
        (Program.decode? p.encode).map (Program.compile config) = some (p.compile config)) ∧
      ∀ d : Declaration, (Declaration.decode? d.encode).map Definition.ofDeclaration =
        some (Definition.ofDeclaration d) := by
  refine ⟨Node.decode?_encode, Program.decode?_encode, Element.decode?_encode,
    Attr.decode?_encode, Hash.decode?_encode, Path.decode?_encode, Span.decode?_encode,
    Member.decode?_encode, Declaration.decode?_encode, ?_, ?_⟩
  · intro config p
    rw [Program.decode?_encode, Option.map_some]
  · intro d
    rw [Declaration.decode?_encode, Option.map_some]

end MarkupTemplate
