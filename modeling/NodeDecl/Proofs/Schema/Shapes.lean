import NodeDecl.Proofs.Json.Shapes
import NodeDecl.Schema.Load

/-!
# The shape of schema documents

A schema document is accepted exactly if it has the shape of a registry.  Any other document is
refused with the path of the first value in it that does not fit.
-/

namespace NodeDecl

open Json (Value Shape Follows)

theorem readUnlessNull_follows : Follows readUnlessNull .any :=
  Json.readValue_follows.map _

namespace FieldSpec

/-- The shape of field specifications. -/
def shape : Shape :=
  .record fun
    | "optional" => .bool
    | _ => .any

theorem reader_follows : Follows reader shape := by
  apply Json.Record.reader_follows
  · intro known member
    simp only [record, List.mem_cons, List.not_mem_nil, or_false] at member
    obtain rfl | rfl | rfl := member
    · exact readUnlessNull_follows.map _
    · exact Json.readBool_follows.map _
    · exact readUnlessNull_follows.map _
  · intro name unknown
    simp only [record, List.map_cons, List.map_nil, List.mem_cons, List.not_mem_nil, or_false,
      not_or] at unknown
    split
    · exact absurd rfl unknown.2.1
    · rfl

end FieldSpec

namespace KindDefinition

/-- The shape of kind definitions. -/
def shape : Shape :=
  .record fun
    | "builder" | "aliases" => .list .string
    | "fields" => .map FieldSpec.shape
    | _ => .any

theorem reader_follows : Follows reader shape := by
  apply Json.Record.reader_follows
  · intro known member
    simp only [record, List.mem_cons, List.not_mem_nil, or_false] at member
    obtain rfl | rfl | rfl := member
    · exact Json.readStrings_follows.map _
    · exact (Json.readMap_follows FieldSpec.reader_follows).map _
    · exact Json.readStrings_follows.map _
  · intro name unknown
    simp only [record, List.map_cons, List.map_nil, List.mem_cons, List.not_mem_nil, or_false,
      not_or] at unknown
    split
    · exact absurd rfl unknown.1
    · exact absurd rfl unknown.2.2
    · exact absurd rfl unknown.2.1
    · rfl

end KindDefinition

namespace Registry

/-- The shape of schema documents. -/
def shape : Shape :=
  .record fun
    | "nodes" => .map KindDefinition.shape
    | _ => .any

/-- Kind definitions are taken up as long as their names differ. -/
theorem readKinds_follows : Follows readKinds (.map KindDefinition.shape) := by
  have takes : Json.TakesShapes takeKind (fun kinds names => (kinds.keys ++ names).Nodup)
      fun _ => KindDefinition.shape := by
    intro levels name value text spelled storable keyed kinds names awaited
    have fresh : name ∉ kinds.keys := fun given =>
      (List.nodup_append.1 awaited).2.2 name given name List.mem_cons_self rfl
    have judges := KindDefinition.reader_follows levels value text spelled storable keyed
    refine ⟨_, rfl, judges.map _, ?_⟩
    refine (Json.Reader.Yields.anything (KindDefinition.reader levels)).map ?_
    intro definition _
    have new : kinds.contains name = false := by
      rw [← Bool.not_eq_true, OrderedMap.contains_iff]
      exact fresh
    refine ⟨kinds.insert name definition, by simp [new], ?_⟩
    show ((kinds.insert name definition).keys ++ names).Nodup
    rwa [OrderedMap.keys_insert_of_not_mem fresh, List.append_assoc]
  apply takes.map
  intro names distinct
  exact distinct

theorem reader_follows : Follows reader shape := by
  apply Json.Record.reader_follows
  · intro known member
    simp only [record, List.mem_cons, List.not_mem_nil, or_false] at member
    subst member
    exact readKinds_follows.map _
  · intro name unknown
    simp only [record, List.map_cons, List.map_nil, List.mem_cons, List.not_mem_nil,
      or_false] at unknown
    split
    · exact absurd rfl unknown
    · rfl

/-- A document that nowhere gives a record as a list is accepted exactly if it has the shape of
a registry.  Any other is refused, and the path of the error is that of the first value, in the
order of the document, that does not fit. -/
theorem parse_follows_shape {document : Value} {before text after : List Char}
    (spelled : Json.TreeText document text) (storable : Json.Storable Json.nestingLimit document)
    (keyed : shape.Keyed document) (beforeBlank : Json.Blank before)
    (afterBlank : Json.Blank after) (origin : String) :
    ((∃ registry, parse (String.ofList (before ++ (text ++ after))) origin = .ok registry) ↔
      shape.Fits document) ∧
    (¬ shape.Fits document →
      ∃ error others,
        parse (String.ofList (before ++ (text ++ after))) origin =
          .error (.schema origin error) ∧
        shape.offences document = error.path :: others) := by
  have judges := reader_follows _ document text spelled storable keyed
  rw [Json.Shape.fits_iff_offences_eq_nil, parse]
  obtain ⟨registry, none, accepted⟩ | ⟨error, others, some, refused⟩ :=
    judges.parse beforeBlank afterBlank.toDelimited
  · rw [accepted]
    exact ⟨iff_of_true ⟨registry, rfl⟩ none, fun wrong => absurd none wrong⟩
  · rw [refused]
    have wrong : shape.offences document ≠ [] := by simp [some]
    refine ⟨iff_of_false ?_ wrong, fun _ => ⟨error, others, rfl, some⟩⟩
    rintro ⟨registry, equal⟩
    contradiction

/-- A document with a kind that does not fit in two places, behind members that no registry
has. -/
def misshapen : Value :=
  .object
    [("version", .array [.null]),
     ("nodes", .object
      [("Leaf", .object
        [("note", .string ""),
         ("builder", .array [.string "value", .null]),
         ("fields", .object [("value", .object [("optional", .string "no")])])])])]

theorem parse_misshapen :
    ∃ error,
      parse (String.ofList ([' '] ++ (misshapen.written .pretty 0 ++ ['\n']))) "nodes.json" =
        .error (.schema "nodes.json" error) ∧
      error.path = [.key "nodes", .key "Leaf", .key "builder", .index 1] := by
  have builder : Json.Storable 124 (.array [.string "value", .null]) :=
    .array (List.forall_mem_cons.2 ⟨.string _, List.forall_mem_singleton.2 .null⟩)
  have fields : Json.Storable 124
      (.object [("value", .object [("optional", .string "no")])]) :=
    .object (by decide) (List.forall_mem_singleton.2
      (.object (by decide) (List.forall_mem_singleton.2 (.string _))))
  have leaf : Json.Storable 125 (.object
      [("note", .string ""), ("builder", .array [.string "value", .null]),
       ("fields", .object [("value", .object [("optional", .string "no")])])]) :=
    .object (by decide) (List.forall_mem_cons.2 ⟨.string _,
      List.forall_mem_cons.2 ⟨builder, List.forall_mem_singleton.2 fields⟩⟩)
  have storable : Json.Storable Json.nestingLimit misshapen :=
    .object (by decide) (List.forall_mem_cons.2 ⟨.array (List.forall_mem_singleton.2 .null),
      List.forall_mem_singleton.2 (.object (by decide) (List.forall_mem_singleton.2 leaf))⟩)
  have whole : Json.AllWhole misshapen.numbers := by
    have none : misshapen.numbers = [] := by decide
    rw [none]
    nofun
  have keyed : shape.Keyed misshapen := by
    simp [misshapen, shape, KindDefinition.shape, FieldSpec.shape, Shape.Keyed]
  have blank : Json.Blank [' '] ∧ Json.Blank ['\n'] := by
    simp [Json.Blank, Json.isBlank]
  have wrong : shape.offences misshapen =
      [[.key "nodes", .key "Leaf", .key "builder", .index 1],
       [.key "nodes", .key "Leaf", .key "fields", .key "value", .key "optional"]] := by
    decide
  have refused := (parse_follows_shape (Json.treeText_written storable whole .pretty 0) storable
    keyed blank.1 blank.2 "nodes.json").2
  rw [Json.Shape.fits_iff_offences_eq_nil, wrong] at refused
  obtain ⟨error, others, parsed, path⟩ := refused (by simp)
  exact ⟨error, parsed, (List.cons.inj path).1.symm⟩

end Registry

end NodeDecl
