import NodeDecl.Proofs.Json.Reading
import NodeDecl.Proofs.Schema.Validators
import NodeDecl.Schema.Document

/-!
# What reading a schema gives

The validators and defaults of a registry that was read from a document are no deeper
than the document may be at their place, so that they can be written back there.  None
of them is `null`, which would be read as none at all.
-/

namespace NodeDecl

open Json (Value Reader)

/-- A field specification that can be written with some levels of nesting left for its
validator and its default. -/
structure FieldSpec.Storable (levels : Nat) (spec : FieldSpec) : Prop where
  validator : ∀ validator, spec.validator = some validator →
    validator.Rereads levels ∧ validator.toJson ≠ .null
  default : ∀ value, spec.default = some value → Json.Storable levels value ∧ value ≠ .null

/-- A kind definition of which every field can be written. -/
def KindDefinition.Storable (levels : Nat) (definition : KindDefinition) : Prop :=
  ∀ entry ∈ definition.fields.entries, entry.2.Storable levels

/-- A registry of which every kind can be written. -/
def Registry.Storable (levels : Nat) (registry : Registry) : Prop :=
  ∀ entry ∈ registry.kinds.entries, entry.2.Storable levels

/-- Reading a value gives one that is not `null`, or none. -/
theorem readUnlessNull_yields (levels : Nat) :
    (readUnlessNull levels).Yields fun result =>
      ∀ value, result = some value → Json.Storable levels value ∧ value ≠ .null := by
  refine (Json.readValue_yields levels).map ?_
  intro value storable read equal
  split at equal
  · contradiction
  · next notNull =>
      cases equal
      exact ⟨storable, notNull⟩

/-- A field specification that was read can be written. -/
theorem FieldSpec.reader_yields (levels : Nat) :
    (FieldSpec.reader (levels + 1)).Yields (FieldSpec.Storable levels) := by
  have begins : FieldSpec.Storable levels {} := ⟨by simp, by simp⟩
  apply Json.Record.reader_yields begins
  intro field member
  simp only [record, List.mem_cons, List.not_mem_nil, or_false] at member
  rcases member with rfl | rfl | rfl
  · refine (readUnlessNull_yields levels).map ?_
    intro value sound spec storable
    refine ⟨?_, storable.default⟩
    intro validator given
    rcases Option.map_eq_some_iff.1 given with ⟨read, some, rfl⟩
    rcases sound read some with ⟨stored, notNull⟩
    exact ⟨Validator.rereads_ofJson stored, Validator.toJson_ofJson_ne_null notNull⟩
  · refine (Reader.Yields.anything _).map ?_
    intro optional _ spec storable
    exact ⟨storable.validator, storable.default⟩
  · refine (readUnlessNull_yields levels).map ?_
    intro value sound spec storable
    exact ⟨storable.validator, sound⟩

/-- A kind definition that was read can be written. -/
theorem KindDefinition.reader_yields (levels : Nat) :
    (KindDefinition.reader (levels + 3)).Yields (KindDefinition.Storable levels) := by
  have begins : KindDefinition.Storable levels {} := by simp [KindDefinition.Storable]
  apply Json.Record.reader_yields begins
  intro field member
  simp only [record, List.mem_cons, List.not_mem_nil, or_false] at member
  rcases member with rfl | rfl | rfl
  · refine (Reader.Yields.anything _).map ?_
    intro builder _ definition storable
    exact storable
  · have fields : (Json.readMap FieldSpec.reader (levels + 2)).Yields
        fun map => ∀ entry ∈ map.entries, entry.2.Storable levels := by
      refine Reader.Yields.nested ?_ (Reader.Yields.refuse _)
      intro _ _
      exact Json.mapBody_yields (FieldSpec.reader_yields levels)
    refine fields.map ?_
    intro map storable definition _
    exact storable
  · refine (Reader.Yields.anything _).map ?_
    intro aliases _ definition storable
    exact storable

/-- A registry that was read can be written. -/
theorem Registry.reader_yields (levels : Nat) :
    (Registry.reader (levels + 5)).Yields (Registry.Storable levels) := by
  have begins : Registry.Storable levels {} := by simp [Registry.Storable]
  apply Json.Record.reader_yields begins
  intro field member
  simp only [record, List.mem_cons, List.not_mem_nil, or_false] at member
  cases member
  have kinds : (readKinds (levels + 4)).Yields
      fun map => ∀ entry ∈ map.entries, entry.2.Storable levels := by
    refine Reader.Yields.nested ?_ (Reader.Yields.refuse _)
    intro _ _
    refine Json.objectBody_yields (by simp) ?_
    intro map name _ kept equal
    cases equal
    refine (KindDefinition.reader_yields levels).map ?_
    intro definition storable next taken entry inside
    split at taken
    · contradiction
    · cases taken
      rcases OrderedMap.mem_entries_insert inside with rfl | earlier
      · exact storable
      · exact kept entry earlier
  refine kinds.map ?_
  intro map storable registry _
  exact storable

end NodeDecl
