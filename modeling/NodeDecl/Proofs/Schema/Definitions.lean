import NodeDecl.Proofs.Bindings
import NodeDecl.Proofs.Json.Strictness
import NodeDecl.Schema.Load

/-!
# What a schema document defines

A document may give definitions of one kind more than once, with its name spelled in
different ways.  Reading all definitions, repetitions included, says what the document
holds apart from that: the registry of a document is there if and only if the document
can be read so and every kind is defined once.
-/

namespace NodeDecl

open Json (Reader Record Member)

/-- The first name of a list that stands there for the second time. -/
def Repeats (name : String) (names : List String) : Prop :=
  ∃ before after, names = before ++ name :: after ∧ before.Nodup ∧ name ∈ before

namespace Repeats

variable {name : String} {names : List String}

theorem append (repeats : Repeats name names) (more : List String) :
    Repeats name (names ++ more) := by
  obtain ⟨before, after, rfl, distinct, member⟩ := repeats
  exact ⟨before, after ++ more, by simp, distinct, member⟩

theorem not_nodup (repeats : Repeats name names) : ¬ names.Nodup := by
  obtain ⟨before, after, rfl, -, member⟩ := repeats
  intro distinct
  exact (List.nodup_append.1 distinct).2.2 name member name List.mem_cons_self rfl

end Repeats

namespace Registry

/-- Take up the definition of a kind, whether or not the kind is defined already. -/
def takeDefinition (levels : Nat) (definitions : List (String × KindDefinition))
    (name : String) : Member (List (String × KindDefinition)) :=
  .value ((KindDefinition.reader levels).map fun definition =>
    .ok (definitions ++ [(name, definition)]))

/-- An object of kind definitions, in which a kind may come again. -/
def readDefinitions : Nat → Reader (List (String × KindDefinition)) :=
  .nested (· = '{') (fun levels _ => Json.objectBody (takeDefinition levels) [])
    (.refuse (Json.mismatch "a map of node kind definitions"))

/-- A schema document as a list of definitions. -/
def definitionsRecord : Record (List (String × KindDefinition)) where
  name := "SchemaRegistry"
  fields :=
    [{ name := "nodes"
       reader := fun levels => (readDefinitions levels).map fun definitions _ => definitions }]

/-- All definitions that a schema document gives, if it can be read. -/
def definitions? (text : String) : Option (List (String × KindDefinition)) :=
  (Json.parse (definitionsRecord.reader []) text).toOption

/-! ## Registries beside definitions -/

/-- A registry holds certain definitions. -/
def Holds (registry : Registry) (definitions : List (String × KindDefinition)) : Prop :=
  registry.kinds.entries = definitions

/-- A reason to refuse definitions: the first kind that is defined a second time. -/
def Faults (reason : Json.Reason) (definitions : List (String × KindDefinition)) : Prop :=
  ∃ name, reason = .definedTwice "node kind" name ∧ Repeats name (definitions.map (·.1))

theorem Faults.append {reason : Json.Reason} {definitions : List (String × KindDefinition)}
    (faults : Faults reason definitions) (more : List (String × KindDefinition)) :
    Faults reason (definitions ++ more) := by
  obtain ⟨name, rfl, repeats⟩ := faults
  refine ⟨name, rfl, ?_⟩
  rw [List.map_append]
  exact repeats.append _

/-- A definition is taken up on both sides, unless its kind is there already. -/
theorem takeKind_refines (levels : Nat) (name : String) (kinds : OrderedMap KindDefinition) :
    Json.MemberRefines (fun kinds definitions => kinds.entries = definitions) Faults
      (takeKind levels kinds name) (takeDefinition levels kinds.entries name) := by
  apply Json.MemberRefines.value
  apply (Reader.Refines.refl _).map
  · rintro definition _ rfl
    split
    · next defined =>
        apply Json.Settles.refuses
        refine ⟨name, rfl, kinds.keys, [], ?_, kinds.keys_nodup, OrderedMap.contains_iff.1 defined⟩
        rw [List.map_append]
        rfl
    · next new =>
        apply Json.Settles.takes
        apply OrderedMap.entries_insert_of_not_mem
        exact fun member => new (OrderedMap.contains_iff.2 member)
  · intro _ _ never
    exact never.elim

theorem readKinds_refines (levels : Nat) :
    (readKinds (levels + 1)).Refines (readDefinitions (levels + 1))
      (fun kinds definitions => kinds.entries = definitions) Faults := by
  rw [readKinds, readDefinitions, Reader.nested, Reader.nested]
  apply Reader.Refines.dispatch
  · intro _ _
    refine Json.objectBody_refines OrderedMap.entries_empty ?_ ?_
    · rintro kinds _ name rfl
      exact takeKind_refines levels name kinds
    · rintro reason definitions name _ faults ⟨⟩
      refine (Reader.Yields.anything _).map ?_
      rintro definition _ _ ⟨⟩
      exact faults.append _
  · exact Reader.Refines.refuse _

/-- Reading a registry is stricter than reading its definitions. -/
theorem reader_refines (levels : Nat) :
    (reader (levels + 2)).Refines (definitionsRecord.reader [] (levels + 2)) Holds Faults := by
  have begins : Holds {} [] := rfl
  refine Json.Record.reader_refines rfl rfl rfl rfl begins ?_
  apply (readKinds_refines levels).map
  · intro kinds definitions equal
    exact equal
  · intro reason definitions faults
    exact faults

variable {text origin : String} {definitions : List (String × KindDefinition)}

/-- What parsing comes to, beside the definitions of the document. -/
theorem parse_cases (text origin : String) :
    (∃ registry, parse text origin = .ok registry ∧
      definitions? text = some registry.kinds.entries) ∨
    (∃ error, parse text origin = .error (.schema origin error) ∧
      ∀ definitions, definitions? text = some definitions → Faults error.reason definitions) := by
  have turn := reader_refines 125 text.toList
  rw [parse, definitions?, Json.parse, Json.parse, Json.nestingLimit]
  generalize (reader 127).run text.toList = outcome,
    (definitionsRecord.reader [] 127).run text.toList = outcome' at turn ⊢
  cases turn with
  | @accepts registry _ holds rest =>
      left
      exact ⟨registry, rfl, congrArg some holds.symm⟩
  | fails failure =>
      right
      exact ⟨_, rfl, by simp [Except.toOption]⟩
  | refuses excused =>
      right
      refine ⟨_, rfl, ?_⟩
      intro definitions given
      split at given
      · cases given
        exact excused _ _ rfl
      · contradiction

/-- A kind is the same however its name is spelled. -/
example : definitions? "\x7b\"nodes\": \x7b\"Leaf\": \x7b\x7d, \"\\u004ceaf\": \x7b\x7d\x7d\x7d" =
    some [("Leaf", {}), ("Leaf", {})] := by
  decide +kernel

/-- A document is the registry of its definitions if every kind is defined once. -/
theorem parse_of_definitions (given : definitions? text = some definitions)
    (distinct : (definitions.map (·.1)).Nodup) :
    ∃ registry, parse text origin = .ok registry ∧ registry.kinds.entries = definitions := by
  obtain ⟨registry, parsed, same⟩ | ⟨error, -, faults⟩ := parse_cases text origin
  · exact ⟨registry, parsed, Option.some.inj (same.symm.trans given)⟩
  · obtain ⟨name, -, repeats⟩ := faults definitions given
    exact absurd distinct repeats.not_nodup

end Registry

end NodeDecl
