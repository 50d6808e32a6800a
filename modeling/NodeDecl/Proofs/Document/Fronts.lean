import NodeDecl.Config.Load
import NodeDecl.Proofs.Json.RecordFronts
import NodeDecl.Schema.Load

/-!
# Documents are read from the front

A registry and a configuration are read from the list or the object at the front of a text,
and nothing behind it is looked at.  So the shortest part of a text that is accepted decides
the result: whatever follows, be it another document, garbage or a bracket too many, is as
good as nothing.
-/

namespace NodeDecl

open Json (Reader Blank WellFormed)

variable {α : Type}

/-! ## Readers of documents -/

theorem readUnlessNull_sound (levels : Nat) : (readUnlessNull levels).Sound :=
  (Json.readValue_sound levels).map _

theorem FieldSpec.fields_sound :
    ∀ field ∈ record.fields, ∀ levels, (field.reader levels).Sound := by
  intro field member levels
  simp only [record, List.mem_cons, List.not_mem_nil, or_false] at member
  rcases member with rfl | rfl | rfl
  · exact (readUnlessNull_sound levels).map _
  · exact Json.readBool_sound.map _
  · exact (readUnlessNull_sound levels).map _

theorem FieldSpec.reader_closed (levels : Nat) : (FieldSpec.reader levels).Closed :=
  Json.Record.reader_closed fields_sound {} levels

theorem readSpecs_closed (levels : Nat) : (Json.readMap FieldSpec.reader levels).Closed :=
  Json.readMap_closed (fun inner => (FieldSpec.reader_closed inner).sound) levels

theorem KindDefinition.fields_sound :
    ∀ field ∈ record.fields, ∀ levels, (field.reader levels).Sound := by
  intro field member levels
  simp only [record, List.mem_cons, List.not_mem_nil, or_false] at member
  rcases member with rfl | rfl | rfl
  · exact (Json.readStrings_closed levels).sound.map _
  · exact (readSpecs_closed levels).sound.map _
  · exact (Json.readStrings_closed levels).sound.map _

theorem KindDefinition.reader_closed (levels : Nat) : (KindDefinition.reader levels).Closed :=
  Json.Record.reader_closed fields_sound {} levels

namespace Registry

theorem takeKind_sound (levels : Nat) : Json.TakesSound (takeKind levels) := by
  intro kinds name reader taken
  cases taken
  exact (KindDefinition.reader_closed levels).sound.map _

theorem readKinds_closed (levels : Nat) : (readKinds levels).Closed :=
  Json.object_closed takeKind_sound levels

theorem fields_sound : ∀ field ∈ record.fields, ∀ levels, (field.reader levels).Sound := by
  intro field member levels
  simp only [record, List.mem_cons, List.not_mem_nil, or_false] at member
  cases member
  exact (readKinds_closed levels).sound.map _

theorem reader_closed (levels : Nat) : (reader levels).Closed :=
  Json.Record.reader_closed fields_sound {} levels

end Registry

theorem OverrideTable.reader_closed (levels : Nat) : (OverrideTable.reader levels).Closed := by
  apply Reader.Closed.map
  apply Json.readMap_closed
  intro inner
  exact (Json.readMap_closed (fun _ => Json.readString_sound) inner).sound.map _

theorem stringField_sound {σ : Type} (name : String) (set : String → σ → σ) (levels : Nat) :
    ((stringField name set).reader levels).Sound :=
  Json.readString_sound.map set

theorem stringsField_sound {σ : Type} (name : String) (set : List String → σ → σ)
    (levels : Nat) : ((stringsField name set).reader levels).Sound :=
  (Json.readStrings_closed levels).sound.map set

theorem OutputPaths.fields_sound :
    ∀ field ∈ record.fields, ∀ levels, (field.reader levels).Sound := by
  intro field member levels
  simp only [record, List.mem_cons, List.not_mem_nil, or_false] at member
  rcases member with rfl | rfl | rfl <;> exact stringField_sound _ _ levels

theorem OutputPaths.reader_closed (levels : Nat) : (OutputPaths.reader levels).Closed :=
  Json.Record.reader_closed fields_sound {} levels

theorem Config.fields_sound :
    ∀ field ∈ record.fields, ∀ levels, (field.reader levels).Sound := by
  intro field member levels
  simp only [record, List.mem_cons, List.not_mem_nil, or_false] at member
  rcases member with rfl | rfl | rfl | rfl | rfl | rfl | rfl | rfl
  · exact (OverrideTable.reader_closed levels).sound.map _
  · exact stringField_sound _ _ levels
  · exact stringField_sound _ _ levels
  · exact stringField_sound _ _ levels
  · exact stringsField_sound _ _ levels
  · exact stringField_sound _ _ levels
  · exact stringsField_sound _ _ levels
  · exact (OutputPaths.reader_closed levels).sound.map _

theorem Config.reader_closed (levels : Nat) : (Config.reader levels).Closed :=
  Json.Record.reader_closed fields_sound {} levels

/-! ## The first document -/

/-- A text that is one value behind blanks. -/
def IsDocument (text : String) : Prop :=
  ∃ gap value, Blank gap ∧ WellFormed value ∧ text.toList = gap ++ value

/-- A text that begins with a value, behind blanks and in front of anything. -/
def BeginsWith (value : List Char) (text : String) : Prop :=
  ∃ gap behind, Blank gap ∧ text.toList = gap ++ (value ++ behind)

/-- Reading takes the first document of a text and looks at nothing behind it. -/
structure ReadsFirst {ε : Type} (read : String → Except ε α) : Prop where
  /-- Behind an accepted text there may be anything. -/
  onward : ∀ text value, read text = .ok value →
    ∀ behind, read (text ++ behind) = .ok value
  /-- An accepted text begins with a document that decides it: the text may be cut off
  anywhere behind that document, and nowhere else. -/
  shortest : ∀ text value, read text = .ok value →
    ∃ document rest, text = document ++ rest ∧ IsDocument document ∧
      ∀ start left, text = start ++ left →
        ∀ other, read start = .ok other ↔ document.length ≤ start.length ∧ other = value
  /-- A document decides about itself and everything that begins with it. -/
  first : ∀ document, IsDocument document →
    ∀ behind value, read (document ++ behind) = .ok value ↔ read document = .ok value

namespace Json

variable {reader : Nat → Reader α} {text document : String} {value : α}

namespace Reader.Closed

variable (closed : (reader nestingLimit).Closed)

include closed

/-- An accepted text begins with a list or an object that is accepted with anything behind. -/
theorem exists_front (accepted : parse reader text = .ok value) :
    ∃ gap inside rest, text.toList = gap ++ (inside ++ rest) ∧ Blank gap ∧ Enclosed inside ∧
      ∀ behind, (reader nestingLimit).run (gap ++ (inside ++ behind)) = .ok (value, behind) := by
  rcases parse_eq_ok_iff.1 accepted with ⟨rest, run⟩
  rcases closed _ value rest run with ⟨gap, inside, blank, enclosed, reads, same⟩
  exact ⟨gap, inside, rest, same, blank, enclosed, fun behind => reads.run gap behind blank⟩

theorem parse_append (accepted : parse reader text = .ok value) (behind : String) :
    parse reader (text ++ behind) = .ok value := by
  rcases closed.exists_front accepted with ⟨gap, inside, rest, same, -, -, runs⟩
  apply parse_eq_ok_iff.2
  refine ⟨rest ++ behind.toList, ?_⟩
  rw [String.toList_append, same, List.append_assoc, List.append_assoc, runs]

/-- Nothing but a document is accepted in front of others. -/
theorem parse_document (isDocument : IsDocument document) (behind : String) :
    parse reader (document ++ behind) = .ok value ↔ parse reader document = .ok value := by
  constructor
  · intro accepted
    rcases isDocument with ⟨gap, inside, blank, wellFormed, same⟩
    rcases closed.exists_front accepted with ⟨gap', inside', rest, front, blank', enclosed, runs⟩
    rw [String.toList_append, same, List.append_assoc] at front
    rcases enclosed.unique_behind wellFormed blank' blank front.symm with ⟨rfl, rfl, -⟩
    apply parse_eq_ok_iff.2
    refine ⟨[], ?_⟩
    rw [same, ← List.append_nil inside', runs]
  · intro accepted
    exact closed.parse_append accepted behind

/-- An accepted text may be cut off behind its first document, and nowhere in it. -/
theorem exists_shortest (accepted : parse reader text = .ok value) :
    ∃ document rest, text = document ++ rest ∧ IsDocument document ∧
      ∀ start left, text = start ++ left → ∀ other,
        parse reader start = .ok other ↔ document.length ≤ start.length ∧ other = value := by
  rcases closed.exists_front accepted with ⟨gap, inside, rest, same, blank, enclosed, runs⟩
  have isDocument : IsDocument (.ofList (gap ++ inside)) :=
    ⟨gap, inside, blank, enclosed.wellFormed, String.toList_ofList⟩
  have whole : text = .ofList (gap ++ inside) ++ .ofList rest := by
    rw [← String.ofList_append, List.append_assoc, ← same, String.ofList_toList]
  refine ⟨.ofList (gap ++ inside), .ofList rest, whole, isDocument, ?_⟩
  intro start left cut other
  constructor
  · intro acceptedStart
    rcases closed.exists_front acceptedStart with
      ⟨gap', inside', rest', same', blank', enclosed', -⟩
    rw [cut, String.toList_append, same', List.append_assoc, List.append_assoc] at same
    rcases enclosed'.unique_behind enclosed.wellFormed blank' blank same with ⟨rfl, rfl, -⟩
    have again := closed.parse_append acceptedStart left
    rw [← cut, accepted] at again
    cases again
    refine ⟨?_, rfl⟩
    rw [← String.length_toList, String.toList_ofList, ← String.length_toList, same',
      ← List.append_assoc]
    exact (List.prefix_append _ rest').length_le
  · intro ⟨long, equal⟩
    subst equal
    -- what is cut off is cut off behind the document
    have front : gap ++ inside <+: start.toList := by
      rw [cut, String.toList_append, ← List.append_assoc] at same
      apply List.prefix_of_prefix_length_le ⟨rest, same.symm⟩ ⟨left.toList, rfl⟩
      rwa [← String.length_toList, String.toList_ofList, ← String.length_toList] at long
    rcases front with ⟨more, front⟩
    apply parse_eq_ok_iff.2
    exact ⟨more, by rw [← front, List.append_assoc, runs]⟩

/-- A text is accepted exactly if the value that it begins with is read back. -/
theorem parse_iff_readsBack {inside : List Char} (begins : BeginsWith inside text)
    (wellFormed : WellFormed inside) :
    parse reader text = .ok value ↔ ReadsBack (reader nestingLimit) inside value := by
  rcases begins with ⟨gap, behind, blank, same⟩
  rw [parse_eq_ok_iff]
  constructor
  · rintro ⟨rest, run⟩
    rcases closed _ value rest run with ⟨gap', inside', blank', enclosed, reads, front⟩
    rw [same] at front
    rcases enclosed.unique_behind wellFormed blank' blank front.symm with ⟨-, rfl, -⟩
    exact reads.readsBack
  · intro reads
    rcases closed.sound.readsBack_iff.1 reads with ⟨-, run⟩
    rcases closed _ value [] run with ⟨gap', inside', blank', enclosed, always, front⟩
    have whole : gap' ++ (inside' ++ []) = [] ++ (inside ++ []) := by
      rw [← front, List.append_nil, List.nil_append]
    rcases enclosed.unique_behind wellFormed blank' blank_nil whole with ⟨-, rfl, -⟩
    exact ⟨behind, same ▸ always.run gap behind blank⟩

/-- A reader of lists or objects takes the first document. -/
theorem readsFirst : ReadsFirst (parse reader) where
  onward _ _ accepted behind := closed.parse_append accepted behind
  shortest _ _ accepted := closed.exists_shortest accepted
  first _ isDocument behind _ := closed.parse_document isDocument behind

end Reader.Closed

end Json

theorem ReadsFirst.mapError {ε δ : Type} {read : String → Except ε α} (reads : ReadsFirst read)
    (wrap : ε → δ) : ReadsFirst fun text => (read text).mapError wrap where
  onward text value := by
    simp only [Json.mapError_eq_ok]
    exact reads.onward text value
  shortest text value := by
    simp only [Json.mapError_eq_ok]
    exact reads.shortest text value
  first document := by
    simp only [Json.mapError_eq_ok]
    exact reads.first document

/-- Reading stops at the end of the first document, for registries and for configurations:
whatever stands behind an accepted text makes no difference, the shortest accepted part of a
text decides the result, and of several documents in a row only the first has an effect. -/
theorem parse_readsFirst (origin : String) :
    ReadsFirst (Registry.parse · origin) ∧ ReadsFirst (Config.parse · origin) :=
  ⟨(Registry.reader_closed Json.nestingLimit).readsFirst.mapError _,
    (Config.reader_closed Json.nestingLimit).readsFirst.mapError _⟩

/-- A registry in front of a bracket too many, and a configuration in front of another one. -/
theorem parse_readsFirst_of_two :
    Registry.parse (" [\x7b\"Leaf\": []\x7d]" ++ "]\x7d, nothing") "nodes.json" =
        .ok { kinds := { entries := [("Leaf", {})] } } ∧
      Config.parse ("\x7b\"engineClass\": \"Engine\"\x7d" ++ "\x7b\"engineClass\": 1\x7d")
          "own.json" =
        .ok { engineClass := "Engine" } := by
  constructor
  · exact (parse_readsFirst "nodes.json").1.onward _ _ (by decide +kernel) _
  · exact (parse_readsFirst "own.json").2.onward _ _ (by decide +kernel) _

end NodeDecl
