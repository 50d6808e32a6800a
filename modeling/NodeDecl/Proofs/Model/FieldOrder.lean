import Mathlib.Order.Defs.Unbundled
import NodeDecl.Proofs.Model.Groups
import NodeDecl.Proofs.Text.ByteOrder

/-!
# The order of fields by filtering

The fields of a declaration are sorted by a comparison with four cases.  What comes out can
be said without a sort: the entries of the builder that are fields, each where it first
stands, and behind them the other fields in increasing order of their bytes.  A builder may
take a field twice and may name fields that do not exist.
-/

namespace NodeDecl.KindDefinition

variable {definition : KindDefinition} {builder : List String}

/-- The fields that the builder takes, each where it first stands in the builder. -/
def takenFields (definition : KindDefinition) : List String :=
  definition.builder.eraseDups.filter definition.fields.contains

/-- The fields that the builder does not take, in increasing order of names. -/
def otherFields (definition : KindDefinition) : List String :=
  sortedNames (definition.fields.keys.filter fun field => !definition.builder.contains field)

theorem mem_takenFields {field : String} :
    field ∈ definition.takenFields ↔
      field ∈ definition.fields.keys ∧ field ∈ definition.builder := by
  rw [takenFields, List.mem_filter, (firstOccurrences_eraseDups _).mem_iff,
    OrderedMap.contains_iff, and_comm]

theorem mem_otherFields {field : String} :
    field ∈ definition.otherFields ↔
      field ∈ definition.fields.keys ∧ field ∉ definition.builder := by
  simp [otherFields, mem_sortedNames]

/-! ## The comparison -/

/-- The comparison of fields is a strict total order of all names. -/
instance isStrictTotalOrder_precedes (builder : List String) :
    IsStrictTotalOrder String fun a b => precedes builder a b = true where
  irrefl name before := by simp [precedes_asymm before] at before
  trans _ _ _ := precedes_trans
  trichotomous a b notBefore notAfter := by
    by_contra differ
    exact (precedes_total differ).elim notBefore notAfter

theorem idxOf?_of_mem {name : String} (member : name ∈ builder) :
    builder.idxOf? name = some (builder.idxOf name) := by
  rw [List.idxOf?_eq_some_iff]
  have inBounds := List.idxOf_lt_length_of_mem member
  refine ⟨inBounds, List.getElem_idxOf inBounds, ?_⟩
  intro place earlier
  simpa using List.not_of_lt_findIdx earlier

/-- Of two entries of the builder the one that first stands further in front precedes. -/
theorem precedes_of_idxOf_lt {a b : String} (first : a ∈ builder) (second : b ∈ builder)
    (before : builder.idxOf a < builder.idxOf b) : precedes builder a b = true := by
  rw [precedes, idxOf?_of_mem first, idxOf?_of_mem second]
  exact decide_eq_true before

/-- An entry of the builder precedes what the builder does not take. -/
theorem precedes_of_mem_of_not_mem {a b : String} (first : a ∈ builder) (second : b ∉ builder) :
    precedes builder a b = true := by
  rw [precedes, idxOf?_of_mem first, List.idxOf?_eq_none_iff.2 second]

/-- What the builder does not take is compared by name. -/
theorem precedes_of_lt {a b : String} (first : a ∉ builder) (second : b ∉ builder)
    (before : a < b) : precedes builder a b = true := by
  rw [precedes, List.idxOf?_eq_none_iff.2 first, List.idxOf?_eq_none_iff.2 second]
  exact decide_eq_true before

/-! ## The two parts -/

/-- The fields that the builder takes come in the order in which it first takes them. -/
theorem takenFields_ordered (definition : KindDefinition) :
    definition.takenFields.Pairwise
      (fun a b => definition.builder.idxOf a < definition.builder.idxOf b) :=
  (firstOccurrences_eraseDups definition.builder).ordered.filter _

theorem takenFields_increasing (definition : KindDefinition) :
    definition.takenFields.Pairwise (precedes definition.builder · · = true) := by
  refine (takenFields_ordered definition).imp_of_mem ?_
  intro a b taken taken' before
  exact precedes_of_idxOf_lt (mem_takenFields.1 taken).2 (mem_takenFields.1 taken').2 before

theorem otherFields_increasing (definition : KindDefinition) :
    definition.otherFields.Pairwise (precedes definition.builder · · = true) := by
  refine (sortedNames_increasing _).imp_of_mem ?_
  intro a b other other' before
  exact precedes_of_lt (mem_otherFields.1 other).2 (mem_otherFields.1 other').2 before

/-- The two parts one behind the other are in order. -/
theorem takenFields_append_otherFields_increasing (definition : KindDefinition) :
    (definition.takenFields ++ definition.otherFields).Pairwise
      (precedes definition.builder · · = true) := by
  refine List.pairwise_append.2
    ⟨takenFields_increasing definition, otherFields_increasing definition, ?_⟩
  intro a taken b other
  exact precedes_of_mem_of_not_mem (mem_takenFields.1 taken).2 (mem_otherFields.1 other).2

/-- Fields that are in order are distinct. -/
theorem nodup_of_precedes {fields : List String}
    (increasing : fields.Pairwise (precedes builder · · = true)) : fields.Nodup := by
  refine increasing.imp ?_
  rintro name _ before rfl
  simp [precedes_asymm before] at before

/-- The two parts hold every field once. -/
theorem takenFields_append_otherFields_perm (definition : KindDefinition) :
    (definition.takenFields ++ definition.otherFields).Perm definition.fields.keys := by
  have distinct := nodup_of_precedes (takenFields_append_otherFields_increasing definition)
  refine (List.perm_ext_iff_of_nodup distinct definition.fields.keys_nodup).2 ?_
  intro field
  rw [List.mem_append, mem_takenFields, mem_otherFields, ← and_or_left]
  exact and_iff_left (Decidable.em _)

/-! ## The whole order -/

theorem fieldOrder_increasing (definition : KindDefinition) :
    definition.fieldOrder.Pairwise (precedes definition.builder · · = true) :=
  List.pairwise_map.2 definition.orderedFields_increasing

theorem fieldOrder_perm (definition : KindDefinition) :
    definition.fieldOrder.Perm definition.fields.keys :=
  definition.orderedFields_perm.map _

/-- There is one order of the fields in which each precedes those behind it. -/
theorem fieldOrder_eq {fields : List String} (perm : fields.Perm definition.fields.keys)
    (increasing : fields.Pairwise (precedes definition.builder · · = true)) :
    definition.fieldOrder = fields := by
  apply eq_of_perm_of_asymm definition.fieldOrder_increasing increasing
    (definition.fieldOrder_perm.trans perm.symm)
  intro a b before
  simp [precedes_asymm before]

/-- The order of fields is a matter of filtering: first the entries of the builder that are
fields, each where it first stands, then the other fields in increasing order of their
bytes.  Each field is there once.  The fields are compared by a strict total order, so
definitions with the same builder and the same fields have them in the same order, however
the schema lists them. -/
theorem fieldOrder_filtered (definition : KindDefinition) :
    definition.fieldOrder = definition.takenFields ++ definition.otherFields ∧
      (∀ field, field ∈ definition.takenFields ↔
        field ∈ definition.fields.keys ∧ field ∈ definition.builder) ∧
      definition.takenFields.Pairwise
        (fun a b => definition.builder.idxOf a < definition.builder.idxOf b) ∧
      (∀ field, field ∈ definition.otherFields ↔
        field ∈ definition.fields.keys ∧ field ∉ definition.builder) ∧
      definition.otherFields.Pairwise (fun a b => Text.bytes a < Text.bytes b) ∧
      definition.fieldOrder.Perm definition.fields.keys ∧
      IsStrictTotalOrder String (fun a b => precedes definition.builder a b = true) ∧
      definition.fieldOrder.Pairwise (fun a b => precedes definition.builder a b = true) ∧
      ∀ other : KindDefinition, other.builder = definition.builder →
        other.fields.keys.Perm definition.fields.keys →
        other.fieldOrder = definition.fieldOrder := by
  refine ⟨?filtered, fun _ => mem_takenFields, takenFields_ordered definition,
    fun _ => mem_otherFields, ?bytes, definition.fieldOrder_perm,
    isStrictTotalOrder_precedes definition.builder, definition.fieldOrder_increasing, ?listed⟩
  case filtered =>
    exact fieldOrder_eq (takenFields_append_otherFields_perm definition)
      (takenFields_append_otherFields_increasing definition)
  case bytes =>
    exact (sortedNames_increasing _).imp Text.lt_iff_bytes_lt.1
  case listed =>
    intro other sameBuilder sameFields
    apply fieldOrder_eq (definition.fieldOrder_perm.trans sameFields.symm)
    rw [sameBuilder]
    exact definition.fieldOrder_increasing

/-- A builder that takes a field twice and one that is not there, with two listings of the
fields. -/
theorem fieldOrder_filtered_of_repeated :
    let leaf : KindDefinition :=
      { builder := ["z", "ghost", "a", "z"]
        fields := { entries := [("d", {}), ("a", {}), ("c", {}), ("z", {})] } }
    let relisted : KindDefinition :=
      { builder := ["z", "ghost", "a", "z"]
        fields := { entries := [("z", {}), ("c", {}), ("a", {}), ("d", {})] } }
    leaf.fieldOrder = ["z", "a", "c", "d"] ∧ relisted.fieldOrder = ["z", "a", "c", "d"] := by
  intro leaf relisted
  obtain ⟨filtered, -, -, -, -, -, -, -, listed⟩ := fieldOrder_filtered leaf
  have order : leaf.fieldOrder = ["z", "a", "c", "d"] := filtered.trans (by decide +kernel)
  exact ⟨order, (listed relisted rfl (by decide +kernel)).trans order⟩

end NodeDecl.KindDefinition
