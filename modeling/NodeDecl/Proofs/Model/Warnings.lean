import NodeDecl.Proofs.Model.Fields
import NodeDecl.Proofs.Model.Union
import NodeDecl.Proofs.Text.Cutting
import NodeDecl.Proofs.TypeExpr.Resolution

/-!
# The warnings of a build

A build warns about a field if no override is given for it and its validator stands for no
type.  Which warnings there are is said here by going through the fields of a kind and
through the kinds, without regard to builders, reserved fields and the order of a
declaration.  A build that stops has warned about the kinds in front of the one at fault,
and about that one only if it got as far as its aliases.
-/

namespace NodeDecl

/-! ## Which fields are warned about -/

/-- A field has a validator that stands for no type, and no override. -/
inductive FieldSpec.Refused (overrides : OverrideTable) (kind field : String)
    (spec : FieldSpec) : UnrecognizedShape → Prop
  | intro {validator : Validator} {shape : UnrecognizedShape}
      (noOverride : overrides.find? kind field = none)
      (constrained : spec.validator = some validator)
      (refused : validator.resolve = .error shape) : Refused overrides kind field spec shape

/-- Nothing is said about the type of a field: it has no override and no validator. -/
structure FieldSpec.Unconstrained (overrides : OverrideTable) (kind field : String)
    (spec : FieldSpec) : Prop where
  noOverride : overrides.find? kind field = none
  noValidator : spec.validator = none

/-- The label of a field in a warning. -/
def fieldLabel (kind field : String) : String :=
  kind ++ "." ++ field

/-- The warnings that some fields of a kind call for, one for each that is refused. -/
inductive WarnsOfFields (overrides : OverrideTable) (kind : String) :
    List (String × FieldSpec) → List Warning → Prop
  | nil : WarnsOfFields overrides kind [] []
  | refused {field : String} {spec : FieldSpec} {shape : UnrecognizedShape}
      {fields : List (String × FieldSpec)} {warnings : List Warning}
      (refused : spec.Refused overrides kind field shape)
      (others : WarnsOfFields overrides kind fields warnings) :
      WarnsOfFields overrides kind ((field, spec) :: fields)
        ({ field := fieldLabel kind field, validator := shape.payload } :: warnings)
  | accepted {field : String} {spec : FieldSpec} {fields : List (String × FieldSpec)}
      {warnings : List Warning} (accepted : ∀ shape, ¬ spec.Refused overrides kind field shape)
      (others : WarnsOfFields overrides kind fields warnings) :
      WarnsOfFields overrides kind ((field, spec) :: fields) warnings

/-- The warnings that some kinds call for: those of their fields, in the order in which the
kinds come and the schema defines the fields. -/
inductive WarnsOf (overrides : OverrideTable) :
    List (String × KindDefinition) → List Warning → Prop
  | nil : WarnsOf overrides [] []
  | cons {name : String} {definition : KindDefinition} {kinds : List (String × KindDefinition)}
      {own others : List Warning}
      (fields : WarnsOfFields overrides name definition.fields.entries own)
      (rest : WarnsOf overrides kinds others) :
      WarnsOf overrides ((name, definition) :: kinds) (own ++ others)

/-! ## Resolving a field -/

namespace FieldSpec

variable {spec : FieldSpec} {config : Config} {kind field : String} {shape : UnrecognizedShape}

theorem resolve_eq_error_iff :
    spec.resolve config.overrides kind field = .error shape ↔
      spec.Refused config.overrides kind field shape := by
  rw [resolve]
  constructor
  · intro failed
    split at failed
    · contradiction
    · next noOverride =>
      split at failed
      · contradiction
      · next validator constrained => exact .intro noOverride constrained failed
  · rintro ⟨noOverride, constrained, refused⟩
    rw [noOverride, constrained]
    exact refused

theorem warning?_of_refused (refused : spec.Refused config.overrides kind field shape) :
    spec.warning? config kind field =
      some { field := fieldLabel kind field, validator := shape.payload } := by
  rw [warning?, resolve_eq_error_iff.2 refused]
  rfl

theorem warning?_of_accepted
    (accepted : ∀ shape, ¬ spec.Refused config.overrides kind field shape) :
    spec.warning? config kind field = none := by
  rw [warning?]
  split
  · rfl
  · next shape failed => exact absurd (resolve_eq_error_iff.1 failed) (accepted shape)

/-- A type is left open if the field is refused or unconstrained, and not otherwise. -/
theorem typeOf_eq_mixed_iff :
    spec.typeOf config kind field = .mixed ↔
      (∃ shape, spec.Refused config.overrides kind field shape) ∨
        spec.Unconstrained config.overrides kind field := by
  constructor
  · intro mixed
    rw [typeOf] at mixed
    split at mixed
    · next type resolved =>
      subst mixed
      rw [resolve] at resolved
      split at resolved
      · cases resolved
      · next noOverride =>
        split at resolved
        · next noValidator => exact .inr ⟨noOverride, noValidator⟩
        · exact absurd .whole (Validator.tidy_of_resolve resolved).not_mixed
    · next shape failed => exact .inl ⟨shape, resolve_eq_error_iff.1 failed⟩
  · rintro (⟨shape, refused⟩ | unconstrained)
    · rw [typeOf, resolve_eq_error_iff.2 refused]
    · rw [typeOf, resolve, unconstrained.noOverride, unconstrained.noValidator]

end FieldSpec

/-! ## The warnings of kinds -/

variable {overrides : OverrideTable} {kind : String}

theorem warnsOfFields_fieldWarnings (config : Config) (kind : String)
    (fields : List (String × FieldSpec)) :
    WarnsOfFields config.overrides kind fields (fieldWarnings config kind fields) := by
  rw [fieldWarnings]
  induction fields with
  | nil => exact .nil
  | cons entry fields ih =>
      by_cases given : ∃ shape, entry.2.Refused config.overrides kind entry.1 shape
      · obtain ⟨shape, refused⟩ := given
        simp only [List.filterMap_cons, FieldSpec.warning?_of_refused refused]
        exact .refused refused ih
      · have accepted := not_exists.1 given
        simp only [List.filterMap_cons, FieldSpec.warning?_of_accepted accepted]
        exact .accepted accepted ih

/-- Going through some kinds gives the warnings that they call for. -/
theorem warnsOf_flatMap (config : Config) (kinds : List (String × KindDefinition)) :
    WarnsOf config.overrides kinds
      (kinds.flatMap fun entry => entry.2.warnings config entry.1) := by
  induction kinds with
  | nil => exact .nil
  | cons entry kinds ih =>
      rw [List.flatMap_cons]
      exact .cons (warnsOfFields_fieldWarnings config entry.1 entry.2.fields.entries) ih

/-- A warning stands for one of the fields that are refused. -/
theorem WarnsOfFields.mem_iff {fields : List (String × FieldSpec)} {warnings : List Warning}
    (warns : WarnsOfFields overrides kind fields warnings) {warning : Warning} :
    warning ∈ warnings ↔ ∃ field spec shape, (field, spec) ∈ fields ∧
      spec.Refused overrides kind field shape ∧
        warning = { field := fieldLabel kind field, validator := shape.payload } := by
  induction warns with
  | nil => simp
  | @refused field spec shape fields warnings refused _ ih =>
      have unique : ∀ {other}, spec.Refused overrides kind field other → other = shape := by
        rintro other ⟨-, constrained, failed⟩
        rcases refused with ⟨-, constrained', failed'⟩
        cases constrained.symm.trans constrained'
        exact Except.error.inj (failed.symm.trans failed')
      rw [List.mem_cons, ih]
      constructor
      · rintro (rfl | ⟨other, otherSpec, otherShape, member, others⟩)
        · exact ⟨field, spec, shape, List.mem_cons_self, refused, rfl⟩
        · exact ⟨other, otherSpec, otherShape, List.mem_cons_of_mem _ member, others⟩
      · rintro ⟨other, otherSpec, otherShape, member, also, rfl⟩
        rcases List.mem_cons.1 member with same | member
        · cases same
          exact .inl (by rw [unique also])
        · exact .inr ⟨other, otherSpec, otherShape, member, also, rfl⟩
  | @accepted field spec fields warnings accepted _ ih =>
      rw [ih]
      constructor
      · rintro ⟨other, otherSpec, otherShape, member, others⟩
        exact ⟨other, otherSpec, otherShape, List.mem_cons_of_mem _ member, others⟩
      · rintro ⟨other, otherSpec, otherShape, member, also, equal⟩
        rcases List.mem_cons.1 member with same | member
        · cases same
          exact absurd also (accepted otherShape)
        · exact ⟨other, otherSpec, otherShape, member, also, equal⟩

/-- A warning stands for one of the refused fields of one of the kinds. -/
theorem WarnsOf.mem_iff {kinds : List (String × KindDefinition)} {warnings : List Warning}
    (warns : WarnsOf overrides kinds warnings) {warning : Warning} :
    warning ∈ warnings ↔ ∃ kind definition, (kind, definition) ∈ kinds ∧
      ∃ field spec shape, (field, spec) ∈ definition.fields.entries ∧
        spec.Refused overrides kind field shape ∧
          warning = { field := fieldLabel kind field, validator := shape.payload } := by
  induction warns with
  | nil => simp
  | @cons kind definition kinds own others fields _ ih =>
      rw [List.mem_append, fields.mem_iff, ih]
      constructor
      · rintro (ofFields | ⟨other, otherDefinition, member, ofFields⟩)
        · exact ⟨kind, definition, List.mem_cons_self, ofFields⟩
        · exact ⟨other, otherDefinition, List.mem_cons_of_mem _ member, ofFields⟩
      · rintro ⟨other, otherDefinition, member, ofFields⟩
        rcases List.mem_cons.1 member with same | member
        · cases same
          exact .inl ofFields
        · exact .inr ⟨other, otherDefinition, member, ofFields⟩

/-! ## Labels -/

/-- The kind ends at the first dot of a label, since no identifier has one. -/
theorem fieldLabel_inj {kind kind' field field' : String} (first : isIdentifier kind = true)
    (second : isIdentifier kind' = true)
    (equal : fieldLabel kind field = fieldLabel kind' field') : kind = kind' ∧ field = field' := by
  have lists : kind.toList ++ '.' :: field.toList = kind'.toList ++ '.' :: field'.toList := by
    simpa [fieldLabel] using congrArg String.toList equal
  obtain ⟨kinds, rest⟩ := cut_inj (isIdentifierRest_of_mem first) (isIdentifierRest_of_mem second)
    (cutBy_cons (by decide)) (cutBy_cons (by decide)) lists
  exact ⟨String.toList_inj.1 kinds, String.toList_inj.1 (List.cons.inj rest).2⟩

theorem WarnsOfFields.labels_sublist {fields : List (String × FieldSpec)}
    {warnings : List Warning} (warns : WarnsOfFields overrides kind fields warnings) :
    (warnings.map (·.field)).Sublist (fields.map fun entry => fieldLabel kind entry.1) := by
  induction warns with
  | nil => exact .slnil
  | refused _ _ ih => exact ih.cons_cons _
  | accepted _ _ ih => exact ih.cons _

theorem WarnsOf.labels_sublist {kinds : List (String × KindDefinition)}
    {warnings : List Warning} (warns : WarnsOf overrides kinds warnings) :
    (warnings.map (·.field)).Sublist
      (kinds.flatMap fun entry => entry.2.fields.keys.map (fieldLabel entry.1)) := by
  induction warns with
  | nil => exact .slnil
  | cons fields _ ih =>
      rw [List.map_append, List.flatMap_cons, OrderedMap.keys, List.map_map]
      exact fields.labels_sublist.append ih

/-- No field is warned about twice. -/
theorem WarnsOf.labels_nodup {kinds : List (String × KindDefinition)} {warnings : List Warning}
    (warns : WarnsOf overrides kinds warnings)
    (named : ∀ entry ∈ kinds, isIdentifier entry.1 = true) (distinct : (kinds.map (·.1)).Nodup) :
    (warnings.map (·.field)).Nodup := by
  refine List.Nodup.sublist warns.labels_sublist (List.nodup_flatMap.2 ⟨?_, ?_⟩)
  · intro entry member
    refine entry.2.fields.keys_nodup.map_on ?_
    intro field _ other _ equal
    exact (fieldLabel_inj (named entry member) (named entry member) equal).2
  · refine (List.pairwise_map.1 distinct).imp_of_mem ?_
    intro entry other member otherMember differ label inFirst inSecond
    obtain ⟨field, -, equal⟩ := List.mem_map.1 inFirst
    obtain ⟨field', -, equal'⟩ := List.mem_map.1 inSecond
    exact differ (fieldLabel_inj (named entry member) (named other otherMember)
      (equal.trans equal'.symm)).1

/-- Of kinds with identifiers as names, a field is warned about exactly if it is refused. -/
theorem WarnsOf.label_mem_iff {kinds : List (String × KindDefinition)} {warnings : List Warning}
    (warns : WarnsOf overrides kinds warnings)
    (named : ∀ entry ∈ kinds, isIdentifier entry.1 = true) (distinct : (kinds.map (·.1)).Nodup)
    {definition : KindDefinition} {field : String} {spec : FieldSpec}
    (defined : (kind, definition) ∈ kinds) (specified : (field, spec) ∈ definition.fields.entries) :
    fieldLabel kind field ∈ warnings.map (·.field) ↔
      ∃ shape, spec.Refused overrides kind field shape := by
  rw [List.mem_map]
  constructor
  · rintro ⟨warning, given, label⟩
    obtain ⟨other, otherDefinition, member, field', spec', shape, inFields, refused, rfl⟩ :=
      warns.mem_iff.1 given
    obtain ⟨rfl, rfl⟩ := fieldLabel_inj (named _ member) (named _ defined) label
    have sameDefinition : otherDefinition = definition :=
      Option.some.inj (((lookup_eq_some_iff_mem distinct).2 member).symm.trans
        ((lookup_eq_some_iff_mem distinct).2 defined))
    subst sameDefinition
    have sameSpec : spec' = spec :=
      Option.some.inj ((OrderedMap.get?_eq_some_iff.2 inFields).symm.trans
        (OrderedMap.get?_eq_some_iff.2 specified))
    exact ⟨shape, sameSpec ▸ refused⟩
  · rintro ⟨shape, refused⟩
    exact ⟨_, warns.mem_iff.2 ⟨kind, definition, defined, field, spec, shape, specified, refused,
      rfl⟩, rfl⟩

/-! ## How far a build gets -/

theorem warningBlocks_cons_of_sound {config : Config} {name : String}
    {definition : KindDefinition} (sound : definition.fault? config name = none)
    (rest : List (String × KindDefinition)) :
    warningBlocks config ((name, definition) :: rest) =
      (name, definition.givenWarnings config name) :: warningBlocks config rest := by
  rw [warningBlocks, examined, sound]
  rfl

theorem warningBlocks_cons_of_fault {config : Config} {name : String}
    {definition : KindDefinition} {error : BuildError}
    (fault : definition.fault? config name = some error) (rest : List (String × KindDefinition)) :
    warningBlocks config ((name, definition) :: rest) =
      [(name, definition.givenWarnings config name)] := by
  rw [warningBlocks, examined, fault]
  rfl

/-- A build that stops has looked at the kinds in front of the one at fault and at that one. -/
theorem warningBlocks_of_fault {config : Config} {kinds : List (String × KindDefinition)}
    {error : BuildError} (fault : firstFault? config kinds = some error) :
    ∃ before name definition after, kinds = before ++ (name, definition) :: after ∧
      firstFault? config before = none ∧ definition.fault? config name = some error ∧
      warningBlocks config kinds =
        warningBlocks config before ++ [(name, definition.givenWarnings config name)] := by
  induction kinds with
  | nil => contradiction
  | cons entry rest ih =>
      rcases entry with ⟨name, definition⟩
      rw [firstFault?_cons] at fault
      cases own : definition.fault? config name with
      | some first =>
          rw [own, Option.some_or] at fault
          cases fault
          exact ⟨[], name, definition, rest, rfl, rfl, own, warningBlocks_cons_of_fault own rest⟩
      | none =>
          rw [own, Option.none_or] at fault
          obtain ⟨before, later, laterDefinition, after, rfl, sound, stops, blocks⟩ := ih fault
          refine ⟨(name, definition) :: before, later, laterDefinition, after, rfl, ?_, stops, ?_⟩
          · rw [firstFault?_cons, own, sound]
            rfl
          · rw [warningBlocks_cons_of_sound own, blocks, warningBlocks_cons_of_sound own]
            rfl

/-- A build stops at an alias: the name of the kind is fine, and the name that is blamed is
one of its aliases. -/
def KindDefinition.StopsAtAlias (definition : KindDefinition) (config : Config) (name : String)
    (error : BuildError) : Prop :=
  name.toList ∈ identifiers ∧
    ∃ group ∈ definition.aliases ++ [config.universalAlias], error = .invalidIdentifier group

/-- A build that stops at an alias has found no fault before. -/
theorem KindDefinition.Blames.stopsAtAlias_iff {definition : KindDefinition} {config : Config}
    {name : String} {error : BuildError} (blames : definition.Blames config name error) :
    definition.StopsAtAlias config name error ↔ definition.earlyFault? name = none := by
  rw [earlyFault?_eq_none_iff]
  cases blames with
  | badName bad =>
      constructor
      · rintro ⟨named, -⟩
        exact absurd named bad
      · rintro ⟨named, -⟩
        exact absurd named bad
  | missingEntry named split earlier missing =>
      constructor
      · rintro ⟨-, group, -, differ⟩
        contradiction
      · rintro ⟨-, complete⟩
        exact absurd (complete _ (by simp [split])) missing
  | badAlias named complete split earlier bad =>
      exact ⟨fun _ => ⟨named, complete⟩, fun _ => ⟨named, _, by simp [split], rfl⟩⟩

/-- The kind at fault gives its warnings if the fault is one of its aliases. -/
theorem KindDefinition.Blames.givenWarnings_eq {definition : KindDefinition} {config : Config}
    {name : String} {error : BuildError} (blames : definition.Blames config name error) :
    (definition.StopsAtAlias config name error →
      definition.givenWarnings config name = definition.warnings config name) ∧
    (¬ definition.StopsAtAlias config name error → definition.givenWarnings config name = []) := by
  rw [blames.stopsAtAlias_iff, givenWarnings]
  cases definition.earlyFault? name with
  | none => simp
  | some early => simp

/-! ## All kinds -/

/-- The type of a field is left open: there is a warning about the field, or nothing is said
about its type. -/
def Registry.LeavesOpen (registry : Registry) (config : Config) (warnings : List Warning)
    (kind field : String) : Prop :=
  fieldLabel kind field ∈ warnings.map (·.field) ∨
    ∃ definition spec, registry.kinds.get? kind = some definition ∧
      definition.fields.get? field = some spec ∧ spec.Unconstrained config.overrides kind field

namespace Registry

variable {registry : Registry} {config : Config}

/-- A build that succeeds has given the warnings that all kinds call for. -/
theorem warnsOf_of_sound (sound : firstFault? config registry.sorted = none) :
    WarnsOf config.overrides registry.sorted (registry.build config).warnings := by
  rw [build_eq, warningBlocks_of_sound sound, List.flatMap_map]
  exact warnsOf_flatMap config registry.sorted

/-- A build that stops has given the warnings that the kinds before call for, and those of
the kind at fault if it stops at an alias. -/
theorem warnsOf_of_fault {error : BuildError}
    (fault : firstFault? config registry.sorted = some error) :
    ∃ before name definition after, registry.sorted = before ++ (name, definition) :: after ∧
      (∀ entry ∈ before, entry.2.Sound config entry.1) ∧ definition.Blames config name error ∧
      (definition.StopsAtAlias config name error →
        WarnsOf config.overrides (before ++ [(name, definition)])
          (registry.build config).warnings) ∧
      (¬ definition.StopsAtAlias config name error →
        WarnsOf config.overrides before (registry.build config).warnings) := by
  obtain ⟨before, name, definition, after, split, sound, stops, blocks⟩ :=
    warningBlocks_of_fault fault
  have blames := KindDefinition.fault?_eq_some_iff.1 stops
  have given : (registry.build config).warnings =
      (before.flatMap fun entry => entry.2.warnings config entry.1) ++
        definition.givenWarnings config name := by
    rw [build_eq, blocks, warningBlocks_of_sound sound, List.flatMap_append, List.flatMap_map,
      List.flatMap_singleton]
  refine ⟨before, name, definition, after, split, ?_, blames, ?_, ?_⟩
  · intro entry member
    exact KindDefinition.fault?_eq_none_iff.1 (List.findSome?_eq_none_iff.1 sound entry member)
  · intro atAlias
    have whole := warnsOf_flatMap config (before ++ [(name, definition)])
    rwa [List.flatMap_append, List.flatMap_singleton, ← blames.givenWarnings_eq.1 atAlias,
      ← given] at whole
  · intro early
    rw [given, blames.givenWarnings_eq.2 early, List.append_nil]
    exact warnsOf_flatMap config before

/-- No two kinds at the front of the sorted ones have one name. -/
theorem names_nodup_of_front {kinds : List (String × KindDefinition)}
    (front : kinds <+: registry.sorted) : (kinds.map (·.1)).Nodup :=
  (nodup_of_increasing registry.sortedNames_increasing).sublist (front.sublist.map _)

theorem isIdentifier_of_sound (sound : firstFault? config registry.sorted = none) :
    ∀ entry ∈ registry.sorted, isIdentifier entry.1 = true := by
  intro entry member
  exact isIdentifier_iff.2
    (firstFault?_eq_none_iff.1 sound entry.1 entry.2 (mem_sorted.1 member)).named

/-- No field is warned about twice in a build. -/
theorem labels_nodup (registry : Registry) (config : Config) :
    ((registry.build config).warnings.map (·.field)).Nodup := by
  cases fault : firstFault? config registry.sorted with
  | none =>
      exact (warnsOf_of_sound fault).labels_nodup (isIdentifier_of_sound fault)
        (names_nodup_of_front List.prefix_rfl)
  | some error =>
      obtain ⟨before, name, definition, after, split, sound, blames, late, early⟩ :=
        warnsOf_of_fault fault
      have named : ∀ entry ∈ before, isIdentifier entry.1 = true :=
        fun entry member => isIdentifier_iff.2 (sound entry member).named
      by_cases atAlias : definition.StopsAtAlias config name error
      · have front : before ++ [(name, definition)] <+: registry.sorted := ⟨after, by simp [split]⟩
        refine (late atAlias).labels_nodup ?_ (names_nodup_of_front front)
        rw [List.forall_mem_append, List.forall_mem_singleton]
        exact ⟨named, isIdentifier_iff.2 atAlias.1⟩
      · exact (early atAlias).labels_nodup named (names_nodup_of_front ⟨_, split.symm⟩)

/-- In a model without fault the types that are left open are those that have to be. -/
theorem typeOf_eq_mixed_iff (sound : firstFault? config registry.sorted = none)
    {kind field : String} {definition : KindDefinition} {spec : FieldSpec}
    (defined : registry.kinds.get? kind = some definition)
    (specified : definition.fields.get? field = some spec) :
    spec.typeOf config kind field = .mixed ↔
      registry.LeavesOpen config (registry.build config).warnings kind field := by
  have warned := (warnsOf_of_sound sound).label_mem_iff (isIdentifier_of_sound sound)
    (names_nodup_of_front List.prefix_rfl) (mem_sorted.2 (OrderedMap.get?_eq_some_iff.1 defined))
    (OrderedMap.get?_eq_some_iff.1 specified)
  rw [FieldSpec.typeOf_eq_mixed_iff, LeavesOpen, warned]
  simp [defined, specified]

/-- The warnings of a build are exact.  They go through the kinds in increasing order of
names and through the fields in the order of the schema, one for each field that is refused
and none twice.  The types that a model leaves open are those of the fields that are warned
about and of those about which nothing is said.  A build that stops has warned about all
kinds in front of the one at fault, and about that one exactly if it stops at an alias. -/
theorem build_warnings (registry : Registry) (config : Config) :
    ∃ kinds : List (String × KindDefinition),
      kinds.Perm registry.kinds.entries ∧ kinds.Pairwise (fun a b => a.1 < b.1) ∧
      ((registry.build config).warnings.map (·.field)).Nodup ∧
      (∀ model, (registry.build config).outcome = .ok model →
        WarnsOf config.overrides kinds (registry.build config).warnings ∧
        ∀ kind ∈ model.kinds,
          (∀ field ∈ kind.fields, field.type = .mixed ↔
            registry.LeavesOpen config (registry.build config).warnings kind.name field.name) ∧
          ∀ entry ∈ kind.builder, entry.type = .mixed ↔
            registry.LeavesOpen config (registry.build config).warnings kind.name entry.field) ∧
      ∀ error, (registry.build config).outcome = .error error →
        ∃ before name definition after, kinds = before ++ (name, definition) :: after ∧
          (∀ entry ∈ before, entry.2.Sound config entry.1) ∧
          definition.Blames config name error ∧
          (definition.StopsAtAlias config name error →
            WarnsOf config.overrides (before ++ [(name, definition)])
              (registry.build config).warnings) ∧
          (¬ definition.StopsAtAlias config name error →
            WarnsOf config.overrides before (registry.build config).warnings) := by
  refine ⟨registry.sorted, registry.sorted_perm, registry.sorted_increasing,
    labels_nodup registry config, ?_, ?_⟩
  · intro model built
    obtain ⟨sound, rfl⟩ := build_eq_ok_iff.1 built
    refine ⟨warnsOf_of_sound sound, ?_⟩
    intro kind member
    obtain ⟨definition, defined, equal⟩ := mem_kinds_resolved.1 member
    rw [equal]
    constructor
    · intro field listed
      obtain ⟨spec, specified, -, same⟩ := KindDefinition.mem_resolvedFields.1 listed
      rw [← same]
      exact typeOf_eq_mixed_iff sound defined specified
    · intro entry taken
      obtain ⟨spec, specified, same⟩ := KindDefinition.mem_parameters taken
      rw [same]
      exact typeOf_eq_mixed_iff sound defined specified
  · intro error stopped
    rw [build_eq] at stopped
    cases fault : firstFault? config registry.sorted with
    | none => simp [fault] at stopped
    | some first =>
        rw [fault] at stopped
        cases stopped
        exact warnsOf_of_fault fault

/-- A build that stops at an alias of its only kind has warned about the kind. -/
example :
    let leaf : KindDefinition :=
      { fields := { entries := [("value", { validator := some (.each (.exactType "Leaf")) })] }
        aliases := ["no name"] }
    let registry : Registry := { kinds := { entries := [("Leaf", leaf)] } }
    (registry.build {}).warnings.map (·.field) = ["Leaf.value"] := by
  decide +kernel

end Registry

end NodeDecl
