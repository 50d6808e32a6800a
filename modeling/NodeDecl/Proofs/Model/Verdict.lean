import NodeDecl.Model.Build
import NodeDecl.Proofs.Schema.Sorting

/-!
# What a build comes to

A build checks kind after kind and stops at the first fault.  This module says
which fault a kind has, if any, what the kind resolves to otherwise, and which
warnings it has given by then.  The types of the fields come from a table that is
filled once for each kind; they are the types of the single fields, and filling it
gives one warning at most for each of them.  A build of several kinds is described by these
alone: its outcome is the first fault or all the resolved kinds, and its warnings
are those of the kinds that it has looked at.
-/

namespace NodeDecl

/-! ## Steps -/

namespace Build

variable {α β : Type}

@[simp] theorem outcome_pure (value : α) : (pure value : Build α).outcome = .ok value := rfl

@[simp] theorem warnings_pure (value : α) : (pure value : Build α).warnings = [] := rfl

/-- A step whose first part stops has stopped with it. -/
theorem bind_of_error {build : Build α} {next : α → Build β} {error : BuildError}
    (stopped : build.outcome = .error error) :
    build >>= next = { warnings := build.warnings, outcome := .error error } := by
  change bind build next = _
  rw [bind, stopped]

/-- A step whose first part goes on adds the warnings of the second. -/
theorem bind_of_ok {build : Build α} {next : α → Build β} {value : α}
    (done : build.outcome = .ok value) :
    build >>= next =
      { warnings := build.warnings ++ (next value).warnings, outcome := (next value).outcome } := by
  change bind build next = _
  rw [bind, done]

@[simp] theorem warnings_requireAll (holds : String → Bool) (error : String → BuildError)
    (names : List String) : (requireAll holds error names).warnings = [] := by
  rw [requireAll]
  split <;> rfl

/-- A check stops at the first name that does not pass. -/
theorem outcome_requireAll (holds : String → Bool) (error : String → BuildError)
    (names : List String) :
    (requireAll holds error names).outcome =
      match names.find? fun name => !holds name with
      | some name => .error (error name)
      | none => .ok () := by
  rw [requireAll]
  cases names.find? fun name => !holds name with
  | some name => rfl
  | none => rfl

end Build

/-! ## Fields -/

namespace FieldSpec

/-- The type of a field, `mixed` if its validator stands for no type. -/
def typeOf (spec : FieldSpec) (config : Config) (kind field : String) : TypeExpr :=
  match spec.resolve config.overrides kind field with
  | .ok type => type
  | .error _ => .mixed

/-- The warning that a field gives, if any. -/
def warning? (spec : FieldSpec) (config : Config) (kind field : String) : Option Warning :=
  match spec.resolve config.overrides kind field with
  | .ok _ => none
  | .error shape => some { field := kind ++ "." ++ field, validator := shape.payload }

/-- Settling the type of a field cannot fail, and gives one warning at most. -/
theorem settle_eq (spec : FieldSpec) (config : Config) (kind field : String) :
    spec.settle config kind field =
      { warnings := (spec.warning? config kind field).toList
        outcome := .ok (spec.typeOf config kind field) } := by
  rw [settle, typeOf, warning?]
  cases spec.resolve config.overrides kind field with
  | ok type => rfl
  | error shape => rfl

end FieldSpec

/-- The types of some fields of a kind, each under its name. -/
def fieldTypes (config : Config) (kind : String) (fields : List (String × FieldSpec)) :
    SortedMap TypeExpr :=
  fields.foldr (fun entry types => types.insert entry.1 (entry.2.typeOf config kind entry.1)) ∅

/-- The warnings of some fields of a kind, in their order. -/
def fieldWarnings (config : Config) (kind : String) (fields : List (String × FieldSpec)) :
    List Warning :=
  fields.filterMap fun entry => entry.2.warning? config kind entry.1

/-- Filling a table cannot fail, and warns about each field once at most. -/
theorem typeTable_eq (config : Config) (kind : String) (fields : List (String × FieldSpec)) :
    typeTable config kind fields =
      { warnings := fieldWarnings config kind fields
        outcome := .ok (fieldTypes config kind fields) } := by
  induction fields with
  | nil => rfl
  | cons entry rest ih =>
      rcases entry with ⟨field, spec⟩
      rw [typeTable, FieldSpec.settle_eq, Build.bind_of_ok rfl, ih, Build.bind_of_ok rfl]
      cases warned : spec.warning? config kind field with
      | none => simp [fieldWarnings, fieldTypes, warned]
      | some warning => simp [fieldWarnings, fieldTypes, warned]

/-- What a table says of a field is the type that the field itself resolves to. -/
theorem get?_fieldTypes (config : Config) (kind : String) (fields : List (String × FieldSpec))
    (field : String) :
    (fieldTypes config kind fields).get? field =
      (fields.lookup field).map fun spec => spec.typeOf config kind field := by
  induction fields with
  | nil => rfl
  | cons entry rest ih =>
      rcases entry with ⟨name, spec⟩
      rw [lookup_cons_eq_ite, fieldTypes, List.foldr_cons, SortedMap.get?_insert, ← fieldTypes, ih]
      split_ifs with same
      · subst same
        rfl
      · rfl

/-! ## One kind -/

namespace KindDefinition

variable {definition : KindDefinition} {config : Config} {name : String}

/-- The types of the fields of a kind. -/
def types (definition : KindDefinition) (config : Config) (name : String) : SortedMap TypeExpr :=
  fieldTypes config name definition.fields.entries

/-- The warnings of a kind, in the order in which the schema defines the fields. -/
def warnings (definition : KindDefinition) (config : Config) (name : String) : List Warning :=
  fieldWarnings config name definition.fields.entries

/-- The field of a declaration for a specification. -/
def resolvedField (config : Config) (name : String) (entry : String × FieldSpec) :
    ResolvedField where
  name := entry.1
  type := entry.2.typeOf config name entry.1
  rendered := (entry.2.typeOf config name entry.1).render config.nodeSuffix
  optional := entry.2.optional

/-- The parameter for a specification. -/
def resolvedParameter (config : Config) (name field : String) (spec : FieldSpec) : Parameter :=
  parameter spec config field (spec.typeOf config name field)

theorem get?_types {field : String} {spec : FieldSpec}
    (specified : definition.fields.get? field = some spec) :
    (definition.types config name).get? field = some (spec.typeOf config name field) := by
  have found : definition.fields.entries.lookup field = some spec := specified
  rw [types, get?_fieldTypes, found, Option.map_some]

/-- The fields of a declaration have their own types. -/
theorem resolvedFields_eq (definition : KindDefinition) (config : Config) (name : String) :
    definition.resolvedFields config (definition.types config name) =
      (definition.orderedFields.filter fun entry => entry.1 ≠ config.reservedField).map
        (resolvedField config name) := by
  rw [resolvedFields]
  apply List.map_congr_left
  intro entry member
  have specified : definition.fields.get? entry.1 = some entry.2 :=
    OrderedMap.get?_eq_some_iff.2
      (definition.orderedFields_perm.mem_iff.1 (List.mem_filter.1 member).1)
  simp only [get?_types specified, Option.getD_some, resolvedField]

/-- The parameters of a builder have the types of their fields. -/
theorem parameters_eq_filterMap (definition : KindDefinition) (config : Config) (name : String) :
    definition.parameters config (definition.types config name) =
      definition.builder.filterMap fun field =>
        (definition.fields.get? field).map (resolvedParameter config name field) := by
  rw [parameters]
  congr 1
  funext field
  cases specified : definition.fields.get? field with
  | none => rfl
  | some spec =>
      simp only [Option.map_some, get?_types specified, Option.getD_some, resolvedParameter]

/-- The first fault that shows before the fields of a kind are resolved: its name, or
an entry of its builder. -/
def earlyFault? (definition : KindDefinition) (name : String) : Option BuildError :=
  if isIdentifier name then
    (definition.builder.find? fun field => !definition.fields.contains field).map
      (.missingField name)
  else some (.invalidIdentifier name)

/-- The fault of the aliases of a kind. -/
def aliasFault? (definition : KindDefinition) (config : Config) : Option BuildError :=
  ((definition.allAliases config).find? fun group => !isIdentifier group).map .invalidIdentifier

/-- The first fault of a kind. -/
def fault? (definition : KindDefinition) (config : Config) (name : String) :
    Option BuildError :=
  (definition.earlyFault? name).or (definition.aliasFault? config)

/-- What a kind without fault resolves to. -/
def resolved (definition : KindDefinition) (config : Config) (name : String) : Kind where
  name := name
  fields := definition.resolvedFields config (definition.types config name)
  builder := definition.parameters config (definition.types config name)
  aliases := definition.allAliases config

/-- The warnings that a kind gives before it stops. -/
def givenWarnings (definition : KindDefinition) (config : Config) (name : String) :
    List Warning :=
  match definition.earlyFault? name with
  | some _ => []
  | none => definition.warnings config name

/-- The build of a kind: its first fault, or what it resolves to. -/
theorem build_eq (definition : KindDefinition) (config : Config) (name : String) :
    definition.build config name =
      { warnings := definition.givenWarnings config name
        outcome :=
          match definition.fault? config name with
          | some error => .error error
          | none => .ok (definition.resolved config name) } := by
  rw [KindDefinition.build, fault?, givenWarnings, earlyFault?, aliasFault?]
  by_cases valid : isIdentifier name
  · have named : (Build.requireAll isIdentifier .invalidIdentifier [name]).outcome = .ok () := by
      simp [Build.outcome_requireAll, valid]
    rw [Build.bind_of_ok named, if_pos valid]
    cases missing : definition.builder.find? fun field => !definition.fields.contains field with
    | some field =>
        have stopped : (Build.requireAll definition.fields.contains (.missingField name)
            definition.builder).outcome = .error (.missingField name field) := by
          rw [Build.outcome_requireAll, missing]
        rw [Build.bind_of_error stopped]
        simp
    | none =>
        have known : (Build.requireAll definition.fields.contains (.missingField name)
            definition.builder).outcome = .ok () := by
          rw [Build.outcome_requireAll, missing]
        rw [Build.bind_of_ok known, typeTable_eq, Build.bind_of_ok rfl]
        cases bad : (definition.allAliases config).find? fun group => !isIdentifier group with
        | some group =>
            have stopped : (Build.requireAll isIdentifier .invalidIdentifier
                (definition.allAliases config)).outcome = .error (.invalidIdentifier group) := by
              rw [Build.outcome_requireAll, bad]
            rw [Build.bind_of_error stopped]
            simp [warnings]
        | none =>
            have fine : (Build.requireAll isIdentifier .invalidIdentifier
                (definition.allAliases config)).outcome = .ok () := by
              rw [Build.outcome_requireAll, bad]
            rw [Build.bind_of_ok fine]
            simp [resolved, types, warnings]
  · have stopped : (Build.requireAll isIdentifier .invalidIdentifier [name]).outcome =
        .error (.invalidIdentifier name) := by
      simp [Build.outcome_requireAll, valid]
    rw [Build.bind_of_error stopped, if_neg valid]
    simp

/-- Every warning of a kind names a field of it. -/
theorem field_of_mem_givenWarnings {warning : Warning}
    (given : warning ∈ definition.givenWarnings config name) :
    ∃ field ∈ definition.fields.keys, warning.field = name ++ "." ++ field := by
  rw [givenWarnings] at given
  split at given
  · contradiction
  · rcases List.mem_filterMap.1 given with ⟨⟨field, spec⟩, member, fromField⟩
    refine ⟨field, List.mem_map_of_mem member, ?_⟩
    simp only [FieldSpec.warning?] at fromField
    split at fromField
    · contradiction
    · cases fromField
      rfl

/-- A kind without fault gives all its warnings. -/
theorem givenWarnings_of_sound (sound : definition.fault? config name = none) :
    definition.givenWarnings config name = definition.warnings config name := by
  rw [fault?, Option.or_eq_none_iff] at sound
  rw [givenWarnings, sound.1]

end KindDefinition

/-! ## Several kinds -/

/-- The first fault of some kinds. -/
def firstFault? (config : Config) (kinds : List (String × KindDefinition)) :
    Option BuildError :=
  kinds.findSome? fun entry => entry.2.fault? config entry.1

/-- The kinds that are looked at: all of them, or those up to the first with a fault. -/
def examined (config : Config) :
    List (String × KindDefinition) → List (String × KindDefinition)
  | [] => []
  | entry :: rest =>
      match entry.2.fault? config entry.1 with
      | some _ => [entry]
      | none => entry :: examined config rest

/-- The kinds that are looked at are the first ones. -/
theorem examined_initial (config : Config) (kinds : List (String × KindDefinition)) :
    examined config kinds <+: kinds := by
  induction kinds with
  | nil => exact List.prefix_rfl
  | cons entry rest ih =>
      rw [examined]
      split
      · exact ⟨rest, rfl⟩
      · exact List.cons_prefix_cons.2 ⟨rfl, ih⟩

/-- The warnings of a build, kind by kind. -/
def warningBlocks (config : Config) (kinds : List (String × KindDefinition)) :
    List (String × List Warning) :=
  (examined config kinds).map fun entry => (entry.1, entry.2.givenWarnings config entry.1)

theorem firstFault?_cons (config : Config) (name : String) (definition : KindDefinition)
    (rest : List (String × KindDefinition)) :
    firstFault? config ((name, definition) :: rest) =
      (definition.fault? config name).or (firstFault? config rest) := by
  rw [firstFault?, List.findSome?_cons]
  cases definition.fault? config name <;> rfl

/-- The build of some kinds: the first fault, or what all of them resolve to. -/
theorem buildKinds_eq (config : Config) (kinds : List (String × KindDefinition)) :
    buildKinds config kinds =
      { warnings := (warningBlocks config kinds).flatMap (·.2)
        outcome :=
          match firstFault? config kinds with
          | some error => .error error
          | none => .ok (kinds.map fun entry => entry.2.resolved config entry.1) } := by
  induction kinds with
  | nil => rfl
  | cons entry rest ih =>
      rcases entry with ⟨name, definition⟩
      rw [buildKinds, firstFault?_cons, warningBlocks, examined]
      cases fault : definition.fault? config name with
      | some error =>
          have stopped : (definition.build config name).outcome = .error error := by
            rw [KindDefinition.build_eq, fault]
          rw [Build.bind_of_error stopped, KindDefinition.build_eq]
          simp
      | none =>
          have done : (definition.build config name).outcome =
              .ok (definition.resolved config name) := by
            rw [KindDefinition.build_eq, fault]
          have given : (definition.build config name).warnings =
              definition.givenWarnings config name := by
            rw [KindDefinition.build_eq]
          rw [Build.bind_of_ok done, given]
          cases later : firstFault? config rest with
          | some error =>
              have stopped : (buildKinds config rest).outcome = .error error := by
                rw [ih, later]
              rw [Build.bind_of_error stopped, ih]
              simp [warningBlocks]
          | none =>
              have finished : (buildKinds config rest).outcome =
                  .ok (rest.map fun entry => entry.2.resolved config entry.1) := by
                rw [ih, later]
              rw [Build.bind_of_ok finished, ih]
              simp [warningBlocks]

namespace Registry

/-- What a registry without fault resolves to. -/
def resolved (registry : Registry) (config : Config) : Model :=
  let kinds := registry.sorted.map fun entry => entry.2.resolved config entry.1
  { kinds, groups := aliasGroups kinds }

/-- The build of a registry: the first fault in order of names, or its model. -/
theorem build_eq (registry : Registry) (config : Config) :
    registry.build config =
      { warnings := (warningBlocks config registry.sorted).flatMap (·.2)
        outcome :=
          match firstFault? config registry.sorted with
          | some error => .error error
          | none => .ok (registry.resolved config) } := by
  rw [Registry.build]
  cases fault : firstFault? config registry.sorted with
  | some error =>
      have stopped : (buildKinds config registry.sorted).outcome = .error error := by
        rw [buildKinds_eq, fault]
      rw [Build.bind_of_error stopped, buildKinds_eq]
  | none =>
      have done : (buildKinds config registry.sorted).outcome =
          .ok (registry.sorted.map fun entry => entry.2.resolved config entry.1) := by
        rw [buildKinds_eq, fault]
      rw [Build.bind_of_ok done, buildKinds_eq]
      simp [resolved]

/-- A build succeeds if no kind has a fault, and then it has the resolved model. -/
theorem build_eq_ok_iff {registry : Registry} {config : Config} {model : Model} :
    (registry.build config).outcome = .ok model ↔
      firstFault? config registry.sorted = none ∧ model = registry.resolved config := by
  rw [build_eq]
  cases firstFault? config registry.sorted with
  | none =>
      simp only [Except.ok.injEq, true_and]
      exact eq_comm
  | some error => simp

end Registry

end NodeDecl
