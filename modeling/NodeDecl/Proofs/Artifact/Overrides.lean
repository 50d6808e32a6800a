import Mathlib.Data.List.Forall2
import NodeDecl.Proofs.Artifact.Dependence
import NodeDecl.Proofs.Model.Warnings

/-!
# The reach of an override

An override gives a type for one field of one kind.  To add it, to take it away or to change
it may change that type wherever it is written, and whether there is a warning about the
field.  Everything else about a build stays as it is: whether it succeeds, the order and the
names of fields and parameters, which of them may be left out, the aliases and the groups,
all other types and all other warnings.  The wrapper does not change at all.
-/

namespace NodeDecl

/-- Configurations that agree in everything but the override of one field. -/
structure Config.AgreeBut (kind field : String) (left right : Config) : Prop where
  settings : { left with overrides := right.overrides } = right
  elsewhere : ∀ other place, other ≠ kind ∨ place ≠ field →
    left.overrides.find? other place = right.overrides.find? other place

/-- Kinds that agree in everything but the type of one field, where it is declared and where
the builder takes it. -/
structure Kind.AgreeBut (field : String) (left right : Kind) : Prop where
  name : left.name = right.name
  fields : List.Forall₂
    (fun l r : ResolvedField =>
      { l with type := r.type, rendered := r.rendered } = r ∧ (l.name ≠ field → l = r))
    left.fields right.fields
  builder : List.Forall₂
    (fun l r : Parameter =>
      { l with type := r.type, rendered := r.rendered } = r ∧ (l.field ≠ field → l = r))
    left.builder right.builder
  aliases : left.aliases = right.aliases

/-- Models that agree in everything but the type of one field of one kind. -/
structure Model.AgreeBut (kind field : String) (left right : Model) : Prop where
  kinds : List.Forall₂ (fun l r : Kind => l.AgreeBut field r ∧ (l.name ≠ kind → l = r))
    left.kinds right.kinds
  groups : left.groups = right.groups

/-- Outcomes that are the same fault, or two values that are related. -/
inductive OutcomesAgree {ε α : Type} (related : α → α → Prop) : Except ε α → Except ε α → Prop
  | error (fault : ε) : OutcomesAgree related (.error fault) (.error fault)
  | ok {left right : α} (values : related left right) :
      OutcomesAgree related (.ok left) (.ok right)

/-- A list that has an element of its own at some place or does not have it, and that has it
only under some condition. -/
inductive PerhapsWith {α : Type} (own : α) (condition : Prop) (front back : List α) :
    List α → Prop
  | without : PerhapsWith own condition front back (front ++ back)
  | present (holds : condition) : PerhapsWith own condition front back (front ++ own :: back)

/-- More elements on both sides. -/
theorem PerhapsWith.within {α : Type} {own : α} {condition : Prop} {front back whole : List α}
    (perhaps : PerhapsWith own condition front back whole) (before after : List α) :
    PerhapsWith own condition (before ++ front) (back ++ after) (before ++ (whole ++ after)) := by
  cases perhaps with
  | without =>
      have regrouped : before ++ (front ++ back ++ after) =
          (before ++ front) ++ (back ++ after) := by
        simp only [List.append_assoc]
      exact regrouped ▸ .without
  | present holds =>
      have regrouped : before ++ (front ++ own :: back ++ after) =
          (before ++ front) ++ own :: (back ++ after) := by
        simp only [List.append_assoc, List.cons_append]
      exact regrouped ▸ .present holds

/-! ## What stays -/

theorem Config.AgreeBut.refl (config : Config) (kind field : String) :
    config.AgreeBut kind field config :=
  ⟨rfl, fun _ _ _ => rfl⟩

section

variable {left right : Config} {kind field : String} (agree : left.AgreeBut kind field right)

include agree

/-- A setting that does not look at overrides is the same. -/
theorem Config.AgreeBut.setting_eq {α : Type} (setting : Config → α)
    (blind : ∀ overrides, setting { left with overrides } = setting left) :
    setting left = setting right :=
  (blind right.overrides).symm.trans (congrArg setting agree.settings)

/-- Away from the field the types are the same. -/
theorem FieldSpec.resolve_eq_of_agree (spec : FieldSpec) {other place : String}
    (elsewhere : other ≠ kind ∨ place ≠ field) :
    spec.resolve left.overrides other place = spec.resolve right.overrides other place := by
  rw [resolve, resolve, agree.elsewhere other place elsewhere]

theorem KindDefinition.allAliases_eq_of_agree (definition : KindDefinition) :
    definition.allAliases left = definition.allAliases right := by
  have universal : left.universalAlias = right.universalAlias :=
    agree.setting_eq Config.universalAlias fun _ => rfl
  rw [allAliases, allAliases, universal]

/-- Types play no part in faults. -/
theorem KindDefinition.fault?_eq_of_agree (definition : KindDefinition) (name : String) :
    definition.fault? left name = definition.fault? right name := by
  rw [fault?, fault?, aliasFault?, aliasFault?, allAliases_eq_of_agree agree]

theorem firstFault?_eq_of_agree (kinds : List (String × KindDefinition)) :
    firstFault? left kinds = firstFault? right kinds := by
  rw [firstFault?, firstFault?]
  congr 1
  funext entry
  exact entry.2.fault?_eq_of_agree agree entry.1

theorem examined_eq_of_agree (kinds : List (String × KindDefinition)) :
    examined left kinds = examined right kinds := by
  induction kinds with
  | nil => rfl
  | cons entry rest ih =>
      rw [examined, examined, entry.2.fault?_eq_of_agree agree, ih]

end

/-! ## Fields and parameters -/

namespace KindDefinition

variable {left right : Config} {kind field : String} (agree : left.AgreeBut kind field right)

include agree

theorem resolvedField_of_agree (name : String) (entry : String × FieldSpec) :
    let l := resolvedField left name entry
    let r := resolvedField right name entry
    { l with type := r.type, rendered := r.rendered } = r ∧
      (name ≠ kind ∨ entry.1 ≠ field → l = r) := by
  intro l r
  constructor
  · rfl
  · intro elsewhere
    have suffix : left.nodeSuffix = right.nodeSuffix :=
      agree.setting_eq Config.nodeSuffix fun _ => rfl
    have type : entry.2.typeOf left name entry.1 = entry.2.typeOf right name entry.1 := by
      rw [FieldSpec.typeOf, FieldSpec.typeOf, entry.2.resolve_eq_of_agree agree elsewhere]
    simp only [l, r, resolvedField, type, suffix]

theorem parameter_of_agree (spec : FieldSpec) (name place : String) :
    let l := resolvedParameter left name place spec
    let r := resolvedParameter right name place spec
    { l with type := r.type, rendered := r.rendered } = r ∧
      (name ≠ kind ∨ place ≠ field → l = r) := by
  intro l r
  have suffix : left.nodeSuffix = right.nodeSuffix :=
    agree.setting_eq Config.nodeSuffix fun _ => rfl
  have keywords : left.keywords = right.keywords := agree.setting_eq Config.keywords fun _ => rfl
  have names : parameterName left place = parameterName right place := by
    rw [parameterName, parameterName, Config.isKeyword, Config.isKeyword, keywords]
  constructor
  · simp only [l, r, resolvedParameter, parameter, names]
  · intro elsewhere
    have type : spec.typeOf left name place = spec.typeOf right name place := by
      rw [FieldSpec.typeOf, FieldSpec.typeOf, spec.resolve_eq_of_agree agree elsewhere]
    simp only [l, r, resolvedParameter, parameter, type, suffix, names]

/-- A kind keeps everything but the type of the field. -/
theorem resolved_of_agree (definition : KindDefinition) (name : String) :
    (definition.resolved left name).AgreeBut field (definition.resolved right name) ∧
      (name ≠ kind → definition.resolved left name = definition.resolved right name) := by
  have reserved : left.reservedField = right.reservedField :=
    agree.setting_eq Config.reservedField fun _ => rfl
  have aliases : definition.allAliases left = definition.allAliases right :=
    definition.allAliases_eq_of_agree agree
  constructor
  · constructor
    case name => rfl
    case fields =>
      rw [resolved, resolved, resolvedFields_eq, resolvedFields_eq, reserved,
        List.forall₂_map_left_iff, List.forall₂_map_right_iff, List.forall₂_same]
      intro entry _
      have both := resolvedField_of_agree agree name entry
      exact ⟨both.1, fun other => both.2 (.inr other)⟩
    case builder =>
      rw [resolved, resolved, parameters_eq_filterMap, parameters_eq_filterMap]
      apply List.rel_filterMap (R := Eq) _ (List.forall₂_eq_eq_eq ▸ rfl)
      intro place _ same
      cases same
      dsimp only
      cases definition.fields.get? place with
      | none => exact .none
      | some spec =>
          have both := parameter_of_agree agree spec name place
          exact .some ⟨both.1, fun other => both.2 (.inr other)⟩
    case aliases => exact aliases
  · intro other
    have fields : resolvedField left name = resolvedField right name := by
      funext entry
      exact (resolvedField_of_agree agree name entry).2 (.inl other)
    have parameters : resolvedParameter left name = resolvedParameter right name := by
      funext place spec
      exact (parameter_of_agree agree spec name place).2 (.inl other)
    rw [resolved, resolved, resolvedFields_eq, resolvedFields_eq, parameters_eq_filterMap,
      parameters_eq_filterMap, reserved, fields, parameters, aliases]

end KindDefinition

/-! ## Models -/

/-- The groups of some kinds are made from their names and aliases. -/
theorem aliasGroups_eq_of_names {left right : List Kind}
    (same : left.map (fun kind => (kind.name, kind.aliases)) =
      right.map fun kind => (kind.name, kind.aliases)) :
    aliasGroups left = aliasGroups right := by
  have filled : ∀ kinds : List Kind, aliasGroups kinds =
      (kinds.map fun kind => (kind.name, kind.aliases)).foldl
        (fun groups pair => pair.2.foldl (enlist pair.1) groups) ∅ := by
    intro kinds
    rw [List.foldl_map]
    rfl
  rw [filled, filled, same]

/-- A model keeps everything but the type of the field. -/
theorem Registry.resolved_of_agree {left right : Config} {kind field : String}
    (agree : left.AgreeBut kind field right) (registry : Registry) :
    (registry.resolved left).AgreeBut kind field (registry.resolved right) where
  kinds := by
    rw [resolved, resolved, List.forall₂_map_left_iff, List.forall₂_map_right_iff,
      List.forall₂_same]
    intro entry _
    exact entry.2.resolved_of_agree agree entry.1
  groups := by
    apply aliasGroups_eq_of_names
    rw [List.map_map, List.map_map]
    apply List.map_congr_left
    intro entry _
    exact congrArg (Prod.mk entry.1) (entry.2.allAliases_eq_of_agree agree)

theorem Model.AgreeBut.names_eq {left right : Model} {kind field : String}
    (agree : left.AgreeBut kind field right) :
    left.kinds.map (·.name) = right.kinds.map (·.name) := by
  rw [← List.forall₂_eq_eq_eq, List.forall₂_map_left_iff, List.forall₂_map_right_iff]
  exact agree.kinds.imp fun _ _ both => both.1.name

/-! ## Warnings -/

/-- Among configurations that agree with one but for the override of a field, the warnings
that they call for are the same, but for one about the field.  Those with an override do not
have it. -/
def WarnsAlikeBut (base : Config) (kind field : String) (warnings : Config → List Warning) :
    Prop :=
  ∃ front own back, own.field = fieldLabel kind field ∧
    ∀ config, base.AgreeBut kind field config →
      PerhapsWith own (config.overrides.find? kind field = none) front back (warnings config)

namespace WarnsAlikeBut

variable {base : Config} {kind field : String}

theorem congr {first second : Config → List Warning}
    (same : ∀ config, base.AgreeBut kind field config → first config = second config)
    (alike : WarnsAlikeBut base kind field second) : WarnsAlikeBut base kind field first := by
  obtain ⟨front, own, back, label, given⟩ := alike
  refine ⟨front, own, back, label, ?_⟩
  intro config agree
  rw [same config agree]
  exact given config agree

/-- Warnings that are always the same. -/
theorem of_constant {warnings : Config → List Warning}
    (constant : ∀ config, base.AgreeBut kind field config → warnings base = warnings config) :
    WarnsAlikeBut base kind field warnings := by
  refine ⟨warnings base, ⟨fieldLabel kind field, .null⟩, [], rfl, ?_⟩
  intro config agree
  have whole : warnings config = warnings base ++ [] := by
    rw [List.append_nil, constant config agree]
  exact whole ▸ .without

/-- The validator of a field is refused or not, and the override decides whether anybody
asks. -/
theorem of_field (spec : FieldSpec) :
    WarnsAlikeBut base kind field fun config => (spec.warning? config kind field).toList := by
  by_cases refused : ∃ validator shape, spec.validator = some validator ∧
      validator.resolve = .error shape
  · obtain ⟨validator, shape, constrained, failed⟩ := refused
    refine ⟨[], ⟨fieldLabel kind field, shape.payload⟩, [], rfl, ?_⟩
    intro config _
    dsimp only
    by_cases noOverride : config.overrides.find? kind field = none
    · rw [FieldSpec.warning?_of_refused (.intro noOverride constrained failed)]
      exact .present noOverride
    · have accepted : ∀ other, ¬ spec.Refused config.overrides kind field other :=
        fun _ ⟨absent, _, _⟩ => noOverride absent
      rw [FieldSpec.warning?_of_accepted accepted]
      exact .without
  · apply of_constant
    have none : ∀ config : Config, spec.warning? config kind field = none := by
      intro config
      apply FieldSpec.warning?_of_accepted
      intro shape ⟨_, constrained, failed⟩
      exact refused ⟨_, shape, constrained, failed⟩
    intro config _
    rw [none, none]

/-- Of things with distinct names only the one with a certain name gives other warnings. -/
theorem flatMap {α : Type} {values : List α} {name : α → String} (key : String)
    (distinct : (values.map name).Nodup) {warnings : Config → α → List Warning}
    (others : ∀ config, base.AgreeBut kind field config → ∀ value ∈ values, name value ≠ key →
      warnings base value = warnings config value)
    (own : ∀ value ∈ values, name value = key →
      WarnsAlikeBut base kind field (warnings · value)) :
    WarnsAlikeBut base kind field fun config => values.flatMap (warnings config) := by
  by_cases found : ∃ value ∈ values, name value = key
  · obtain ⟨value, member, rfl⟩ := found
    obtain ⟨front, single, back, label, given⟩ := own value member rfl
    obtain ⟨before, after, rfl⟩ := List.append_of_mem member
    rw [List.map_append, List.map_cons, List.nodup_middle, List.nodup_cons, ← List.map_append]
      at distinct
    have apart : ∀ other ∈ before ++ after, name other ≠ name value := by
      intro other inside same
      exact distinct.1 (same ▸ List.mem_map_of_mem inside)
    refine ⟨before.flatMap (warnings base) ++ front, single,
      back ++ after.flatMap (warnings base), label, ?_⟩
    intro config agree
    have outside : ∀ other ∈ before ++ after, warnings base other = warnings config other := by
      intro other inside
      refine others config agree other ?_ (apart other inside)
      rw [List.mem_append, List.mem_cons]
      exact (List.mem_append.1 inside).imp_right .inr
    rw [List.forall_mem_append] at outside
    dsimp only
    rw [List.flatMap_append, List.flatMap_cons, ← List.flatMap_congr outside.1,
      ← List.flatMap_congr outside.2]
    exact (given config agree).within _ _
  · apply of_constant
    intro config agree
    apply List.flatMap_congr
    intro value member
    exact others config agree value member fun same => found ⟨value, member, same⟩

end WarnsAlikeBut

section

variable {base : Config} {kind field : String}

/-- The warnings of a kind that has the name in question. -/
theorem KindDefinition.warnings_alike (definition : KindDefinition) :
    WarnsAlikeBut base kind field (definition.warnings · kind) := by
  have pieces : ∀ config : Config, definition.warnings config kind =
      definition.fields.entries.flatMap
        fun entry => (entry.2.warning? config kind entry.1).toList := by
    intro config
    rw [warnings, fieldWarnings, List.filterMap_eq_flatMap_toList]
  simp only [pieces]
  apply WarnsAlikeBut.flatMap field definition.fields.keys_nodup
  · intro config agree entry _ other
    rw [FieldSpec.warning?, FieldSpec.warning?, entry.2.resolve_eq_of_agree agree (.inr other)]
  · intro entry _ same
    subst same
    exact .of_field entry.2

theorem KindDefinition.givenWarnings_alike (definition : KindDefinition) :
    WarnsAlikeBut base kind field (definition.givenWarnings · kind) := by
  simp only [givenWarnings]
  cases definition.earlyFault? kind with
  | some error => exact .of_constant fun _ _ => rfl
  | none => exact definition.warnings_alike

/-- Other kinds give the same warnings as before. -/
theorem KindDefinition.givenWarnings_eq_of_agree {left right : Config}
    (agree : left.AgreeBut kind field right) (definition : KindDefinition) {name : String}
    (other : name ≠ kind) :
    definition.givenWarnings left name = definition.givenWarnings right name := by
  have same : definition.warnings left name = definition.warnings right name := by
    rw [warnings, warnings, fieldWarnings, fieldWarnings]
    congr 1
    funext entry
    rw [FieldSpec.warning?, FieldSpec.warning?, entry.2.resolve_eq_of_agree agree (.inl other)]
  rw [givenWarnings, givenWarnings, same]

/-- The warnings of a build are those of the kinds that it looks at, which are always the
same. -/
theorem Registry.warnings_alike (registry : Registry) :
    WarnsAlikeBut base kind field fun config => (registry.build config).warnings := by
  have blocks : ∀ config, base.AgreeBut kind field config → (registry.build config).warnings =
      (examined base registry.sorted).flatMap
        fun entry => entry.2.givenWarnings config entry.1 := by
    intro config agree
    rw [build_eq, warningBlocks, List.flatMap_map, examined_eq_of_agree agree]
  apply WarnsAlikeBut.congr blocks
  apply WarnsAlikeBut.flatMap kind
    (names_nodup_of_front (examined_initial base registry.sorted))
  · intro config agree entry _ other
    exact entry.2.givenWarnings_eq_of_agree agree other
  · intro entry _ same
    subst same
    exact entry.2.givenWarnings_alike

end

/-! ## The whole build -/

namespace Registry

/-- An override touches one field.  Two configurations that differ in the override of a
field alone give the same fault or two models, and these differ at most in the type of that
field; the wrappers are equal byte for byte.  The warnings are the same but for one about
the field, which is not there where the field has an override. -/
theorem build_override_frame (registry : Registry) {left right : Config} {kind field : String}
    (agree : left.AgreeBut kind field right) :
    OutcomesAgree
        (fun l r : Model => l.AgreeBut kind field r ∧
          Wrapper.render l left = Wrapper.render r right)
        (registry.build left).outcome (registry.build right).outcome ∧
      ∃ front own back, own.field = fieldLabel kind field ∧
        PerhapsWith own (left.overrides.find? kind field = none) front back
          (registry.build left).warnings ∧
        PerhapsWith own (right.overrides.find? kind field = none) front back
          (registry.build right).warnings := by
  constructor
  · rw [build_eq, build_eq, firstFault?_eq_of_agree agree]
    cases firstFault? right registry.sorted with
    | some error => exact .error error
    | none =>
        have models := registry.resolved_of_agree agree
        have engine : left.engineClass = right.engineClass :=
          agree.setting_eq Config.engineClass fun _ => rfl
        have groups := congrArg SortedMap.keys models.groups
        exact .ok ⟨models, Wrapper.render_eq_of_names models.names_eq groups engine⟩
  · have alike : WarnsAlikeBut left kind field _ := registry.warnings_alike
    obtain ⟨front, own, back, label, given⟩ := alike
    exact ⟨front, own, back, label, given left (.refl left kind field), given right agree⟩

/-- A field that is refused, without an override and with one, behind another field that is
refused: its warning goes, and the wrapper stays. -/
theorem build_override_frame_of_refused :
    let leaf : KindDefinition :=
      { builder := ["value"]
        fields := { entries :=
          [("other", { validator := some (.each (.exactType "Leaf")) }),
            ("value", { validator := some (.oneOfLiterals []) })] } }
    let registry : Registry := { kinds := { entries := [("Leaf", leaf)] } }
    let left : Config := { overrides := ∅ }
    let right : Config := { overrides := .ofList [("Leaf", .ofList [("value", "string")])] }
    left.AgreeBut "Leaf" "value" right ∧
      (registry.build left).warnings.map (·.field) = ["Leaf.other", "Leaf.value"] ∧
      (registry.build right).warnings.map (·.field) = ["Leaf.other"] ∧
      OutcomesAgree
        (fun l r : Model => l.AgreeBut "Leaf" "value" r ∧
          Wrapper.render l left = Wrapper.render r right)
        (registry.build left).outcome (registry.build right).outcome := by
  intro leaf registry left right
  have agree : left.AgreeBut "Leaf" "value" right := by
    constructor
    case settings => rfl
    case elsewhere =>
      intro other place elsewhere
      have empty : left.overrides.entries = [] := rfl
      have table : right.overrides.entries = [("Leaf", ⟨[("value", "string")], by simp⟩)] := rfl
      rw [OverrideTable.find?, OverrideTable.find?, SortedMap.get?, SortedMap.get?, empty, table,
        lookup_cons_eq_ite]
      by_cases same : other = "Leaf"
      · have differ : place ≠ "value" := elsewhere.resolve_left (by simp [same])
        simp [same, SortedMap.get?, differ]
      · simp [same]
  exact ⟨agree, by decide +kernel, by decide +kernel, (build_override_frame registry agree).1⟩

end Registry

end NodeDecl
