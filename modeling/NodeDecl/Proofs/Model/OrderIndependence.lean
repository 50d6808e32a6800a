import Mathlib.Data.List.Forall2
import Mathlib.Data.Option.Basic
import NodeDecl.Proofs.Artifact.Generation
import NodeDecl.Proofs.Schema.Loading
import NodeDecl.Proofs.Schema.Sorting

/-!
# Order independence

Two registries with the same content may list their kinds, and each kind its
fields, in different orders.  What is generated from them is the same, and so is
the fault if there is one; only the warnings inside a kind may change places.
-/

namespace NodeDecl

/-! ## The same content -/

/-- Definitions that differ at most in the order of their fields. -/
structure KindDefinition.SameContent (left right : KindDefinition) : Prop where
  builder : left.builder = right.builder
  aliases : left.aliases = right.aliases
  fields : ∀ field, left.fields.get? field = right.fields.get? field

/-- Registries that differ at most in the order of their kinds and of the fields of
each kind. -/
def Registry.SameContent (left right : Registry) : Prop :=
  ∀ name, Option.Rel KindDefinition.SameContent (left.kinds.get? name) (right.kinds.get? name)

/-- The same name with definitions of the same content. -/
def SameEntry (left right : String × KindDefinition) : Prop :=
  left.1 = right.1 ∧ left.2.SameContent right.2

namespace KindDefinition.SameContent

variable {left right : KindDefinition} (same : left.SameContent right)
variable (config : Config) (name : String)

include same

theorem fields_perm : left.fields.entries.Perm right.fields.entries :=
  OrderedMap.perm_of_get?_eq same.fields

theorem allAliases_eq : left.allAliases config = right.allAliases config := by
  rw [allAliases, allAliases, same.aliases]

theorem earlyFault?_eq : left.earlyFault? name = right.earlyFault? name := by
  have contains : left.fields.contains = right.fields.contains := by
    funext field
    rw [OrderedMap.contains_eq_isSome, OrderedMap.contains_eq_isSome, same.fields]
  rw [earlyFault?, earlyFault?, same.builder, contains]

theorem fault?_eq : left.fault? config name = right.fault? config name := by
  rw [fault?, fault?, same.earlyFault?_eq, aliasFault?, aliasFault?, same.allAliases_eq]

theorem resolved_eq : left.resolved config name = right.resolved config name := by
  have parameters : ∀ field,
      (left.fields.get? field).map (resolvedParameter config name field) =
        (right.fields.get? field).map (resolvedParameter config name field) := by
    intro field
    rw [same.fields]
  rw [resolved, resolved, resolvedFields_eq, resolvedFields_eq, parameters_eq_filterMap,
    parameters_eq_filterMap, orderedFields_eq_of_perm same.builder same.fields_perm,
    same.builder, funext parameters, same.allAliases_eq]

/-- The warnings of a kind follow the order of its fields, and nothing else changes. -/
theorem givenWarnings_perm :
    (left.givenWarnings config name).Perm (right.givenWarnings config name) := by
  rw [givenWarnings, givenWarnings, same.earlyFault?_eq]
  cases right.earlyFault? name with
  | some error => exact .refl _
  | none => exact same.fields_perm.filterMap _

end KindDefinition.SameContent

/-! ## Builds side by side -/

/-- Lists with the same names, where what a name is bound to is related, are related
entry by entry. -/
theorem forall₂_of_names {α : Type} {related : α → α → Prop} {left right : List (String × α)}
    (names : left.map (·.1) = right.map (·.1))
    (bound : ∀ name l r, (name, l) ∈ left → (name, r) ∈ right → related l r) :
    List.Forall₂ (fun l r => l.1 = r.1 ∧ related l.2 r.2) left right := by
  induction left generalizing right with
  | nil =>
      cases right with
      | nil => exact .nil
      | cons entry rest => cases names
  | cons entry rest ih =>
      cases right with
      | nil => cases names
      | cons other others =>
          rw [List.map_cons, List.map_cons, List.cons.injEq] at names
          refine .cons ⟨names.1, ?_⟩ (ih names.2 ?_)
          · exact bound entry.1 entry.2 other.2 List.mem_cons_self
              (names.1 ▸ List.mem_cons_self)
          · intro name l r inLeft inRight
            exact bound name l r (List.mem_cons_of_mem _ inLeft) (List.mem_cons_of_mem _ inRight)

section Related

variable {left right : List (String × KindDefinition)} (config : Config)

theorem firstFault?_eq_of_forall₂ (related : List.Forall₂ SameEntry left right) :
    firstFault? config left = firstFault? config right := by
  induction related with
  | nil => rfl
  | @cons l r _ _ same _ ih =>
      rw [firstFault?_cons config l.1 l.2, firstFault?_cons config r.1 r.2, ih, same.1,
        same.2.fault?_eq]

theorem resolved_eq_of_forall₂ (related : List.Forall₂ SameEntry left right) :
    left.map (fun entry => entry.2.resolved config entry.1) =
      right.map fun entry => entry.2.resolved config entry.1 := by
  induction related with
  | nil => rfl
  | cons same _ ih => rw [List.map_cons, List.map_cons, ih, same.1, same.2.resolved_eq]

/-- Kinds are looked at side by side, so both builds stop at the same kind. -/
theorem examined_of_forall₂ (related : List.Forall₂ SameEntry left right) :
    List.Forall₂ SameEntry (examined config left) (examined config right) := by
  induction related with
  | nil => exact .nil
  | cons same _ ih =>
      rw [examined, examined, same.1, same.2.fault?_eq]
      split
      · exact .cons same .nil
      · exact .cons same ih

end Related

namespace Registry

variable {left right : Registry}

/-- The sorted kinds of registries with the same content correspond one by one. -/
theorem SameContent.sorted (same : left.SameContent right) :
    List.Forall₂ SameEntry left.sorted right.sorted := by
  have names : left.sorted.map (·.1) = right.sorted.map (·.1) := by
    apply eq_of_increasing left.sortedNames_increasing right.sortedNames_increasing
    intro name
    rw [mem_sortedNames, mem_sortedNames, ← not_iff_not, ← OrderedMap.get?_eq_none_iff,
      ← OrderedMap.get?_eq_none_iff]
    have related := same name
    generalize left.kinds.get? name = l, right.kinds.get? name = r at related ⊢
    cases related with
    | some _ => simp
    | none => rfl
  apply forall₂_of_names names
  intro name l r inLeft inRight
  have related := same name
  rw [OrderedMap.get?_eq_some_iff.2 (mem_sorted.1 inLeft),
    OrderedMap.get?_eq_some_iff.2 (mem_sorted.1 inRight)] at related
  cases related with
  | some content => exact content

/-- Registries with the same content give the same texts, or fail alike. -/
theorem SameContent.generate_outcome_eq (same : left.SameContent right) (config : Config) :
    (left.generate config).outcome = (right.generate config).outcome := by
  rw [generate_eq, generate_eq, firstFault?_eq_of_forall₂ config same.sorted, resolved,
    resolved, resolved_eq_of_forall₂ config same.sorted]

end Registry

/-! ## Warnings -/

/-- Warnings that come kind by kind, for the same kinds in the same order, the first
of those that are named; inside a kind they may change places. -/
def SameWarningsByKind (names : List String) (left right : List Warning) : Prop :=
  ∃ leftBlocks rightBlocks : List (String × List Warning),
    left = leftBlocks.flatMap (·.2) ∧ right = rightBlocks.flatMap (·.2) ∧
      leftBlocks.map (·.1) <+: names ∧
      (∀ block ∈ leftBlocks, ∀ warning ∈ block.2,
        ∃ field, warning.field = block.1 ++ "." ++ field) ∧
      List.Forall₂ (fun l r => l.1 = r.1 ∧ l.2.Perm r.2) leftBlocks rightBlocks

theorem warningBlocks_of_forall₂ {left right : List (String × KindDefinition)} (config : Config)
    (related : List.Forall₂ SameEntry left right) :
    List.Forall₂ (fun l r => l.1 = r.1 ∧ l.2.Perm r.2)
      (warningBlocks config left) (warningBlocks config right) := by
  rw [warningBlocks, warningBlocks, List.forall₂_map_left_iff, List.forall₂_map_right_iff]
  apply (examined_of_forall₂ config related).imp
  intro l r same
  refine ⟨same.1, ?_⟩
  rw [same.1]
  exact same.2.givenWarnings_perm config r.1

theorem Registry.SameContent.warnings {left right : Registry} (same : left.SameContent right)
    (config : Config) :
    SameWarningsByKind left.sortedNames (left.generate config).warnings
      (right.generate config).warnings := by
  refine ⟨warningBlocks config left.sorted, warningBlocks config right.sorted, ?_, ?_, ?_, ?_,
    warningBlocks_of_forall₂ config same.sorted⟩
  · rw [Registry.generate_eq]
  · rw [Registry.generate_eq]
  · rw [warningBlocks, List.map_map]
    exact (examined_initial config left.sorted).map _
  · intro block member warning given
    rcases List.mem_map.1 member with ⟨entry, -, rfl⟩
    rcases KindDefinition.field_of_mem_givenWarnings given with ⟨field, -, equal⟩
    exact ⟨field, equal⟩

/-! ## Files -/

/-- Lists that define the same kinds with the same content. -/
def SameDefinitions (left right : List (String × KindDefinition)) : Prop :=
  (∀ entry ∈ left, ∃ other ∈ right, SameEntry entry other) ∧
    ∀ other ∈ right, ∃ entry ∈ left, SameEntry entry other

/-- Definitions that only change places are the same. -/
theorem SameDefinitions.of_perm {left right : List (String × KindDefinition)}
    (perm : left.Perm right) : SameDefinitions left right := by
  have itself : ∀ entry, SameEntry entry entry := fun entry => ⟨rfl, rfl, rfl, fun _ => rfl⟩
  constructor
  · intro entry member
    exact ⟨entry, perm.mem_iff.1 member, itself entry⟩
  · intro entry member
    exact ⟨entry, perm.mem_iff.2 member, itself entry⟩

/-- Registries whose kinds are defined alike have the same content. -/
theorem SameDefinitions.sameContent {left right : Registry}
    (same : SameDefinitions left.kinds.entries right.kinds.entries) :
    left.SameContent right := by
  intro name
  cases inLeft : left.kinds.get? name with
  | some definition =>
      rcases same.1 (name, definition) (OrderedMap.get?_eq_some_iff.1 inLeft) with
        ⟨⟨_, other⟩, member, rfl, content⟩
      rw [OrderedMap.get?_eq_some_iff.2 member]
      exact .some content
  | none =>
      cases inRight : right.kinds.get? name with
      | none => exact .none
      | some other =>
          rcases same.2 (name, other) (OrderedMap.get?_eq_some_iff.1 inRight) with
            ⟨⟨_, definition⟩, member, rfl, -⟩
          rw [OrderedMap.get?_eq_some_iff.2 member] at inLeft
          cases inLeft

/-- Generation does not depend on the order in which a registry lists its kinds and their
fields: outcome and texts are the same, and warnings change places only inside a
kind.  So it does not matter either how definitions are spread over files and in which
order the files are loaded, as long as they can be loaded. -/
theorem generate_order_independent (config : Config) :
    (∀ left right : Registry, left.SameContent right →
      (left.generate config).outcome = (right.generate config).outcome ∧
        SameWarningsByKind left.sortedNames (left.generate config).warnings
          (right.generate config).warnings) ∧
    ∀ (leftSession rightSession leftLast rightLast : Session) (leftPaths rightPaths : List Path)
      (left right : Registry),
      (Registry.load leftPaths : Action (StateM Session) Registry).on leftSession =
        (.ok left, leftLast) →
      (Registry.load rightPaths : Action (StateM Session) Registry).on rightSession =
        (.ok right, rightLast) →
      SameDefinitions (leftPaths.flatMap (leftSession.tree.definitions leftSession.directory))
        (rightPaths.flatMap (rightSession.tree.definitions rightSession.directory)) →
      (left.generate config).outcome = (right.generate config).outcome := by
  constructor
  · intro left right same
    exact ⟨same.generate_outcome_eq config, same.warnings config⟩
  · intro leftSession rightSession leftLast rightLast leftPaths rightPaths left right
      leftLoaded rightLoaded same
    rw [← Registry.entries_of_load leftLoaded, ← Registry.entries_of_load rightLoaded] at same
    exact same.sameContent.generate_outcome_eq config

/-- Two kinds in a file each, or both in one file in the other order. -/
theorem generate_order_independent_of_files :
    let leaf := "\"Leaf\": [[], \x7b\"value\": [], \"raw\": []\x7d, [\"Shared\"]]"
    let loop := "\"Loop\": [[\"body\"], \x7b\"body\": []\x7d]"
    let tree : FileTree := .directory
      [("both.json", .file ("[\x7b" ++ leaf ++ "," ++ loop ++ "\x7d]").toUTF8),
        ("leaf.json", .file ("[\x7b" ++ leaf ++ "\x7d]").toUTF8),
        ("loop.json", .file ("[\x7b" ++ loop ++ "\x7d]").toUTF8)]
    let load := fun paths : List Path =>
      (Registry.load paths : Action (StateM Session) Registry).on { tree }
    ∃ left right, (load [⟨"loop.json"⟩, ⟨"leaf.json"⟩]).1 = .ok left ∧
      (load [⟨"both.json"⟩]).1 = .ok right ∧ left.kinds.keys = ["Loop", "Leaf"] ∧
      right.kinds.keys = ["Leaf", "Loop"] ∧
      (left.generate {}).outcome = (right.generate {}).outcome := by
  intro leaf loop tree load
  let leafKind : KindDefinition :=
    { fields := { entries := [("value", {}), ("raw", {})] }, aliases := ["Shared"] }
  let loopKind : KindDefinition :=
    { builder := ["body"], fields := { entries := [("body", {})] } }
  let left : Registry := { kinds := { entries := [("Loop", loopKind), ("Leaf", leafKind)] } }
  let right : Registry := { kinds := { entries := [("Leaf", leafKind), ("Loop", loopKind)] } }
  have leftLoaded : (load [⟨"loop.json"⟩, ⟨"leaf.json"⟩]).1 = .ok left := by decide +kernel
  have rightLoaded : (load [⟨"both.json"⟩]).1 = .ok right := by decide +kernel
  have leftRun : load [⟨"loop.json"⟩, ⟨"leaf.json"⟩] = (.ok left, _) := Prod.ext leftLoaded rfl
  have rightRun : load [⟨"both.json"⟩] = (.ok right, _) := Prod.ext rightLoaded rfl
  have same : SameDefinitions
      ([⟨"loop.json"⟩, ⟨"leaf.json"⟩].flatMap (tree.definitions []))
      ([⟨"both.json"⟩].flatMap (tree.definitions [])) := by
    rw [← Registry.entries_of_load leftRun, ← Registry.entries_of_load rightRun]
    exact .of_perm (.swap _ _ _)
  refine ⟨left, right, leftLoaded, rightLoaded, rfl, rfl, ?_⟩
  exact (generate_order_independent {}).2 { tree } { tree } _ _ _ _ left right leftRun rightRun
    same

end NodeDecl
