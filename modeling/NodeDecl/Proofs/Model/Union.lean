import NodeDecl.Proofs.Model.Groups

/-!
# Building a union

A registry may be put together from two others that have no kind in common.  Each kind
is resolved without regard to the others, so the model of the whole is the merge of
the two models, and its warnings are the merge of theirs.
-/

namespace NodeDecl

variable {α : Type}

/-! ## Merging by name -/

/-- Of things in strictly increasing order of names, two with the same name are one. -/
theorem eq_of_name_eq {name : α → String} {values : List α}
    (increasing : values.Pairwise (fun a b => name a < name b)) {a b : α} (first : a ∈ values)
    (second : b ∈ values) (equal : name a = name b) : a = b := by
  induction increasing with
  | nil => contradiction
  | @cons value rest before _ ih =>
      rcases List.mem_cons.1 first with rfl | inRest
      · rcases List.mem_cons.1 second with rfl | inRest'
        · rfl
        · exact absurd (equal ▸ before b inRest') (String.lt_irrefl _)
      · rcases List.mem_cons.1 second with rfl | inRest'
        · exact absurd (equal ▸ before a inRest) (String.lt_irrefl _)
        · exact ih inRest inRest'

/-- The merge of two lists by name is the only list in strictly increasing order that
holds what both hold. -/
theorem eq_merge_of_perm (name : α → String) {left right whole : List α}
    (perm : whole.Perm (left ++ right))
    (leftIncreasing : left.Pairwise (fun a b => name a < name b))
    (rightIncreasing : right.Pairwise (fun a b => name a < name b))
    (wholeIncreasing : whole.Pairwise (fun a b => name a < name b)) :
    whole = left.merge right (fun a b => name a ≤ name b) := by
  have weaken : ∀ {values : List α}, values.Pairwise (fun a b => name a < name b) →
      values.Pairwise (fun a b => decide (name a ≤ name b) = true) := by
    intro values increasing
    apply increasing.imp
    intro a b before
    exact decide_eq_true (String.not_lt.1 (String.lt_asymm before))
  have merged : (left.merge right (fun a b => name a ≤ name b)).Pairwise
      (fun a b => decide (name a ≤ name b) = true) := by
    apply List.pairwise_merge _ _ left right (weaken leftIncreasing) (weaken rightIncreasing)
    · intro a b c
      simpa using String.le_trans
    · intro a b
      simpa using String.le_total (name a) (name b)
  apply List.Perm.eq_of_pairwise _ (weaken wholeIncreasing) merged
    (perm.trans (List.merge_perm_append _).symm)
  intro a b inWhole inMerge le ge
  have inWhole' : b ∈ whole := (perm.trans (List.merge_perm_append _).symm).mem_iff.2 inMerge
  exact eq_of_name_eq wholeIncreasing inWhole inWhole'
    (String.le_antisymm (of_decide_eq_true le) (of_decide_eq_true ge))

/-! ## Groups -/

/-- The groups of the whole are those of the parts, with the members of both. -/
theorem get?_aliasGroups_merge {left right whole : List Kind}
    (perm : whole.Perm (left ++ right))
    (leftIncreasing : left.Pairwise (fun a b => a.name < b.name))
    (rightIncreasing : right.Pairwise (fun a b => a.name < b.name))
    (wholeIncreasing : whole.Pairwise (fun a b => a.name < b.name)) (group : String) :
    (aliasGroups whole).get? group =
      Option.merge (fun l r => l.merge r (fun a b => a ≤ b))
        ((aliasGroups left).get? group) ((aliasGroups right).get? group) := by
  have members : membersOf whole group =
      (membersOf left group).merge (membersOf right group) (fun a b => a ≤ b) := by
    apply eq_merge_of_perm id _ (membersOf_increasing group leftIncreasing)
      (membersOf_increasing group rightIncreasing) (membersOf_increasing group wholeIncreasing)
    have parts := (perm.filter fun kind => group ∈ kind.aliases).map (·.name)
    rwa [List.filter_append, List.map_append] at parts
  have present : group ∈ whole.flatMap (·.aliases) ↔
      group ∈ left.flatMap (·.aliases) ∨ group ∈ right.flatMap (·.aliases) := by
    rw [← List.mem_append, ← List.flatMap_append]
    exact (perm.flatMap_right _).mem_iff
  simp only [get?_aliasGroups leftIncreasing, get?_aliasGroups rightIncreasing,
    get?_aliasGroups wholeIncreasing, present, members]
  by_cases inLeft : group ∈ left.flatMap (·.aliases)
  · by_cases inRight : group ∈ right.flatMap (·.aliases)
    · simp only [inLeft, inRight, or_true, if_true, Option.merge]
    · simp only [inLeft, inRight, true_or, if_true, if_false, Option.merge,
        membersOf_eq_nil inRight, List.merge_right]
  · by_cases inRight : group ∈ right.flatMap (·.aliases)
    · simp only [inLeft, inRight, or_true, if_true, if_false, Option.merge,
        membersOf_eq_nil inLeft, List.nil_merge]
    · simp only [inLeft, inRight, or_self, if_false, Option.merge]

/-! ## Registries -/

namespace Registry

variable {left right whole : Registry} {config : Config}

/-- The warnings of a build that succeeds: those of each kind. -/
theorem warningBlocks_of_sound {kinds : List (String × KindDefinition)}
    (sound : firstFault? config kinds = none) :
    warningBlocks config kinds =
      kinds.map fun entry => (entry.1, entry.2.warnings config entry.1) := by
  induction kinds with
  | nil => rfl
  | cons entry rest ih =>
      rw [firstFault?_cons config entry.1 entry.2, Option.or_eq_none_iff] at sound
      have later := ih sound.2
      rw [warningBlocks] at later ⊢
      rw [examined, sound.1, List.map_cons, later, List.map_cons,
        KindDefinition.givenWarnings_of_sound sound.1]

/-- What a union of registries without common kinds holds. -/
theorem entries_of_union (disjoint : ∀ name ∈ left.kinds.keys, name ∉ right.kinds.keys)
    (union : ∀ name, whole.kinds.get? name =
      (left.kinds.get? name).or (right.kinds.get? name)) :
    whole.kinds.entries.Perm (left.kinds.entries ++ right.kinds.entries) := by
  have leftNodup : left.kinds.entries.Nodup := left.kinds.keys_nodup.of_map
  have rightNodup : right.kinds.entries.Nodup := right.kinds.keys_nodup.of_map
  have wholeNodup : whole.kinds.entries.Nodup := whole.kinds.keys_nodup.of_map
  have apart : (left.kinds.entries ++ right.kinds.entries).Nodup := by
    refine List.nodup_append.2 ⟨leftNodup, rightNodup, ?_⟩
    intro entry inLeft other inRight equal
    exact disjoint entry.1 (List.mem_map_of_mem inLeft) (List.mem_map_of_mem (equal ▸ inRight))
  apply (List.perm_ext_iff_of_nodup wholeNodup apart).2
  intro ⟨name, definition⟩
  rw [List.mem_append, ← OrderedMap.get?_eq_some_iff, ← OrderedMap.get?_eq_some_iff,
    ← OrderedMap.get?_eq_some_iff, union, Option.or_eq_some_iff]
  constructor
  · intro given
    rcases given with inLeft | ⟨-, inRight⟩
    · exact .inl inLeft
    · exact .inr inRight
  · intro given
    rcases given with inLeft | inRight
    · exact .inl inLeft
    · refine .inr ⟨OrderedMap.get?_eq_none_iff.2 ?_, inRight⟩
      intro member
      exact disjoint name member
        (OrderedMap.mem_keys_of_mem (OrderedMap.get?_eq_some_iff.1 inRight))

/-- Some kinds are without fault if two parts of them are. -/
theorem firstFault?_of_perm (config : Config) {kinds first second : List (String × KindDefinition)}
    (perm : kinds.Perm (first ++ second)) :
    firstFault? config kinds = none ↔
      firstFault? config first = none ∧ firstFault? config second = none := by
  simp only [firstFault?, List.findSome?_eq_none_iff, perm.mem_iff, List.mem_append, or_imp,
    forall_and]

/-- The warnings of the whole are those of the parts, merged by the names of the kinds. -/
theorem warningBlocks_merge {kinds first second : List (String × KindDefinition)}
    (perm : kinds.Perm (first ++ second))
    (sound : firstFault? config kinds = none)
    (firstIncreasing : first.Pairwise (fun a b => a.1 < b.1))
    (secondIncreasing : second.Pairwise (fun a b => a.1 < b.1))
    (increasing : kinds.Pairwise (fun a b => a.1 < b.1)) :
    warningBlocks config kinds =
      (warningBlocks config first).merge (warningBlocks config second)
        (fun a b => a.1 ≤ b.1) := by
  rcases (firstFault?_of_perm config perm).1 sound with ⟨firstSound, secondSound⟩
  rw [warningBlocks_of_sound sound, warningBlocks_of_sound firstSound,
    warningBlocks_of_sound secondSound]
  apply eq_merge_of_perm (fun block : String × List Warning => block.1)
  · rw [← List.map_append]
    exact perm.map _
  · exact List.pairwise_map.2 firstIncreasing
  · exact List.pairwise_map.2 secondIncreasing
  · exact List.pairwise_map.2 increasing

/-- The blocks of a build that succeeds stand for its kinds, and every warning names a
field of the kind of its block. -/
theorem warningBlocks_names {registry : Registry}
    (sound : firstFault? config registry.sorted = none) :
    (warningBlocks config registry.sorted).map (·.1) = registry.sortedNames ∧
      ∀ block ∈ warningBlocks config registry.sorted, ∀ warning ∈ block.2,
        ∃ field, warning.field = block.1 ++ "." ++ field := by
  constructor
  · rw [warningBlocks_of_sound sound, List.map_map]
    rfl
  · intro block member warning given
    rcases List.mem_map.1 member with ⟨entry, -, rfl⟩
    rcases KindDefinition.field_of_mem_givenWarnings given with ⟨field, -, equal⟩
    exact ⟨field, equal⟩

/-- Building is compositional.  The union of two registries without common kinds has a
model exactly if both have one; then its kinds are those of both, as they are and in
order of names, each of its groups has the members of both, and its warnings are those
of both builds, kind by kind in order of names. -/
theorem build_union (config : Config)
    (disjoint : ∀ name ∈ left.kinds.keys, name ∉ right.kinds.keys)
    (union : ∀ name, whole.kinds.get? name =
      (left.kinds.get? name).or (right.kinds.get? name)) :
    ((∃ model, (whole.build config).outcome = .ok model) ↔
      (∃ model, (left.build config).outcome = .ok model) ∧
        ∃ model, (right.build config).outcome = .ok model) ∧
    ∀ leftModel rightModel,
      (left.build config).outcome = .ok leftModel →
      (right.build config).outcome = .ok rightModel →
      (∃ model, (whole.build config).outcome = .ok model ∧
        model.kinds.Pairwise (fun a b => a.name < b.name) ∧
        model.kinds = leftModel.kinds.merge rightModel.kinds (fun a b => a.name ≤ b.name) ∧
        ∀ group, model.groups.get? group =
          Option.merge (fun l r => l.merge r (fun a b => a ≤ b))
            (leftModel.groups.get? group) (rightModel.groups.get? group)) ∧
      ∃ leftBlocks rightBlocks : List (String × List Warning),
        leftBlocks.map (·.1) = left.sortedNames ∧ rightBlocks.map (·.1) = right.sortedNames ∧
        (∀ block ∈ leftBlocks ++ rightBlocks, ∀ warning ∈ block.2,
          ∃ field, warning.field = block.1 ++ "." ++ field) ∧
        (left.build config).warnings = leftBlocks.flatMap (·.2) ∧
        (right.build config).warnings = rightBlocks.flatMap (·.2) ∧
        (whole.build config).warnings =
          (leftBlocks.merge rightBlocks (fun a b => a.1 ≤ b.1)).flatMap (·.2) := by
  have perm : whole.sorted.Perm (left.sorted ++ right.sorted) :=
    whole.sorted_perm.trans ((entries_of_union disjoint union).trans
      (left.sorted_perm.append right.sorted_perm).symm)
  have parts := firstFault?_of_perm config perm
  constructor
  · simp only [build_eq_ok_iff, exists_and_left, exists_eq, and_true]
    exact parts
  · intro leftModel rightModel leftBuilt rightBuilt
    rcases build_eq_ok_iff.1 leftBuilt with ⟨leftSound, rfl⟩
    rcases build_eq_ok_iff.1 rightBuilt with ⟨rightSound, rfl⟩
    have sound := parts.2 ⟨leftSound, rightSound⟩
    have kindsPerm : (whole.resolved config).kinds.Perm
        ((left.resolved config).kinds ++ (right.resolved config).kinds) := by
      have mapped := perm.map fun entry => entry.2.resolved config entry.1
      rwa [List.map_append] at mapped
    constructor
    · refine ⟨whole.resolved config, build_eq_ok_iff.2 ⟨sound, rfl⟩,
        whole.resolved_increasing config, ?_, ?_⟩
      · exact eq_merge_of_perm Kind.name kindsPerm (left.resolved_increasing config)
          (right.resolved_increasing config) (whole.resolved_increasing config)
      · exact get?_aliasGroups_merge kindsPerm (left.resolved_increasing config)
          (right.resolved_increasing config) (whole.resolved_increasing config)
    · rcases warningBlocks_names leftSound with ⟨leftNames, leftFields⟩
      rcases warningBlocks_names rightSound with ⟨rightNames, rightFields⟩
      refine ⟨warningBlocks config left.sorted, warningBlocks config right.sorted, leftNames,
        rightNames, ?_, ?_, ?_, ?_⟩
      · intro block member
        rcases List.mem_append.1 member with inLeft | inRight
        · exact leftFields block inLeft
        · exact rightFields block inRight
      · rw [build_eq]
      · rw [build_eq]
      · rw [build_eq, warningBlocks_merge perm sound left.sorted_increasing
          right.sorted_increasing whole.sorted_increasing]

/-- Two kinds that share a group, each of which also has a group of its own. -/
theorem build_union_of_two :
    let first : KindDefinition := { aliases := ["Inner", "Shared"] }
    let second : KindDefinition :=
      { fields := { entries := [("body", { validator := some (.unrecognized .null) })] }
        aliases := ["Shared", "Outer"] }
    let left : Registry := { kinds := { entries := [("Loop", second)] } }
    let right : Registry := { kinds := { entries := [("Leaf", first)] } }
    let whole : Registry := { kinds := { entries := [("Loop", second), ("Leaf", first)] } }
    (∀ name ∈ left.kinds.keys, name ∉ right.kinds.keys) ∧
      (∀ name, whole.kinds.get? name =
        (left.kinds.get? name).or (right.kinds.get? name)) ∧
      ∃ model, (whole.build {}).outcome = .ok model ∧
        model.groups.get? "Shared" = some ["Leaf", "Loop"] := by
  intro first second left right whole
  have disjoint : ∀ name ∈ left.kinds.keys, name ∉ right.kinds.keys := by decide
  have union : ∀ name, whole.kinds.get? name =
      (left.kinds.get? name).or (right.kinds.get? name) := by
    intro name
    simp only [OrderedMap.get?, left, right, whole, lookup_cons_eq_ite, List.lookup_nil]
    by_cases same : name = "Loop"
    · simp [same]
    · simp [same]
  refine ⟨disjoint, union, ?_⟩
  rcases build_union {} disjoint union with ⟨-, built⟩
  have leftBuilt : (left.build {}).outcome = .ok (left.resolved {}) :=
    build_eq_ok_iff.2 ⟨by decide +kernel, rfl⟩
  have rightBuilt : (right.build {}).outcome = .ok (right.resolved {}) :=
    build_eq_ok_iff.2 ⟨by decide +kernel, rfl⟩
  rcases built _ _ leftBuilt rightBuilt with ⟨⟨model, wholeBuilt, -, -, groups⟩, -⟩
  have leftGroup : (left.resolved {}).groups.get? "Shared" = some ["Loop"] := by
    decide +kernel
  have rightGroup : (right.resolved {}).groups.get? "Shared" = some ["Leaf"] := by
    decide +kernel
  refine ⟨model, wholeBuilt, ?_⟩
  rw [groups, leftGroup, rightGroup, Option.merge, List.merge,
    if_neg (by decide +kernel), List.merge_right]

end Registry

end NodeDecl
