import NodeDecl.Proofs.Artifact.Closure
import NodeDecl.Proofs.Text.ScriptNames

/-!
# Dispatch to a switcher

A dispatcher of the wrapper finds the method of a switcher by the type of a node, and the
stub declares a switcher with a method for each member of a group.  The script of the wrapper
makes the name of the method itself, from the first code unit of the type, and the names in
the stub are made from the first character.  For kinds the two agree, as they begin with an
ASCII character.  Two members of a group share a method only if they differ in case.
-/

namespace NodeDecl

/-- The lines of the dispatcher that all dispatchers share. -/
def Wrapper.sharedLines : List String :=
  ["  _switch(node, switcher) \x7b",
    "    const type = " ++ Script.sumText Script.methodName ++ ";",
    "    return switcher[type](node);",
    "  \x7d"]

/-- The lines of the dispatcher of a group. -/
def Wrapper.dispatcherLines (group : String) : List String :=
  ["  switch" ++ group ++ "(node, switcher) \x7b",
    "    return this._switch(node, switcher);",
    "  \x7d"]

/-- The lines of the wrapper from the shared dispatcher to the end. -/
def Wrapper.dispatchLines (groups : List String) (engine : String) : List String :=
  sharedLines ++ groups.flatMap dispatcherLines ++ ["\x7d", "", "export default " ++ engine ++ ";"]

/-- The lines of the switcher of a group, with a method for each of its members. -/
def Stub.switcherLines (suffix : String) (group : String × List String) : List String :=
  ("declare interface " ++ group.1 ++ "Switcher<T> \x7b") ::
    (group.2.map fun kind =>
      "  " ++ Text.lowerFirst kind ++ "(node: " ++ kind ++ suffix ++ "): T;") ++
    ["\x7d", ""]

theorem Wrapper.lines_dispatcher (group : String) :
    Layout.lines 1 (dispatcher group) = dispatcherLines group := by
  have opening : Layout.setIn 1 ("switch" ++ group ++ "(node, switcher) \x7b") =
      "  switch" ++ group ++ "(node, switcher) \x7b" := by
    rw [Catalogue.setIn_one (by simp), ← String.append_assoc, ← String.append_assoc]
    rfl
  rw [dispatcher, Layout.lines, opening]
  rfl

/-- The shared dispatcher and the dispatchers of the groups are the last methods of the
wrapper. -/
theorem Wrapper.render_with_dispatchers (model : Model) (config : Config) :
    ∃ front, render model config =
      front ++ Text.ended (dispatchLines model.groups.keys config.engineClass) := by
  let opening : String := "class " ++ config.engineClass ++ " \x7b"
  obtain ⟨front, whole⟩ : ∃ front, classLayout model config =
      .block opening "\x7d" (front ++ ([sharedDispatcher] ++ model.groups.keys.map dispatcher)) :=
    ⟨_, congrArg (Layout.block _ _) (List.append_assoc ..)⟩
  have shared : Layout.allLines 1 [sharedDispatcher] = sharedLines := by
    decide +kernel
  have dispatchers : Layout.allLines 1 (model.groups.keys.map dispatcher) =
      model.groups.keys.flatMap dispatcherLines := by
    rw [Layout.allLines_eq_flatMap, List.flatMap_map]
    exact List.flatMap_congr fun group _ => lines_dispatcher group
  refine ⟨Text.ended ([generatedBy, "", opening] ++ Layout.allLines 1 front), ?_⟩
  rw [render, layout, whole, Layout.render_eq, ← Text.ended_append, dispatchLines, ← shared,
    ← dispatchers]
  simp [Layout.allLines, Layout.lines, Layout.allLines_append, Layout.setIn_zero]

theorem Stub.lines_switcher (suffix : String) (group : String × List String) :
    Layout.lines 0 (switcherLayout suffix group) ++ [""] = switcherLines suffix group := by
  have members : group.2.map (memberLine suffix) = group.2.map fun kind =>
      "  " ++ Text.lowerFirst kind ++ "(node: " ++ kind ++ suffix ++ "): T;" := by
    apply List.map_congr_left
    intro kind _
    rw [memberLine, Catalogue.setIn_one (by simp)]
    simp only [String.append_assoc]
  rw [lines_switcherLayout, members, switcherLines, switcherName]
  simp [String.append_assoc]

/-- The switchers are the first part of the stub. -/
theorem Stub.render_with_switchers (model : Model) (config : Config) :
    render model config =
      Text.ended (["// @flow", generatedBy, ""] ++
        model.groups.entries.flatMap (switcherLines config.nodeSuffix)) ++
      Layout.render [classLayout model config, .blank,
        .line ("export default " ++ config.engineClass ++ ";")] := by
  rw [render, layout, Layout.render_append, Layout.render_eq, Layout.allLines_append,
    Layout.allLines_spaced]
  simp only [lines_switcher]
  rfl

namespace Registry

variable {registry : Registry} {config : Config} {model : Model}

/-- Dispatch finds the method that is declared.  The wrapper ends with its dispatchers, so no
later method of the class takes the place of one, and the stub begins with the switchers.
For a node whose type is a member of a group, the name that the shared dispatcher computes is
the one on the line of that member; and two members have one name exactly if they differ in
the case of the letter at their start. -/
theorem build_dispatch (built : (registry.build config).outcome = .ok model) :
    (∃ front, Wrapper.render model config =
      front ++ Text.ended (Wrapper.dispatchLines model.groups.keys config.engineClass)) ∧
    Stub.render model config =
      Text.ended (["// @flow", generatedBy, ""] ++
        model.groups.entries.flatMap (Stub.switcherLines config.nodeSuffix)) ++
      Layout.render [Stub.classLayout model config, .blank,
        .line ("export default " ++ config.engineClass ++ ";")] ∧
    ∀ group ∈ model.groups.entries, ∀ kind ∈ group.2,
      Script.sumValue (Script.codeUnitsOf kind.toList) Script.methodName =
          some (Script.codeUnitsOf (Text.lowerFirst kind).toList) ∧
        ∀ other ∈ group.2, kind ≠ other →
          (Text.lowerFirst kind = Text.lowerFirst other ↔ Text.DifferInCase kind other) := by
  refine ⟨Wrapper.render_with_dispatchers model config, Stub.render_with_switchers model config, ?_⟩
  intro group inGroups kind member
  have identifiers : ∀ name ∈ group.2, isIdentifier name = true := fun name inGroup =>
    (named built).kind ((named built).isKind group inGroups name inGroup)
  have identifier := identifiers kind member
  constructor
  · obtain ⟨c, rest, chars, start, -⟩ := Text.toList_lowerFirst identifier
    have ascii : c.toNat < 128 := Text.ascii_of_isIdentifierStart start
    exact Script.sumValue_methodName chars (Nat.lt_trans ascii (by decide))
  · intro other inGroup different
    exact Text.lowerFirst_eq_iff identifier (identifiers other inGroup) different

/-- Three members of a group, two of which share a method. -/
theorem build_dispatch_of_three :
    let registry : Registry :=
      { kinds := { entries := [("leaf", {}), ("Leaf", {}), ("_Leaf", {})] } }
    let config : Config := { engineClass := "Types", nodeSuffix := "Node", universalAlias := "Any" }
    ∃ model, (registry.build config).outcome = .ok model ∧
      (∃ front, Wrapper.render model config =
        front ++ Text.ended (Wrapper.dispatchLines ["Any"] "Types")) ∧
      (∃ back, Stub.render model config =
        Text.ended ["// @flow", "// generated by nodegen", "",
          "declare interface AnySwitcher<T> \x7b",
          "  leaf(node: LeafNode): T;",
          "  _Leaf(node: _LeafNode): T;",
          "  leaf(node: leafNode): T;",
          "\x7d", ""] ++ back) ∧
      (∀ kind ∈ ["Leaf", "_Leaf", "leaf"],
        Script.sumValue (Script.codeUnitsOf kind.toList) Script.methodName =
          some (Script.codeUnitsOf (Text.lowerFirst kind).toList)) ∧
      Text.DifferInCase "Leaf" "leaf" ∧ ¬ Text.DifferInCase "Leaf" "_Leaf" := by
  intro registry config
  have sorted : registry.sorted = [("Leaf", {}), ("_Leaf", {}), ("leaf", {})] :=
    sorted_eq (by decide) (by decide +kernel)
  have built : (registry.build config).outcome = .ok (registry.resolved config) :=
    build_eq_ok_iff.2 ⟨by rw [sorted]; decide +kernel, rfl⟩
  have groups : (registry.resolved config).groups.entries =
      [("Any", ["Leaf", "_Leaf", "leaf"])] := by
    rw [resolved, sorted]
    decide +kernel
  obtain ⟨wrapper, stub, methods⟩ := build_dispatch built
  have keys : (registry.resolved config).groups.keys = ["Any"] := by
    rw [SortedMap.keys, groups]
    rfl
  rw [keys] at wrapper
  rw [groups] at stub methods
  have members := methods _ (List.mem_singleton_self _)
  refine ⟨_, built, wrapper, ⟨_, stub⟩, fun kind member => (members kind member).1, ?_, ?_⟩
  · exact ((members "Leaf" (by decide)).2 "leaf" (by decide) (by decide)).1 (by decide +kernel)
  · intro differ
    have same := ((members "Leaf" (by decide)).2 "_Leaf" (by decide) (by decide)).2 differ
    exact absurd same (by decide +kernel)

end Registry

end NodeDecl
