import NodeDecl.Proofs.Artifact.Methods.Stub
import NodeDecl.Proofs.Artifact.Methods.Wrapper

/-!
# The methods of stub and wrapper

The stub declares a class whose methods the wrapper defines.  Both texts are read back
method by method: the wrapper has the methods of the stub, in the same order, and besides
them only the dispatcher that the others share.  What a method of the wrapper calls on its
own object is a method of the wrapper.
-/

namespace NodeDecl

open Text (OneLine)

namespace Registry

variable {registry : Registry} {config : Config} {model : Model}

/-- A parameter is on one line if its field and its type are. -/
theorem oneLine_parameterText (built : (registry.build config).outcome = .ok model) {kind : Kind}
    (inKinds : kind ∈ model.kinds) {parameter : Parameter} (inBuilder : parameter ∈ kind.builder)
    (field : OneLine parameter.field) (rendered : OneLine parameter.rendered) :
    OneLine (Stub.parameterText parameter) := by
  have name : OneLine parameter.name := by
    rw [parameter_name built inKinds inBuilder, KindDefinition.parameterName]
    split
    · exact Text.oneLine_append.2 ⟨by decide, field⟩
    · exact field
  have mark : OneLine (Catalogue.optionalMark parameter.optional) := by
    cases parameter.optional <;> decide
  simp only [Stub.parameterText, Text.oneLine_append, name, mark, rendered]
  decide

/-- The methods that are read off the stub and off the wrapper: the same ones in the same
order, but for the dispatcher that the others share, which stands right behind the
conversions of the wrapper.  The wrapper calls no method on itself that it does not
define. -/
theorem build_interface (built : (registry.build config).outcome = .ok model)
    (engine : OneLine config.engineClass) (universal : OneLine config.universalAlias)
    (suffix : OneLine config.nodeSuffix)
    (parameters : ∀ kind ∈ model.kinds, ∀ parameter ∈ kind.builder,
      OneLine parameter.field ∧ OneLine parameter.rendered) :
    let stub := Text.methods (Stub.render model config)
    let wrapper := Text.methods (Wrapper.render model config)
    let front := "constructor" :: model.kinds.map (fun kind => Text.lowerFirst kind.name) ++
      model.typeNames.map ("is" ++ ·) ++ model.typeNames.map ("assert" ++ ·) ++
      model.typeNames.map ("as" ++ ·)
    let back := model.groups.keys.map ("switch" ++ ·)
    stub.map (·.name) = front ++ back ∧
      wrapper.map (·.name) = front ++ "_switch" :: back ∧
      (model.kinds.map (·.name)).Pairwise (· < ·) ∧ model.typeNames.Pairwise (· < ·) ∧
      model.groups.keys.Pairwise (· < ·) ∧
      wrapper.flatMap (fun method => method.calls.map (method.name, ·)) =
        model.typeNames.map (fun name => ("as" ++ name, "is" ++ name)) ++
          model.groups.keys.map (fun group => ("switch" ++ group, "_switch")) ∧
      ∀ method ∈ wrapper, ∀ called ∈ method.calls, called ∈ wrapper.map (·.name) := by
  have stub := Stub.names_methods_render (named built) engine universal suffix
    (fun kind inKinds parameter inBuilder =>
      oneLine_parameterText built inKinds inBuilder (parameters kind inKinds parameter inBuilder).1
        (parameters kind inKinds parameter inBuilder).2)
  have wrapper := Wrapper.methods_render (named built) engine
  intro stubMethods wrapperMethods front back
  rw [show wrapperMethods = Wrapper.interface model from wrapper]
  refine ⟨stub.trans (Stub.names_signatures model config), Wrapper.names_interface model,
    List.pairwise_map.2 (build_increasing built), model.typeNames_increasing,
    model.groups.keys_sorted, Wrapper.calls_interface model, ?_⟩
  intro method member called isCalled
  exact Wrapper.called_mem_interface member isCalled

/-- Two kinds, one of them with an alias and with a parameter that is a keyword. -/
theorem build_interface_of_two :
    let registry : Registry := { kinds := { entries :=
      [("Leaf", {}),
        ("Branch", { builder := ["static"], fields := { entries := [("static", {})] }
                     aliases := ["Tree"] })] } }
    let config : Config := { engineClass := "Types", universalAlias := "Any" }
    ∃ model, (registry.build config).outcome = .ok model ∧
      (Text.methods (Stub.render model config)).map (·.name) =
        ["constructor", "branch", "leaf", "isAny", "isBranch", "isLeaf", "isTree", "assertAny",
          "assertBranch", "assertLeaf", "assertTree", "asAny", "asBranch", "asLeaf", "asTree",
          "switchAny", "switchTree"] ∧
      (Text.methods (Wrapper.render model config)).map (·.name) =
        ["constructor", "branch", "leaf", "isAny", "isBranch", "isLeaf", "isTree", "assertAny",
          "assertBranch", "assertLeaf", "assertTree", "asAny", "asBranch", "asLeaf", "asTree",
          "_switch", "switchAny", "switchTree"] := by
  intro registry config
  have sorted : registry.sorted =
      [("Branch",
        { builder := ["static"], fields := { entries := [("static", {})] }, aliases := ["Tree"] }),
        ("Leaf", {})] :=
    sorted_eq (List.reverse_perm registry.kinds.entries) (by decide +kernel)
  have built : (registry.build config).outcome = .ok (registry.resolved config) :=
    build_eq_ok_iff.2 ⟨by rw [sorted]; decide +kernel, rfl⟩
  have names : (registry.resolved config).typeNames = ["Any", "Branch", "Leaf", "Tree"] ∧
      (registry.resolved config).groups.keys = ["Any", "Tree"] ∧
      (registry.resolved config).kinds.map (fun kind => Text.lowerFirst kind.name) =
        ["branch", "leaf"] := by
    rw [resolved, sorted]
    decide +kernel
  have parameters : ∀ kind ∈ (registry.resolved config).kinds, ∀ parameter ∈ kind.builder,
      OneLine parameter.field ∧ OneLine parameter.rendered := by
    rw [resolved, sorted]
    decide +kernel
  have both := build_interface built (by decide) (by decide) (by decide) parameters
  rw [names.1, names.2.1, names.2.2] at both
  exact ⟨_, built, both.1, both.2.1⟩

end Registry

end NodeDecl
