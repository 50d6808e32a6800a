import NodeDecl.Artifact
import NodeDecl.Proofs.Artifact.Generation
import NodeDecl.Proofs.Artifact.Methods
import NodeDecl.Proofs.Artifact.Signatures

/-!
# The methods of the stub

The class that the stub declares consists of signatures, each of them a line that begins
with the name of its method.  In front of it stand the interfaces of the groups, which are
no classes.
-/

namespace NodeDecl

open Layout (Plain AllPlain)
open Text (OneLine calls)

namespace Stub

/-- The names of the methods of the stub and their signatures. -/
def signatures (model : Model) (config : Config) : List (String × String) :=
  let suffix := config.nodeSuffix
  let universal := config.universalAlias ++ suffix
  [("constructor", "constructor(t: Object): " ++ config.engineClass ++ ";")] ++
    model.kinds.map (fun kind => (Text.lowerFirst kind.name, builderSignature suffix kind)) ++
    model.typeNames.map (fun name => ("is" ++ name, testSignature universal name)) ++
    model.typeNames.map (fun name => ("assert" ++ name, assertionSignature suffix name)) ++
    model.typeNames.map (fun name => ("as" ++ name, conversionSignature suffix universal name)) ++
    model.groups.keys.map fun group => ("switch" ++ group, dispatcherSignature suffix group)

theorem names_signatures (model : Model) (config : Config) :
    (signatures model config).map (·.1) =
      ("constructor" :: model.kinds.map (fun kind => Text.lowerFirst kind.name) ++
        model.typeNames.map ("is" ++ ·) ++ model.typeNames.map ("assert" ++ ·) ++
        model.typeNames.map ("as" ++ ·)) ++ model.groups.keys.map ("switch" ++ ·) := by
  simp [signatures, Function.comp_def]

/-- What the class says behind its constructor. -/
def declaredSignatures (model : Model) (config : Config) : List Signature :=
  let universal := config.universalAlias
  model.kinds.map
      (fun kind => .builder kind.name (", ".intercalate (kind.builder.map parameterText))) ++
    model.typeNames.map (fun name => .test name universal) ++
    model.typeNames.map (fun name => .assertion name name) ++
    model.typeNames.map (fun name => .conversion name universal name) ++
    model.groups.keys.map fun group => .dispatcher group group (switcherName group)

variable {model : Model} {config : Config}

theorem signatures_eq (model : Model) (config : Config) :
    signatures model config =
      ("constructor", "constructor(t: Object): " ++ config.engineClass ++ ";") ::
        (declaredSignatures model config).map fun signature =>
          (signature.method, signature.text config.nodeSuffix) := by
  simp only [signatures, declaredSignatures, List.map_append, List.map_map, Function.comp_def,
    Signature.method, Signature.text, Signature.rest, builderSignature, testSignature,
    assertionSignature, conversionSignature, dispatcherSignature, String.append_assoc,
    List.cons_append, List.nil_append]

theorem classLayout_eq (model : Model) (config : Config) :
    classLayout model config = .block ("declare class " ++ config.engineClass ++ " \x7b") "\x7d"
      ((signatures model config).map fun signature => .line signature.2) := by
  simp only [classLayout, signatures, List.map_append, List.map_map]
  rfl

/-- A signature begins with the name of its method and a bracket. -/
theorem begins_signatures (model : Model) (config : Config) :
    ∀ signature ∈ signatures model config, ∃ bracket ∈ ['(', '<'], ∃ rest,
      signature.2.toList = signature.1.toList ++ bracket :: rest := by
  rw [signatures_eq, List.forall_mem_cons, List.forall_mem_map]
  constructor
  · exact ⟨'(', by simp, _, by simp only [String.toList_append, List.append_assoc]; rfl⟩
  · intro signature _
    obtain ⟨bracket, opens, inner, begins⟩ := signature.rest_begins config.nodeSuffix
    exact ⟨bracket, opens, inner, by rw [Signature.text, String.toList_append, begins]⟩

theorem isIdentifier_signatures (named : model.Named) :
    ∀ signature ∈ signatures model config, isIdentifier signature.1 = true := by
  have prefixed : ∀ front : String, isIdentifier front = true → ∀ name ∈ model.typeNames,
      isIdentifier (front ++ name) = true := fun front first name member =>
    isIdentifier_append first (named.isIdentifier name member)
  simp only [signatures, List.forall_mem_append, List.forall_mem_map, List.forall_mem_singleton,
    and_assoc]
  exact ⟨by decide, fun kind member => named.builder (List.mem_map_of_mem member),
    prefixed "is" (by decide), prefixed "assert" (by decide), prefixed "as" (by decide),
    fun group member => prefixed "switch" (by decide) group (Model.mem_typeNames.2 (.inr member))⟩

/-- No signature has a line feed in it. -/
theorem oneLine_signatures (named : model.Named) (engine : OneLine config.engineClass)
    (universal : ∀ name ∈ model.typeNames, OneLine config.universalAlias)
    (suffix : OneLine config.nodeSuffix)
    (parameters : ∀ kind ∈ model.kinds, ∀ parameter ∈ kind.builder,
      OneLine (parameterText parameter)) :
    ∀ signature ∈ signatures model config, OneLine signature.2 := by
  have arguments : ∀ kind ∈ model.kinds,
      OneLine (", ".intercalate (kind.builder.map parameterText)) := by
    intro kind member
    apply Text.oneLine_intercalate (by decide)
    rw [List.forall_mem_map]
    exact parameters kind member
  have names : ∀ name ∈ model.typeNames, OneLine name := fun name member =>
    Text.oneLine_of_isIdentifier (named.isIdentifier name member)
  have kinds : ∀ kind ∈ model.kinds, OneLine kind.name := fun kind member =>
    Text.oneLine_of_isIdentifier (named.kind (List.mem_map_of_mem member))
  have builders : ∀ kind ∈ model.kinds, OneLine (Text.lowerFirst kind.name) := fun kind member =>
    Text.oneLine_of_isIdentifier (named.builder (List.mem_map_of_mem member))
  have groups : ∀ group ∈ model.groups.keys, OneLine group := fun group member =>
    Text.oneLine_of_isIdentifier (named.group member)
  simp only [signatures, List.forall_mem_append, List.forall_mem_map, List.forall_mem_singleton,
    and_assoc]
  refine ⟨?_, fun kind member => ?_, fun name member => ?_, fun name member => ?_,
    fun name member => ?_, fun group member => ?_⟩
  · simp only [Text.oneLine_append, engine]
    decide
  · simp only [builderSignature, Text.oneLine_append, suffix, builders kind member,
      arguments kind member, kinds kind member]
    decide
  · simp only [testSignature, Text.oneLine_append, suffix, universal name member, names name member]
    decide
  · simp only [assertionSignature, Text.oneLine_append, suffix, names name member]
    decide
  · simp only [conversionSignature, Text.oneLine_append, suffix, universal name member,
      names name member]
    decide
  · simp only [dispatcherSignature, switcherName, Text.oneLine_append, suffix,
      groups group member]
    decide

/-- What stands in front of the class. -/
def switchers (model : Model) (config : Config) : List Layout :=
  [.line "// @flow", .line generatedBy, .blank] ++
    model.groups.entries.flatMap fun group => [switcherLayout config.nodeSuffix group, .blank]

/-- No class is opened in front of the class. -/
theorem opensClass_switchers (model : Model) (config : Config) :
    ∀ line ∈ Layout.allLines 0 (switchers model config), Text.opensClass line = false := by
  have switcher : ∀ group, ∀ line ∈ Layout.lines 0 (switcherLayout config.nodeSuffix group),
      Text.opensClass line = false := by
    intro group
    rw [switcherLayout, Layout.lines, List.forall_mem_cons, List.forall_mem_append,
      List.forall_mem_singleton]
    refine ⟨?_, fun line member => ?_, by decide +kernel⟩
    · rw [Layout.setIn_zero, Text.opensClass, String.toList_append, String.toList_append,
        List.append_assoc]
      rfl
    · exact Text.opensClass_of_inner (Layout.inner_of_mem_allLines line member)
  rw [switchers, Layout.allLines_append, List.forall_mem_append, Layout.allLines_spaced]
  refine ⟨by decide +kernel, ?_⟩
  intro line member
  rcases List.mem_flatMap.1 member with ⟨group, -, inGroup⟩
  rcases List.mem_append.1 inGroup with inSwitcher | blank
  · exact switcher group line inSwitcher
  · rw [List.mem_singleton.1 blank]
    decide +kernel

theorem plain_switcherLayout (named : model.Named) (suffix : OneLine config.nodeSuffix)
    {group : String × List String} (inGroups : group ∈ model.groups.entries) :
    Plain (switcherLayout config.nodeSuffix group) := by
  have name : OneLine group.1 :=
    Text.oneLine_of_isIdentifier (named.group (List.mem_map_of_mem inGroups))
  refine ⟨?_, by decide, Layout.allPlain_map fun member inMembers => ?_⟩
  · simp only [switcherName, Text.oneLine_append, name]
    decide
  · have isKind := named.isKind group inGroups member inMembers
    simp only [Plain, Text.oneLine_append, suffix, Text.oneLine_of_isIdentifier (named.kind isKind),
      Text.oneLine_of_isIdentifier (named.builder isKind)]
    decide

theorem allPlain_switchers (named : model.Named) (suffix : OneLine config.nodeSuffix) :
    AllPlain (switchers model config) := by
  have front : AllPlain [.line "// @flow", .line generatedBy, .blank] := by
    simp only [AllPlain, Plain]
    decide
  rw [switchers, Layout.allPlain_append]
  exact ⟨front, Layout.allPlain_spaced fun _ inGroups => plain_switcherLayout named suffix inGroups⟩

/-- The stub is a class with the switchers in front. -/
theorem layout_eq (model : Model) (config : Config) :
    layout model config = switchers model config ++
      .block ("declare class " ++ config.engineClass ++ " \x7b") "\x7d"
          ((signatures model config).map fun signature => .line signature.2) ::
        [.blank, .line ("export default " ++ config.engineClass ++ ";")] := by
  rw [← classLayout_eq]
  rfl

theorem allPlain_layout (named : model.Named) (engine : OneLine config.engineClass)
    (suffix : OneLine config.nodeSuffix)
    (texts : ∀ signature ∈ signatures model config, OneLine signature.2) :
    AllPlain (layout model config) := by
  have body : AllPlain ((signatures model config).map fun signature => .line signature.2) :=
    Layout.allPlain_map texts
  simp only [layout_eq, Layout.allPlain_append, AllPlain, Plain, Text.oneLine_append, engine, body,
    allPlain_switchers named suffix]
  decide

theorem opensClass_classLayout (config : Config) :
    Text.opensClass ("declare class " ++ config.engineClass ++ " \x7b") = true := by
  rw [Text.opensClass, String.toList_append, String.toList_append, List.append_assoc]
  rfl

/-- The methods of the stub are read off its text. -/
theorem names_methods_render (named : model.Named) (engine : OneLine config.engineClass)
    (universal : OneLine config.universalAlias) (suffix : OneLine config.nodeSuffix)
    (parameters : ∀ kind ∈ model.kinds, ∀ parameter ∈ kind.builder,
      OneLine (parameterText parameter)) :
    (Text.methods (render model config)).map (·.name) =
      (signatures model config).map (·.1) := by
  have plain := allPlain_layout named engine suffix
    (oneLine_signatures named engine (fun _ _ => universal) suffix parameters)
  have defines : ∀ signature ∈ signatures model config,
      Defines (.line signature.2) ⟨signature.1, calls signature.2.toList⟩ := by
    intro signature member
    rcases begins_signatures model config signature member with ⟨bracket, opening, rest, begins⟩
    exact defines_line (isIdentifier_signatures named signature member) opening begins
  rw [layout_eq] at plain
  rw [render, layout_eq, methods_of_class plain (opensClass_switchers model config)
    (opensClass_classLayout config) (defines_map defines), List.map_map]
  rfl

end Stub

end NodeDecl
