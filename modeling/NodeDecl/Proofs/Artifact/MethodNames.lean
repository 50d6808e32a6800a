import Mathlib.Data.List.Nodup
import NodeDecl.Proofs.Artifact.Generation
import NodeDecl.Proofs.Text.LowerCase

/-!
# The method names of the wrapper

The class of the wrapper has a constructor, a builder for each kind, a test, an
assertion and a conversion for each type name, and the dispatchers.  Their names are
read back from the class: each piece of its body begins with the name of a method and
a bracket.  Kinds and groups are checked one by one, so two methods may still have one
name.  This module says exactly when: builders may meet each other and all other
methods, and the conversion of one name may meet the assertion of another.
-/

namespace NodeDecl

/-- No identifier has a bracket in it. -/
theorem bracket_not_mem {name : String} (identifier : isIdentifier name = true) :
    '(' ∉ name.toList :=
  fun member => absurd (isIdentifierRest_of_mem identifier _ member) (by decide)

namespace Wrapper

/-! ## Reading methods -/

/-- The line that a piece of a layout begins with. -/
def heading : Layout → String
  | .line text => text
  | .blank => ""
  | .block opening _ _ => opening

/-- The name of the method that a piece of a class defines: what stands before its first
bracket. -/
def methodName (piece : Layout) : String :=
  String.ofList ((heading piece).toList.takeWhile (· ≠ '('))

/-- The names of the methods of a class, in order. -/
def methodNames : Layout → List String
  | .block _ _ body => body.map methodName
  | _ => []

/-- The names of the methods that are made from type names and groups, with the dispatcher
that the others share. -/
def derivedNames (model : Model) : List String :=
  model.typeNames.map ("is" ++ ·) ++ model.typeNames.map ("assert" ++ ·) ++
    model.typeNames.map ("as" ++ ·) ++ ["_switch"] ++ model.groups.keys.map ("switch" ++ ·)

/-- The names of the methods of the wrapper, family by family. -/
def familyNames (model : Model) : List String :=
  "constructor" :: model.kinds.map (fun kind => Text.lowerFirst kind.name) ++ derivedNames model

theorem methodName_eq {piece : Layout} {name : String} (parameters : String)
    (begins : heading piece = name ++ "(" ++ parameters) (plain : '(' ∉ name.toList) :
    methodName piece = name := by
  have allowed : ∀ c ∈ name.toList, decide (c ≠ '(') = true := by
    intro c member
    exact decide_eq_true fun equal => plain (equal ▸ member)
  have chars : (heading piece).toList = name.toList ++ '(' :: parameters.toList := by
    simp [begins]
  rw [methodName, chars, List.takeWhile_append_of_pos allowed,
    List.takeWhile_cons_of_neg (by simp), List.append_nil, String.ofList_toList]

theorem methodName_delegation {name : String} (plain : '(' ∉ name.toList) :
    methodName (delegation name) = name := by
  apply methodName_eq ("...args) \x7b return this._t." ++ name ++ "(...args); \x7d") _ plain
  rw [← String.toList_inj]
  simp [heading, delegation]

theorem methodName_conversion {name : String} (plain : '(' ∉ name.toList) :
    methodName (conversion name) = "as" ++ name := by
  apply methodName_eq "value, ...args) \x7b"
  · rw [← String.toList_inj]
    simp [heading, conversion]
  · simpa using plain

theorem methodName_dispatcher {group : String} (plain : '(' ∉ group.toList) :
    methodName (dispatcher group) = "switch" ++ group := by
  apply methodName_eq "node, switcher) \x7b"
  · rw [← String.toList_inj]
    simp [heading, dispatcher]
  · simpa using plain

/-- The pieces of a family are read one by one. -/
theorem map_methodName {α : Type} {values : List α} {piece : α → Layout} {name : α → String}
    (named : ∀ value ∈ values, methodName (piece value) = name value) :
    (values.map piece).map methodName = values.map name := by
  rw [List.map_map]
  exact List.map_congr_left named

/-- The class defines the methods of all families. -/
theorem methodNames_classLayout {model : Model} (config : Config)
    (identifiers : ∀ name ∈ model.typeNames, isIdentifier name = true) :
    methodNames (classLayout model config) = familyNames model := by
  have plain : ∀ name ∈ model.typeNames, '(' ∉ name.toList := fun name member =>
    bracket_not_mem (identifiers name member)
  have builders : ∀ kind ∈ model.kinds, methodName (delegation (Text.lowerFirst kind.name)) =
      Text.lowerFirst kind.name := by
    intro kind member
    have isName := Model.mem_typeNames.2 (.inl (List.mem_map_of_mem member))
    exact methodName_delegation
      (bracket_not_mem (Text.isIdentifier_lowerFirst (identifiers _ isName)))
  have tests : ∀ name ∈ model.typeNames, methodName (delegation ("is" ++ name)) = "is" ++ name :=
    fun name member => methodName_delegation (by simpa using plain name member)
  have assertions : ∀ name ∈ model.typeNames,
      methodName (delegation ("assert" ++ name)) = "assert" ++ name :=
    fun name member => methodName_delegation (by simpa using plain name member)
  have conversions : ∀ name ∈ model.typeNames, methodName (conversion name) = "as" ++ name :=
    fun name member => methodName_conversion (plain name member)
  have dispatchers : ∀ group ∈ model.groups.keys,
      methodName (dispatcher group) = "switch" ++ group :=
    fun group member => methodName_dispatcher (plain group (Model.mem_typeNames.2 (.inr member)))
  have fixed : methodName (.block "constructor(t) \x7b" "\x7d" [.line "this._t = t;"]) =
      "constructor" ∧ methodName sharedDispatcher = "_switch" := by
    decide +kernel
  rw [classLayout, methodNames, familyNames, derivedNames]
  simp only [List.map_append, map_methodName builders, map_methodName tests,
    map_methodName assertions, map_methodName conversions, map_methodName dispatchers, fixed,
    List.map_cons, List.append_assoc, List.cons_append, List.nil_append]

/-! ## Distinct methods -/

/-- Names for which no two methods of the wrapper have the same name. -/
structure NamesApart (model : Model) : Prop where
  /-- No two kinds differ only in the case of the first letter. -/
  builders : (model.kinds.map fun kind => Text.lowerFirst kind.name).Nodup
  /-- No builder is named as a method that every wrapper has. -/
  fixed : ∀ kind ∈ model.kinds, Text.lowerFirst kind.name ∉ ["constructor", "_switch"]
  /-- No builder is named as a test, an assertion or a conversion. -/
  queries : ∀ kind ∈ model.kinds, ∀ name ∈ model.typeNames,
    Text.lowerFirst kind.name ∉ ["is" ++ name, "assert" ++ name, "as" ++ name]
  /-- No builder is named as a dispatcher. -/
  dispatchers : ∀ kind ∈ model.kinds, ∀ group ∈ model.groups.keys,
    Text.lowerFirst kind.name ≠ "switch" ++ group
  /-- No conversion is named as an assertion. -/
  conversions : ∀ name ∈ model.typeNames, "sert" ++ name ∉ model.typeNames

/-- Texts that begin with a letter are none of those that do not. -/
theorem apart_of_initial {left right : List String} {c : Char}
    (begins : ∀ name ∈ left, name.toList.head? = some c)
    (others : ∀ name ∈ right, name.toList.head? ≠ some c) :
    ∀ a ∈ left, ∀ b ∈ right, a ≠ b := by
  rintro a inLeft b inRight rfl
  exact others a inRight (begins a inLeft)

/-- With a text put in front, a family of names begins with the first letter of that text. -/
theorem initial_of_mem_map (front : String) {c : Char} (first : front.toList.head? = some c)
    (names : List String) : ∀ name ∈ names.map (front ++ ·), name.toList.head? = some c := by
  intro name member
  rcases List.mem_map.1 member with ⟨rest, -, rfl⟩
  rw [String.toList_append, List.head?_append, first, Option.some_or]

/-- With a text put in front, distinct names stay distinct. -/
theorem nodup_map_append (front : String) {names : List String} (distinct : names.Nodup) :
    (names.map (front ++ ·)).Nodup :=
  distinct.map fun _ _ equal => (String.append_right_inj front).1 equal

/-- The dispatchers begin with an underscore or with an `s`. -/
theorem initial_of_dispatcher (groups : List String) :
    ∀ name ∈ ["_switch"] ++ groups.map ("switch" ++ ·),
      name.toList.head? = some '_' ∨ name.toList.head? = some 's' := by
  intro name member
  rcases List.mem_append.1 member with shared | own
  · rw [List.mem_singleton.1 shared]
    decide
  · exact .inr (initial_of_mem_map "switch" (c := 's') (by decide) groups name own)

theorem nodup_dispatchers {groups : List String} (distinct : groups.Nodup) :
    (["_switch"] ++ groups.map ("switch" ++ ·)).Nodup := by
  refine List.nodup_append.2 ⟨List.nodup_singleton _, nodup_map_append "switch" distinct,
    apart_of_initial (c := '_') ?_ ?_⟩
  · decide
  · intro name member
    rw [initial_of_mem_map "switch" (c := 's') (by decide) groups name member]
    decide

/-- Of the methods made from type names and groups, only a conversion and an assertion can
have the same name. -/
theorem nodup_derivedNames_iff (model : Model) :
    (derivedNames model).Nodup ↔ ∀ name ∈ model.typeNames, "sert" ++ name ∉ model.typeNames := by
  have distinct := model.typeNames_nodup
  have tests := initial_of_mem_map "is" (c := 'i') (by decide) model.typeNames
  have assertions := initial_of_mem_map "assert" (c := 'a') (by decide) model.typeNames
  have conversions := initial_of_mem_map "as" (c := 'a') (by decide) model.typeNames
  have dispatchers := initial_of_dispatcher model.groups.keys
  simp only [derivedNames, List.append_assoc]
  constructor
  · intro nodup name member clash
    have later := (List.nodup_append.1 (List.nodup_append.1 nodup).2.1).2.2
    apply later ("assert" ++ name) (List.mem_map_of_mem member) ("as" ++ ("sert" ++ name))
    · exact List.mem_append_left _ (List.mem_map_of_mem clash)
    · rw [← String.append_assoc]
      rfl
  · intro apart
    refine List.nodup_append.2 ⟨nodup_map_append "is" distinct,
      List.nodup_append.2 ⟨nodup_map_append "assert" distinct,
        List.nodup_append.2 ⟨nodup_map_append "as" distinct,
          nodup_dispatchers model.groups.keys_nodup, ?_⟩, ?_⟩, ?_⟩
    · apply apart_of_initial conversions
      intro name member
      rcases dispatchers name member with first | first <;> rw [first] <;> decide
    · intro assertion isAssertion other inRest equal
      rcases List.mem_append.1 inRest with isConversion | isDispatcher
      · rcases List.mem_map.1 isAssertion with ⟨name, member, rfl⟩
        rcases List.mem_map.1 isConversion with ⟨clash, inNames, same⟩
        have isClash : clash = "sert" ++ name := by
          rw [← same, ← String.toList_inj] at equal
          rw [← String.toList_inj]
          simpa using equal.symm
        exact apart name member (isClash ▸ inNames)
      · have first := assertions assertion isAssertion
        rw [equal] at first
        rcases dispatchers other isDispatcher with other | other <;> rw [other] at first <;>
          contradiction
    · apply apart_of_initial tests
      intro name member
      rcases List.mem_append.1 member with isAssertion | rest
      · rw [assertions name isAssertion]
        decide
      rcases List.mem_append.1 rest with isConversion | isDispatcher
      · rw [conversions name isConversion]
        decide
      · rcases dispatchers name isDispatcher with first | first <;> rw [first] <;> decide

theorem mem_derivedNames {model : Model} {name : String} :
    name ∈ derivedNames model ↔
      (∃ typeName ∈ model.typeNames,
        name ∈ ["is" ++ typeName, "assert" ++ typeName, "as" ++ typeName]) ∨
      name = "_switch" ∨ ∃ group ∈ model.groups.keys, name = "switch" ++ group := by
  simp only [derivedNames, List.mem_append, List.mem_map, List.mem_cons, List.not_mem_nil,
    or_false]
  constructor
  · rintro ((((⟨typeName, member, rfl⟩ | ⟨typeName, member, rfl⟩) | ⟨typeName, member, rfl⟩) |
      shared) | ⟨group, member, rfl⟩)
    · exact .inl ⟨typeName, member, .inl rfl⟩
    · exact .inl ⟨typeName, member, .inr (.inl rfl)⟩
    · exact .inl ⟨typeName, member, .inr (.inr rfl)⟩
    · exact .inr (.inl shared)
    · exact .inr (.inr ⟨group, member, rfl⟩)
  · rintro (⟨typeName, member, rfl | rfl | rfl⟩ | shared | ⟨group, member, rfl⟩)
    · exact .inl (.inl (.inl (.inl ⟨typeName, member, rfl⟩)))
    · exact .inl (.inl (.inl (.inr ⟨typeName, member, rfl⟩)))
    · exact .inl (.inl (.inr ⟨typeName, member, rfl⟩))
    · exact .inl (.inr shared)
    · exact .inr ⟨group, member, rfl⟩

theorem constructor_not_mem_derivedNames (model : Model) :
    "constructor" ∉ derivedNames model := by
  intro member
  rcases mem_derivedNames.1 member with ⟨name, -, query⟩ | shared | ⟨group, -, equal⟩
  · simp only [List.mem_cons, List.not_mem_nil, or_false] at query
    rcases query with equal | equal | equal <;>
      simpa using congrArg (fun text => text.toList.head?) equal
  · contradiction
  · simpa using congrArg (fun text => text.toList.take 2) equal

/-- The methods of the wrapper have distinct names exactly if the names of kinds and
groups are apart. -/
theorem nodup_familyNames_iff (model : Model) :
    (familyNames model).Nodup ↔ NamesApart model := by
  rw [familyNames, List.cons_append, List.nodup_cons, List.nodup_append, nodup_derivedNames_iff,
    List.mem_append, not_or]
  constructor
  · rintro ⟨⟨constructorApart, -⟩, builders, conversions, derivedApart⟩
    have apart : ∀ kind ∈ model.kinds, Text.lowerFirst kind.name ∉ derivedNames model :=
      fun kind member derived => derivedApart _ (List.mem_map_of_mem member) _ derived rfl
    refine ⟨builders, ?_, ?_, ?_, conversions⟩
    · intro kind member clash
      rcases List.mem_cons.1 clash with isConstructor | shared
      · exact constructorApart (List.mem_map.2 ⟨kind, member, isConstructor⟩)
      · exact apart kind member (mem_derivedNames.2 (.inr (.inl (List.mem_singleton.1 shared))))
    · intro kind member name isName query
      exact apart kind member (mem_derivedNames.2 (.inl ⟨name, isName, query⟩))
    · intro kind member group isGroup equal
      exact apart kind member (mem_derivedNames.2 (.inr (.inr ⟨group, isGroup, equal⟩)))
  · intro apart
    refine ⟨⟨?_, constructor_not_mem_derivedNames model⟩, apart.builders, apart.conversions, ?_⟩
    · intro isBuilder
      rcases List.mem_map.1 isBuilder with ⟨kind, member, equal⟩
      exact apart.fixed kind member (by simp [equal])
    · rintro builder isBuilder derived isDerived rfl
      rcases List.mem_map.1 isBuilder with ⟨kind, member, rfl⟩
      rcases mem_derivedNames.1 isDerived with
        ⟨name, isName, query⟩ | shared | ⟨group, isGroup, equal⟩
      · exact apart.queries kind member name isName query
      · exact apart.fixed kind member (by simp [shared])
      · exact apart.dispatchers kind member group isGroup equal

end Wrapper

namespace Registry

variable {registry : Registry} {config : Config} {generation : Generation}

/-- The wrapper is one class whose methods are those of all families, and no method
replaces another exactly if the names of kinds and groups are apart. -/
theorem generate_methods_distinct_iff
    (made : (registry.generate config).outcome = .ok generation) :
    let wrapperClass := Wrapper.classLayout generation.model config
    generation.artifacts.wrapper = Layout.render (Wrapper.layout generation.model config) ∧
      wrapperClass ∈ Wrapper.layout generation.model config ∧
      Wrapper.methodNames wrapperClass = Wrapper.familyNames generation.model ∧
      ((Wrapper.methodNames wrapperClass).Nodup ↔ Wrapper.NamesApart generation.model) := by
  rcases generate_eq_ok_iff.1 made with ⟨built, artifacts⟩
  have names : Wrapper.methodNames (Wrapper.classLayout generation.model config) =
      Wrapper.familyNames generation.model :=
    Wrapper.methodNames_classLayout config fun _ member =>
      isIdentifier_of_mem_typeNames built member
  refine ⟨?_, ?_, names, ?_⟩
  · rw [artifacts]
    rfl
  · simp [Wrapper.layout]
  · rw [names]
    exact Wrapper.nodup_familyNames_iff _

/-- A kind whose builder begins as a dispatcher does. -/
theorem generate_methods_distinct_of_switch_case :
    let registry : Registry := { kinds := { entries := [("SwitchCase", { aliases := ["Is"] })] } }
    ∃ generation, (registry.generate {}).outcome = .ok generation ∧
      (Wrapper.methodNames (Wrapper.classLayout generation.model {})).Nodup := by
  intro registry
  have made := generate_eq_ok registry {} (by decide +kernel)
  have apart : Wrapper.NamesApart (registry.resolved {}) :=
    ⟨by decide +kernel, by decide +kernel, by decide +kernel, by decide +kernel,
      by decide +kernel⟩
  exact ⟨_, made, (generate_methods_distinct_iff made).2.2.2.2 apart⟩

/-- The builder of a kind `Constructor` replaces the constructor of the class. -/
theorem generate_methods_collide :
    let registry : Registry := { kinds := { entries := [("Constructor", {})] } }
    ∃ generation, (registry.generate {}).outcome = .ok generation ∧
      Wrapper.methodNames (Wrapper.classLayout generation.model {}) =
        ["constructor", "constructor", "isBabel", "isConstructor", "assertBabel",
          "assertConstructor", "asBabel", "asConstructor", "_switch", "switchBabel"] ∧
      ¬ (Wrapper.methodNames (Wrapper.classLayout generation.model {})).Nodup := by
  intro registry
  have made := generate_eq_ok registry {} (by decide +kernel)
  have names : Wrapper.methodNames (Wrapper.classLayout (registry.resolved {}) {}) =
      ["constructor", "constructor", "isBabel", "isConstructor", "assertBabel",
        "assertConstructor", "asBabel", "asConstructor", "_switch", "switchBabel"] := by
    decide +kernel
  have repeated :
      ¬ (Wrapper.methodNames (Wrapper.classLayout (registry.resolved {}) {})).Nodup := by
    rw [names]
    decide
  exact ⟨_, made, names, repeated⟩

end Registry

end NodeDecl
