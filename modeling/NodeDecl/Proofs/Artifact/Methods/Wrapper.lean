import NodeDecl.Artifact
import NodeDecl.Proofs.Artifact.Generation
import NodeDecl.Proofs.Artifact.Methods

/-!
# The methods of the wrapper

The wrapper defines a constructor, a builder for each kind, the tests, assertions and
conversions of each type name, a dispatcher for each group and one that these share.  A
conversion calls the test of its type name, and a dispatcher the one that all share; nothing
else is called on the object itself.
-/

namespace NodeDecl

open Layout (Plain AllPlain)
open Text (OneLine Method calls)

namespace Wrapper

/-- A delegation calls nothing on the object itself: it goes through a field. -/
theorem defines_delegation {name : String} (identifier : isIdentifier name = true) :
    Defines (delegation name) ⟨name, []⟩ := by
  let field : List Char := "_t.".toList ++ (name.toList ++ '(' :: "...args); \x7d".toList)
  have text : (name ++ "(...args) \x7b return this._t." ++ name ++ "(...args); \x7d").toList =
      name.toList ++
        '(' :: ("...args) \x7b return".toList ++ ' ' :: ("this.".toList ++ field)) := by
    simp [field]
  have noMethod : Text.nameBefore? ['('] field = none :=
    Text.nameBefore?_append_cons (c := '.') (by decide) _ "_t".toList _
  have fieldCalls : calls field = [] := by
    have behind := Text.calls_name identifier "...args); \x7d".toList
    simpa [field, Text.calls, Text.calledAt?, List.dropPrefix?] using behind
  have return_ : calls ("...args) \x7b return".toList ++ [' ']) = [] := by decide +kernel
  have defines := defines_line identifier (by simp) text
  rwa [text, Text.calls_name identifier, Text.calls_append_cons (by decide) (by decide), return_,
    Text.calls_this, noMethod, fieldCalls] at defines

/-- A conversion calls the test for its type name. -/
theorem defines_conversion {name : String} (identifier : isIdentifier name = true) :
    Defines (conversion name) ⟨"as" ++ name, ["is" ++ name]⟩ := by
  have conversionName : isIdentifier ("as" ++ name) = true :=
    isIdentifier_append (by decide) identifier
  have testName : isIdentifier ("is" ++ name) = true :=
    isIdentifier_append (by decide) identifier
  have opening : ("as" ++ name ++ "(value, ...args) \x7b").toList =
      ("as" ++ name).toList ++ '(' :: "value, ...args) \x7b".toList := by
    simp
  let condition : String := "if (this.is" ++ name ++ "(value, ...args)) return value;"
  have called : calls condition.toList = ["is" ++ name] := by
    have parts : condition.toList = "if ".toList ++ '(' :: ("this.".toList ++
        (("is" ++ name).toList ++ '(' :: "value, ...args)) return value;".toList)) := by
      simp [condition]
    have before : calls ("if ".toList ++ ['(']) = [] := by decide +kernel
    have behind : calls "value, ...args)) return value;".toList = [] := by decide +kernel
    rw [parts, Text.calls_append_cons (by decide) (by decide), before, Text.calls_this,
      Text.nameBefore?_eq_some testName (by simp) (by decide), Text.calls_name testName, behind]
    rfl
  have others : calls "value, ...args) \x7b".toList = [] ∧
      calls "else return undefined;".toList = [] := by
    decide +kernel
  have defines := defines_block [condition, "else return undefined;"] conversionName opening
    (by simp [condition])
  rwa [List.flatMap_cons, List.flatMap_singleton, called, others.1, others.2] at defines

/-- A dispatcher calls the one that all dispatchers share. -/
theorem defines_dispatcher {group : String} (identifier : isIdentifier group = true) :
    Defines (dispatcher group) ⟨"switch" ++ group, ["_switch"]⟩ := by
  have name : isIdentifier ("switch" ++ group) = true :=
    isIdentifier_append (by decide) identifier
  have opening : ("switch" ++ group ++ "(node, switcher) \x7b").toList =
      ("switch" ++ group).toList ++ '(' :: "node, switcher) \x7b".toList := by
    simp
  have called : calls "node, switcher) \x7b".toList = [] ∧
      calls "return this._switch(node, switcher);".toList = ["_switch"] := by
    decide +kernel
  have defines := defines_block ["return this._switch(node, switcher);"] name opening (by simp)
  rwa [List.flatMap_singleton, called.1, called.2] at defines

/-- The methods of the wrapper, with what they call on the object itself. -/
def interface (model : Model) : List Method :=
  [⟨"constructor", []⟩] ++ model.kinds.map (fun kind => ⟨Text.lowerFirst kind.name, []⟩) ++
    model.typeNames.map (fun name => ⟨"is" ++ name, []⟩) ++
    model.typeNames.map (fun name => ⟨"assert" ++ name, []⟩) ++
    model.typeNames.map (fun name => ⟨"as" ++ name, ["is" ++ name]⟩) ++ [⟨"_switch", []⟩] ++
    model.groups.keys.map fun group => ⟨"switch" ++ group, ["_switch"]⟩

theorem defines_constructor :
    Defines (.block "constructor(t) \x7b" "\x7d" [.line "this._t = t;"]) ⟨"constructor", []⟩ := by
  have opening : "constructor(t) \x7b".toList = "constructor".toList ++ '(' :: "t) \x7b".toList :=
    rfl
  have called : calls "t) \x7b".toList = [] ∧ calls "this._t = t;".toList = [] := by
    decide +kernel
  have defines := defines_block ["this._t = t;"] (by decide) opening (by simp)
  rwa [List.flatMap_singleton, called.1, called.2] at defines

theorem defines_sharedDispatcher : Defines sharedDispatcher ⟨"_switch", []⟩ := by
  have opening : "_switch(node, switcher) \x7b".toList =
      "_switch".toList ++ '(' :: "node, switcher) \x7b".toList :=
    rfl
  have called : calls "node, switcher) \x7b".toList = [] ∧
      calls "const type = node.type[0].toLowerCase() + node.type.substr(1);".toList = [] ∧
      calls "return switcher[type](node);".toList = [] := by
    decide +kernel
  have defines := defines_block ["const type = node.type[0].toLowerCase() + node.type.substr(1);",
    "return switcher[type](node);"] (by decide) opening (by simp)
  rwa [List.flatMap_cons, List.flatMap_singleton, called.1, called.2.1, called.2.2] at defines

variable {model : Model} {config : Config}

theorem names_interface (model : Model) :
    (interface model).map (·.name) =
      ("constructor" :: model.kinds.map (fun kind => Text.lowerFirst kind.name) ++
        model.typeNames.map ("is" ++ ·) ++ model.typeNames.map ("assert" ++ ·) ++
        model.typeNames.map ("as" ++ ·)) ++
        "_switch" :: model.groups.keys.map ("switch" ++ ·) := by
  simp [interface, Function.comp_def]

/-- All calls, each with the method that makes it. -/
theorem calls_interface (model : Model) :
    (interface model).flatMap (fun method => method.calls.map (method.name, ·)) =
      model.typeNames.map (fun name => ("as" ++ name, "is" ++ name)) ++
        model.groups.keys.map (fun group => ("switch" ++ group, "_switch")) := by
  have silent : ∀ {α : Type} (values : List α),
      values.flatMap (fun _ => ([] : List (String × String))) = [] := fun values =>
    List.flatMap_eq_nil_iff.2 fun _ _ => rfl
  simp only [interface, List.flatMap_append, List.flatMap_map, List.map_nil, List.map_cons, silent]
  simp [← List.map_eq_flatMap]

/-- Every method that is called is there. -/
theorem called_mem_interface {method : Method} (member : method ∈ interface model)
    {called : String} (isCalled : called ∈ method.calls) :
    called ∈ (interface model).map (·.name) := by
  have call : (method.name, called) ∈
      (interface model).flatMap (fun method => method.calls.map (method.name, ·)) :=
    List.mem_flatMap.2 ⟨method, member, List.mem_map_of_mem isCalled⟩
  rw [names_interface]
  rw [calls_interface, List.mem_append, List.mem_map, List.mem_map] at call
  rcases call with ⟨name, isName, equal⟩ | ⟨group, -, equal⟩
  · rw [← (Prod.mk.inj equal).2]
    simp only [List.mem_append, List.mem_cons, List.mem_map]
    exact .inl (.inl (.inl (.inr ⟨name, isName, rfl⟩)))
  · rw [← (Prod.mk.inj equal).2]
    simp

/-- What stands in the class. -/
def pieces (model : Model) : List Layout :=
  [.block "constructor(t) \x7b" "\x7d" [.line "this._t = t;"]] ++
    model.kinds.map (fun kind => delegation (Text.lowerFirst kind.name)) ++
    model.typeNames.map (fun name => delegation ("is" ++ name)) ++
    model.typeNames.map (fun name => delegation ("assert" ++ name)) ++
    model.typeNames.map conversion ++
    [sharedDispatcher] ++
    model.groups.keys.map dispatcher

/-- Each piece of the class is one of the methods. -/
theorem defines_pieces (named : model.Named) :
    List.Forall₂ Defines (pieces model) (interface model) := by
  have builders : ∀ kind ∈ model.kinds, Defines (delegation (Text.lowerFirst kind.name)) _ :=
    fun kind member => defines_delegation (named.builder (List.mem_map_of_mem member))
  have tests : ∀ name ∈ model.typeNames, Defines (delegation ("is" ++ name)) _ :=
    fun name member => defines_delegation
      (isIdentifier_append (by decide) (named.isIdentifier name member))
  have assertions : ∀ name ∈ model.typeNames, Defines (delegation ("assert" ++ name)) _ :=
    fun name member => defines_delegation
      (isIdentifier_append (by decide) (named.isIdentifier name member))
  have conversions : ∀ name ∈ model.typeNames, Defines (conversion name) _ :=
    fun name member => defines_conversion (named.isIdentifier name member)
  have dispatchers : ∀ group ∈ model.groups.keys, Defines (dispatcher group) _ :=
    fun group member => defines_dispatcher (named.group member)
  have front := List.rel_append (.cons defines_constructor .nil) (defines_map builders)
  have queries := List.rel_append (List.rel_append front (defines_map tests))
    (defines_map assertions)
  have all := List.rel_append (List.rel_append queries (defines_map conversions))
    (.cons defines_sharedDispatcher .nil)
  exact List.rel_append all (defines_map dispatchers)

theorem plain_delegation {name : String} (plain : OneLine name) : Plain (delegation name) := by
  simp only [delegation, Plain, Text.oneLine_append, plain]
  decide

theorem plain_conversion {name : String} (plain : OneLine name) : Plain (conversion name) := by
  simp only [conversion, Plain, AllPlain, Text.oneLine_append, plain]
  decide

theorem plain_dispatcher {group : String} (plain : OneLine group) : Plain (dispatcher group) := by
  simp only [dispatcher, Plain, AllPlain, Text.oneLine_append, plain]
  decide

theorem allPlain_pieces (named : model.Named) : AllPlain (pieces model) := by
  have fixed : AllPlain [.block "constructor(t) \x7b" "\x7d" [.line "this._t = t;"]] ∧
      AllPlain [sharedDispatcher] := by
    simp only [sharedDispatcher, Plain, AllPlain]
    decide
  have names : ∀ name ∈ model.typeNames, OneLine name := fun name member =>
    Text.oneLine_of_isIdentifier (named.isIdentifier name member)
  have prefixed : ∀ front : String, OneLine front → ∀ name ∈ model.typeNames,
      OneLine (front ++ name) := fun front plain name member =>
    Text.oneLine_append.2 ⟨plain, names name member⟩
  simp only [pieces, Layout.allPlain_append, and_assoc]
  exact ⟨fixed.1,
    Layout.allPlain_map fun kind member => plain_delegation
      (Text.oneLine_of_isIdentifier (named.builder (List.mem_map_of_mem member))),
    Layout.allPlain_map fun name member =>
      plain_delegation (prefixed "is" (by decide) name member),
    Layout.allPlain_map fun name member =>
      plain_delegation (prefixed "assert" (by decide) name member),
    Layout.allPlain_map fun name member => plain_conversion (names name member), fixed.2,
    Layout.allPlain_map fun group member =>
      plain_dispatcher (Text.oneLine_of_isIdentifier (named.group member))⟩

/-- The methods of the wrapper are read off its text. -/
theorem methods_render (named : model.Named) (engine : OneLine config.engineClass) :
    Text.methods (render model config) = interface model := by
  have body := allPlain_pieces named
  have whole : layout model config = [.line generatedBy, .blank] ++
      .block ("class " ++ config.engineClass ++ " \x7b") "\x7d" (pieces model) ::
        [.blank, .line ("export default " ++ config.engineClass ++ ";")] := rfl
  have plain : AllPlain (layout model config) := by
    simp only [whole, List.cons_append, List.nil_append, AllPlain, Plain, Text.oneLine_append,
      engine, body]
    decide
  have opens : Text.opensClass ("class " ++ config.engineClass ++ " \x7b") = true := by
    rw [Text.opensClass, String.toList_append, String.toList_append, List.append_assoc]
    rfl
  rw [whole] at plain
  rw [render, whole]
  exact methods_of_class plain (by decide +kernel) opens (defines_pieces named)

end Wrapper

end NodeDecl
