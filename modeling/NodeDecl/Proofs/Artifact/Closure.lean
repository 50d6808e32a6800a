import NodeDecl.Proofs.Artifact.Declarations
import NodeDecl.Proofs.Artifact.Interface

/-!
# Names of the stub in the catalogue

The stub mentions types by name, and the catalogue declares them.  The two texts are made
from different parts of a model: the stub from the sorted names of kinds and groups, from
the members of groups and from the universal alias, the catalogue from kinds and groups one
by one.  Both texts are read back here.  Every type that the stub mentions outside of the
parameters of builders is a class or a union of the catalogue, and the switcher of a group
goes through the same kinds as its union.
-/

namespace NodeDecl

open Layout (setIn)
open Text (OneLine)
open Catalogue (between?)

namespace Catalogue

/-- The name that a declaration is for. -/
def Declaration.name : Declaration → String
  | .kind name _ _ => name
  | .group name _ => name

theorem names_declared (model : Model) :
    (declared model).map (·.name) = model.kinds.map (·.name) ++ model.groups.keys := by
  rw [declared, List.map_append, List.map_map, List.map_map]
  rfl

/-- The type names that a text declares as classes or as unions, without their suffix. -/
def declaredTypes (config : Config) (text : String) : List String :=
  (declarations config text).map (·.name)

/-- The unions of a text, each with the kinds of its arms. -/
def unions (config : Config) (text : String) : List (String × List String) :=
  (declarations config text).filterMap (·.group?)

end Catalogue

namespace Stub

/-! ## Reading the stub -/

/-- The name of the method on a line of a switcher, and the kind of node that it takes. -/
def member? (suffix line : String) : Option (String × String) :=
  (Text.definedMethod? line).bind fun method =>
    (between? ("  " ++ method ++ "(node: ") (suffix ++ "): T;") line).map (method, ·)

/-- The name of the interface that a line opens. -/
def interface? (line : String) : Option String :=
  between? "declare interface " "<T> \x7b" line

/-- The interfaces of a text: their names, and what each of their lines is read as. -/
def interfaces (suffix text : String) : List (String × List (Option (String × String))) :=
  (Text.blocks interface? "\x7d" (Text.lines text)).map fun block =>
    (block.1, block.2.map (member? suffix))

/-- The lines behind the constructor of the class. -/
def signatureLines (text : String) : List String :=
  (Text.classBody text).tail

/-- A stub and a catalogue that fit together. -/
structure Closed (config : Config) (catalogue stub : String) : Prop where
  /-- The methods of switchers take nodes of declared types. -/
  nodes : ∀ interface ∈ interfaces config.nodeSuffix stub, ∀ method kind,
    some (method, kind) ∈ interface.2 → kind ∈ Catalogue.declaredTypes config catalogue
  /-- Each line of the class is a signature, and that in one way only. -/
  readable : ∀ line ∈ signatureLines stub,
    ∃! signature, Signature.ReadFrom config.nodeSuffix line signature
  /-- The types in signatures are declared. -/
  types : ∀ line ∈ signatureLines stub, ∀ signature,
    Signature.ReadFrom config.nodeSuffix line signature →
    ∀ type ∈ signature.types, type ∈ Catalogue.declaredTypes config catalogue
  /-- A dispatcher takes the switcher of its group, which is one of the interfaces. -/
  switchers : ∀ line ∈ signatureLines stub, ∀ group node switcher,
    Signature.ReadFrom config.nodeSuffix line (.dispatcher group node switcher) →
    switcher = group ++ "Switcher" ∧
      ((interfaces config.nodeSuffix stub).map (·.1)).count switcher = 1
  /-- A switcher has a method for each arm of the union of its group, in the same order. -/
  arms : interfaces config.nodeSuffix stub =
    (Catalogue.unions config catalogue).map fun union =>
      (union.1 ++ "Switcher", union.2.map fun kind => some (Text.lowerFirst kind, kind))

/-! ## Switchers -/

/-- The line of a switcher for a kind. -/
def memberLine (suffix kind : String) : String :=
  setIn 1 (Text.lowerFirst kind ++ "(node: " ++ kind ++ suffix ++ "): T;")

theorem member?_memberLine (suffix : String) {kind : String}
    (identifier : isIdentifier kind = true) :
    member? suffix (memberLine suffix kind) = some (Text.lowerFirst kind, kind) := by
  let line := Text.lowerFirst kind ++ "(node: " ++ kind ++ suffix ++ "): T;"
  have begins : line.toList = (Text.lowerFirst kind).toList ++
      '(' :: ("node: " ++ kind ++ suffix ++ "): T;").toList := by
    simp [line]
  have method : Text.definedMethod? (memberLine suffix kind) = some (Text.lowerFirst kind) :=
    definedMethod?_setIn (Text.isIdentifier_lowerFirst identifier) (by simp) begins
  have node : between? ("  " ++ Text.lowerFirst kind ++ "(node: ") (suffix ++ "): T;")
      (memberLine suffix kind) = some kind := by
    rw [Catalogue.between?_eq_some_iff, memberLine, Catalogue.setIn_one (by simp)]
    simp only [String.append_assoc]
  rw [member?, method, Option.bind_some, node, Option.map_some]

/-- The lines of a switcher are read one by one. -/
theorem map_member? (suffix : String) {kinds : List String}
    (identifiers : ∀ kind ∈ kinds, isIdentifier kind = true) :
    (kinds.map (memberLine suffix)).map (member? suffix) =
      kinds.map fun kind => some (Text.lowerFirst kind, kind) := by
  rw [List.map_map]
  apply List.map_congr_left
  intro kind member
  rw [Function.comp_apply, member?_memberLine suffix (identifiers kind member)]

/-- Lines that begin otherwise open no interface. -/
theorem interface?_eq_none {line : String} (other : line.toList.head? ≠ some 'd') :
    interface? line = none :=
  Catalogue.between?_eq_none rfl other

theorem interface?_of_inner {line : String} (inner : Layout.Inner line) :
    interface? line = none :=
  interface?_eq_none fun begins => absurd (inner 'd' begins) (by decide)

theorem interface?_class (name : String) :
    interface? ("declare class " ++ name ++ " \x7b") = none := by
  rw [Option.eq_none_iff_forall_ne_some]
  intro other read
  have equal := Catalogue.between?_eq_some_iff.1 read
  simp [String.ext_iff] at equal

theorem interface?_switcher (name : String) :
    interface? ("declare interface " ++ switcherName name ++ "<T> \x7b") =
      some (switcherName name) :=
  Catalogue.between?_append _ _ _

theorem lines_switcherLayout (suffix : String) (group : String × List String) :
    Layout.lines 0 (switcherLayout suffix group) =
      ("declare interface " ++ switcherName group.1 ++ "<T> \x7b") ::
        (group.2.map (memberLine suffix) ++ ["\x7d"]) := by
  rw [switcherLayout, Layout.lines, Layout.allLines_map, Layout.setIn_zero, Layout.setIn_zero]
  rfl

/-- A switcher is read, up to the blank line behind it. -/
theorem blocks_switcher (suffix : String) (group : String × List String) (rest : List String) :
    Text.blocks interface? "\x7d"
        ((Layout.lines 0 (switcherLayout suffix group) ++ [""]) ++ rest) =
      (switcherName group.1, group.2.map (memberLine suffix)) ::
        Text.blocks interface? "\x7d" rest := by
  have inner : ∀ line ∈ group.2.map (memberLine suffix), Layout.Inner line := by
    rw [List.forall_mem_map]
    intro kind _
    exact Layout.inner_setIn 0 _
  have inside : ∀ line ∈ group.2.map (memberLine suffix), line ≠ "\x7d" := by
    rintro line member rfl
    exact absurd (inner _ member '\x7d' rfl) (by decide)
  have blank : Text.blocks interface? "\x7d" ("" :: rest) =
      Text.blocks interface? "\x7d" rest := by
    rw [Text.blocks, interface?_eq_none (by decide)]
  have block := Text.blocks_cons (interface?_switcher group.1) inside
    (fun line member => interface?_of_inner (inner line member)) (interface?_eq_none (by decide))
    ("" :: rest)
  rw [blank] at block
  simpa [lines_switcherLayout] using block

/-- No interface is opened in the class or behind it. -/
theorem blocks_class (config : Config) (body : List Layout) :
    Text.blocks interface? "\x7d" (("declare class " ++ config.engineClass ++ " \x7b") ::
      (Layout.allLines 1 body ++
        "\x7d" :: ["", "export default " ++ config.engineClass ++ ";"])) = [] := by
  have bare : ∀ line ∈ ("declare class " ++ config.engineClass ++ " \x7b") ::
      (Layout.allLines 1 body ++ "\x7d" :: ["", "export default " ++ config.engineClass ++ ";"]),
      interface? line = none := by
    rw [List.forall_mem_cons, List.forall_mem_append, List.forall_mem_cons, List.forall_mem_cons,
      List.forall_mem_singleton]
    refine ⟨interface?_class _, ?_, interface?_eq_none (by decide), interface?_eq_none (by decide),
      interface?_eq_none (by simp)⟩
    intro line member
    exact interface?_of_inner (Layout.inner_of_mem_allLines line member)
  have nothing := @Text.blocks_append_of_none _ interface? "\x7d" _ bare []
  rwa [List.append_nil] at nothing

variable {model : Model} {config : Config}

theorem lines_render (plain : Layout.AllPlain (layout model config)) :
    Text.lines (render model config) =
      ["// @flow", generatedBy, ""] ++
        ((model.groups.entries.flatMap fun group =>
            Layout.lines 0 (switcherLayout config.nodeSuffix group) ++ [""]) ++
          ("declare class " ++ config.engineClass ++ " \x7b") ::
            (Layout.allLines 1 ((signatures model config).map fun signature => .line signature.2) ++
              "\x7d" :: ["", "export default " ++ config.engineClass ++ ";"])) := by
  rw [layout_eq] at plain
  rw [render, layout_eq, lines_of_block plain, switchers, Layout.allLines_append,
    Layout.allLines_spaced, List.append_assoc]
  simp only [Layout.allLines, Layout.lines, Layout.setIn_zero, List.nil_append, List.cons_append]

/-- The interfaces that are read off a stub are the switchers of the groups. -/
theorem interfaces_render (named : model.Named)
    (plain : Layout.AllPlain (layout model config)) :
    interfaces config.nodeSuffix (render model config) =
      model.groups.entries.map fun group =>
        (switcherName group.1, group.2.map fun kind => some (Text.lowerFirst kind, kind)) := by
  have bare : ∀ line ∈ ["// @flow", generatedBy, ""], interface? line = none := by
    rw [List.forall_mem_cons, List.forall_mem_cons, List.forall_mem_singleton]
    exact ⟨interface?_eq_none (by decide), interface?_eq_none (by decide),
      interface?_eq_none (by decide)⟩
  rw [interfaces, lines_render plain, Text.blocks_append_of_none bare,
    Text.blocks_flatMap_append fun group _ => blocks_switcher config.nodeSuffix group,
    blocks_class, List.append_nil, List.map_map]
  apply List.map_congr_left
  intro group inGroups
  have identifiers : ∀ kind ∈ group.2, isIdentifier kind = true := fun kind member =>
    named.kind (named.isKind group inGroups kind member)
  rw [Function.comp_apply, map_member? config.nodeSuffix identifiers]

/-! ## Signatures -/

/-- The lines behind the constructor of the class are the signatures of the model. -/
theorem signatureLines_render (plain : Layout.AllPlain (layout model config)) :
    signatureLines (render model config) =
      (declaredSignatures model config).map fun signature =>
        setIn 1 (signature.text config.nodeSuffix) := by
  rw [layout_eq] at plain
  rw [signatureLines, render, layout_eq,
    classBody_of_class plain (opensClass_switchers model config) (opensClass_classLayout config),
    Layout.allLines_map, signatures_eq, List.map_cons, List.tail_cons, List.map_map]
  rfl

/-- The types in signatures are kinds and groups. -/
theorem mem_typeNames_of_declared
    (universal : ∀ name ∈ model.typeNames, config.universalAlias ∈ model.typeNames) :
    ∀ signature ∈ declaredSignatures model config, ∀ type ∈ signature.types,
      type ∈ model.typeNames := by
  simp only [declaredSignatures, List.forall_mem_append, List.forall_mem_map, Signature.types,
    List.forall_mem_cons, List.not_mem_nil, false_implies, implies_true, and_true, and_assoc]
  exact ⟨fun kind member => Model.mem_typeNames.2 (.inl (List.mem_map_of_mem member)), universal,
    fun name member => member, fun name member => ⟨universal name member, member⟩,
    fun group member => Model.mem_typeNames.2 (.inr member)⟩

/-- The names in signatures are identifiers. -/
theorem named_of_declared (named : model.Named)
    (universal : ∀ name ∈ model.typeNames, config.universalAlias ∈ model.typeNames) :
    ∀ signature ∈ declaredSignatures model config, signature.Named := by
  have types := mem_typeNames_of_declared universal
  have labels : ∀ signature ∈ declaredSignatures model config, ∀ label ∈ signature.labels,
      isIdentifier label = true := by
    have switchers : ∀ group ∈ model.groups.keys, isIdentifier (switcherName group) = true :=
      fun group member => isIdentifier_append (named.group member) (by decide)
    simp only [declaredSignatures, List.forall_mem_append, List.forall_mem_map, Signature.labels,
      List.forall_mem_cons, List.not_mem_nil, false_implies, implies_true, and_true, true_and,
      and_assoc]
    exact ⟨named.isIdentifier, named.isIdentifier, named.isIdentifier,
      fun group member => ⟨named.group member, switchers group member⟩⟩
  intro signature member
  rw [Signature.Named, List.forall_mem_append]
  exact ⟨labels signature member,
    fun type mentioned => named.isIdentifier type (types signature member type mentioned)⟩

/-- The dispatchers of a stub are those of its groups, each with the switcher of its group. -/
theorem dispatcher_mem_declared {group node switcher : String}
    (member : .dispatcher group node switcher ∈ declaredSignatures model config) :
    group ∈ model.groups.keys ∧ switcher = switcherName group := by
  simp only [declaredSignatures, List.mem_append, List.mem_map, reduceCtorEq, and_false,
    exists_false, false_or] at member
  obtain ⟨other, inGroups, equal⟩ := member
  cases equal
  exact ⟨inGroups, rfl⟩

/-- The signatures of a model are read from their lines. -/
theorem readFrom_of_declared (named : model.Named)
    (universal : ∀ name ∈ model.typeNames, config.universalAlias ∈ model.typeNames) :
    ∀ signature ∈ declaredSignatures model config,
      Signature.ReadFrom config.nodeSuffix (setIn 1 (signature.text config.nodeSuffix))
        signature := by
  intro signature member
  have filled : signature.text config.nodeSuffix ≠ "" := by
    obtain ⟨bracket, -, inner, begins⟩ := signature.rest_begins config.nodeSuffix
    intro empty
    have nothing := congrArg String.toList empty
    rw [Signature.text, String.toList_append, begins] at nothing
    simp at nothing
  exact ⟨named_of_declared named universal signature member, Catalogue.setIn_one filled⟩

/-- Each line behind the constructor is read as a signature of the model. -/
theorem exists_readFrom (named : model.Named)
    (universal : ∀ name ∈ model.typeNames, config.universalAlias ∈ model.typeNames)
    (plain : Layout.AllPlain (layout model config)) :
    ∀ line ∈ signatureLines (render model config), ∃ signature ∈ declaredSignatures model config,
      Signature.ReadFrom config.nodeSuffix line signature := by
  rw [signatureLines_render plain, List.forall_mem_map]
  intro signature member
  exact ⟨signature, member, readFrom_of_declared named universal signature member⟩

/-! ## Stub and catalogue -/

/-- The switcher of a group is one of the interfaces. -/
theorem count_interfaces (named : model.Named) (plain : Layout.AllPlain (layout model config))
    {group : String} (inGroups : group ∈ model.groups.keys) :
    ((interfaces config.nodeSuffix (render model config)).map (·.1)).count (switcherName group) =
      1 := by
  have names : (interfaces config.nodeSuffix (render model config)).map (·.1) =
      model.groups.keys.map switcherName := by
    rw [interfaces_render named plain, List.map_map, SortedMap.keys, List.map_map]
    rfl
  have distinct : (model.groups.keys.map switcherName).Nodup :=
    model.groups.keys_nodup.map fun _ _ equal => (String.append_left_inj "Switcher").1 equal
  rw [names]
  exact List.count_eq_one_of_mem distinct (List.mem_map_of_mem inGroups)

/-- The stub of a model fits together with every text that declares what the model has. -/
theorem closed_of_declarations (named : model.Named)
    (universal : ∀ name ∈ model.typeNames, config.universalAlias ∈ model.typeNames)
    (plain : Layout.AllPlain (layout model config)) {catalogue : String}
    (declared : Catalogue.declarations config catalogue = Catalogue.declared model) :
    Closed config catalogue (render model config) := by
  have interfaces_eq := interfaces_render named plain
  have read := exists_readFrom named universal plain
  have mem_declared : ∀ name ∈ model.typeNames,
      name ∈ Catalogue.declaredTypes config catalogue := by
    intro name member
    rw [Catalogue.declaredTypes, declared, Catalogue.names_declared, List.mem_append]
    exact Model.mem_typeNames.1 member
  constructor
  case nodes =>
    rw [interfaces_eq, List.forall_mem_map]
    intro group inGroups method kind member
    obtain ⟨other, inGroup, equal⟩ := List.mem_map.1 member
    cases equal
    exact mem_declared kind
      (Model.mem_typeNames.2 (.inl (named.isKind group inGroups kind inGroup)))
  case readable =>
    intro line member
    obtain ⟨signature, -, isRead⟩ := read line member
    exact ⟨signature, isRead, fun other otherwise => otherwise.unique isRead⟩
  case types =>
    intro line member signature isRead type mentioned
    obtain ⟨own, inModel, isOwn⟩ := read line member
    rw [isRead.unique isOwn] at mentioned
    exact mem_declared type (mem_typeNames_of_declared universal own inModel type mentioned)
  case switchers =>
    intro line member group node switcher isRead
    obtain ⟨own, inModel, isOwn⟩ := read line member
    rw [← isRead.unique isOwn] at inModel
    obtain ⟨inGroups, switcherOfGroup⟩ := dispatcher_mem_declared inModel
    rw [switcherOfGroup]
    exact ⟨rfl, count_interfaces named plain inGroups⟩
  case arms =>
    rw [interfaces_eq, Catalogue.unions, declared, Catalogue.filterMap_group?_declared]
    rfl

end Stub

namespace Registry

variable {registry : Registry} {config : Config} {model : Model}

/-- Where there is a type, there is a kind, and so the universal alias is a group. -/
theorem universal_mem_groups (built : (registry.build config).outcome = .ok model) {name : String}
    (member : name ∈ model.typeNames) : config.universalAlias ∈ model.groups.keys := by
  rcases build_eq_ok_iff.1 built with ⟨-, rfl⟩
  have defined : ∃ kind definition, registry.kinds.get? kind = some definition := by
    rcases Model.mem_typeNames.1 member with isKind | isGroup
    · obtain ⟨kind, inKinds, -⟩ := List.mem_map.1 isKind
      obtain ⟨definition, found, -⟩ := mem_kinds_resolved.1 inKinds
      exact ⟨kind.name, definition, found⟩
    · obtain ⟨members, found⟩ := SortedMap.mem_keys_iff.1 isGroup
      obtain ⟨kind, inGroup⟩ :=
        List.exists_mem_of_ne_nil _ (get?_groups_eq_some_iff.1 found).2
      obtain ⟨definition, bound, -⟩ :=
        hasAlias_resolved_iff.1 (hasMember_resolved_iff.1 ⟨members, found, inGroup⟩)
      exact ⟨kind, definition, bound⟩
  obtain ⟨kind, definition, found⟩ := defined
  obtain ⟨members, grouped, -⟩ :=
    hasMember_resolved_iff.2 (hasAlias_resolved_iff.2 ⟨definition, found, .inr rfl⟩)
  exact SortedMap.mem_keys_iff.2 ⟨members, grouped⟩

/-- The layout of a stub has no line feeds in it if the fields and types of parameters have
none. -/
theorem allPlain_stub (built : (registry.build config).outcome = .ok model)
    (engine : OneLine config.engineClass) (suffix : OneLine config.nodeSuffix)
    (parameters : ∀ kind ∈ model.kinds, ∀ parameter ∈ kind.builder,
      OneLine parameter.field ∧ OneLine parameter.rendered) :
    Layout.AllPlain (Stub.layout model config) := by
  have universal : ∀ name ∈ model.typeNames, OneLine config.universalAlias := fun name member =>
    Text.oneLine_of_isIdentifier ((named built).group (universal_mem_groups built member))
  apply Stub.allPlain_layout (named built) engine suffix
  apply Stub.oneLine_signatures (named built) engine universal suffix
  intro kind inKinds parameter inBuilder
  obtain ⟨field, rendered⟩ := parameters kind inKinds parameter inBuilder
  exact oneLine_parameterText built inKinds inBuilder field rendered

/-- The stub and the catalogue of a model fit together.  The unions of the catalogue are
those of the alias groups, and the class of the stub has the signatures of the model. -/
theorem build_closed (built : (registry.build config).outcome = .ok model)
    (engine : OneLine config.engineClass) (suffix : OneLine config.nodeSuffix)
    (trailer : ∀ line ∈ config.catalogueTrailer, OneLine line)
    (fields : Catalogue.OneLineFields model)
    (parameters : ∀ kind ∈ model.kinds, ∀ parameter ∈ kind.builder,
      OneLine parameter.field ∧ OneLine parameter.rendered) :
    let catalogue := Catalogue.render model config
    let stub := Stub.render model config
    Stub.Closed config catalogue stub ∧
      Catalogue.unions config catalogue = model.groups.entries ∧
      List.Forall₂ (Stub.Signature.ReadFrom config.nodeSuffix) (Stub.signatureLines stub)
        (Stub.declaredSignatures model config) := by
  intro catalogue stub
  have plain := allPlain_stub built engine suffix parameters
  have universal : ∀ name ∈ model.typeNames, config.universalAlias ∈ model.typeNames :=
    fun name member => Model.mem_typeNames.2 (.inr (universal_mem_groups built member))
  have declared : Catalogue.declarations config catalogue = Catalogue.declared model :=
    Catalogue.declarations_render
      (Catalogue.allPlain_layout suffix trailer (oneLine_of_mem_declared built fields))
  refine ⟨Stub.closed_of_declarations (named built) universal plain declared, ?unions,
    ?signatures⟩
  case unions =>
    rw [Catalogue.unions, declared, Catalogue.filterMap_group?_declared]
  case signatures =>
    rw [Stub.signatureLines_render plain, List.forall₂_map_left_iff, List.forall₂_same]
    exact Stub.readFrom_of_declared (named built) universal

/-- A kind whose builder begins as the test of another kind does, under a suffix with which
that test ends. -/
theorem build_closed_of_two :
    let registry : Registry := { kinds := { entries :=
      [("Leaf", {}),
        ("IsLeaf", { builder := ["value"], fields := { entries := [("value", {})] }
                     aliases := ["Tree"] })] } }
    let config : Config :=
      { engineClass := "Types", nodeSuffix := ", opts?: Object): boolean", universalAlias := "Any" }
    ∃ model, (registry.build config).outcome = .ok model ∧
      Stub.Closed config (Catalogue.render model config) (Stub.render model config) ∧
      Stub.interfaces config.nodeSuffix (Stub.render model config) =
        [("AnySwitcher", [some ("isLeaf", "IsLeaf"), some ("leaf", "Leaf")]),
          ("TreeSwitcher", [some ("isLeaf", "IsLeaf")])] := by
  intro registry config
  have sorted : registry.sorted =
      [("IsLeaf",
        { builder := ["value"], fields := { entries := [("value", {})] }, aliases := ["Tree"] }),
        ("Leaf", {})] :=
    sorted_eq (List.reverse_perm registry.kinds.entries) (by decide +kernel)
  have built : (registry.build config).outcome = .ok (registry.resolved config) :=
    build_eq_ok_iff.2 ⟨by rw [sorted]; decide +kernel, rfl⟩
  have groups : (registry.resolved config).groups.entries =
      [("Any", ["IsLeaf", "Leaf"]), ("Tree", ["IsLeaf"])] := by
    rw [resolved, sorted]
    decide +kernel
  have fields : Catalogue.OneLineFields (registry.resolved config) := by
    rw [resolved, sorted]
    decide +kernel
  have parameters : ∀ kind ∈ (registry.resolved config).kinds, ∀ parameter ∈ kind.builder,
      OneLine parameter.field ∧ OneLine parameter.rendered := by
    rw [resolved, sorted]
    decide +kernel
  have both := build_closed built (by decide) (by decide) (by decide) fields parameters
  refine ⟨_, built, both.1, ?_⟩
  rw [both.1.arms, both.2.1, groups]
  decide +kernel

end Registry

end NodeDecl
