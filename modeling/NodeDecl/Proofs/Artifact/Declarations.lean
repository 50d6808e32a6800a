import Mathlib.Data.List.DropRight
import NodeDecl.Proofs.Artifact.TypeNames
import NodeDecl.Proofs.Text.Classes

/-!
# What a catalogue says

A catalogue declares a class for each kind and then a union for each alias group.  Its
text is read back declaration by declaration: the lines of the configuration at the end are
put aside, the others are divided at the lines that open a class or a union, and each
section gives back the field lines and aliases of a kind, or the members of a group.  So
two catalogues with one text say the same of all kinds and groups.

A field is read back as its line.  The parts of the line are told apart only if the name
of the field has no colon and its type does not begin with the mark of what is optional.
-/

namespace NodeDecl

open Layout (Plain AllPlain setIn)
open Text (OneLine IsSection)

namespace Catalogue

/-! ## Declarations -/

/-- What a declaration opens with: a class or a union, and for what. -/
inductive Head where
  | kind (name : String)
  | group (name : String)

/-- A declaration of a catalogue. -/
inductive Declaration where
  /-- The class of a kind, with the lines of its fields and its aliases. -/
  | kind (name : String) (fieldLines aliases : List String)
  /-- The union of a group. -/
  | group (name : String) (members : List String)
deriving DecidableEq, Repr

namespace Declaration

/-- The class of a kind. -/
def ofKind (kind : Kind) : Declaration :=
  .kind kind.name (kind.fields.map fieldLine) kind.aliases

/-- The union of a group. -/
def ofGroup (group : String × List String) : Declaration :=
  .group group.1 group.2

/-- How a declaration opens. -/
def head : Declaration → Head
  | .kind name _ _ => .kind name
  | .group name _ => .group name

/-- How a declaration is laid out. -/
def layout (suffix : String) : Declaration → Layout
  | .kind name fieldLines aliases =>
      .block ("declare class " ++ name ++ suffix ++ " \x7b") "\x7d" <|
        [.line ("type: '" ++ name ++ "';"), .line "loc: ?Location;"] ++ fieldLines.map .line ++
        [.blank] ++ (aliases.map ("// alias: " ++ ·)).map .line
  | .group name members =>
      .block ("type " ++ name ++ suffix ++ " = (") ");" <|
        (members.map ("| " ++ · ++ suffix)).map .line

/-- The declaration that opens in some way and is written on some lines.  The fields of a
class stand behind three lines, up to an empty one. -/
def ofLines (suffix : String) : Head × List String → Declaration
  | (.kind name, lines) =>
      let body := lines.drop 3
      .kind name ((body.takeWhile (· ≠ "")).filterMap (between? "  " ""))
        ((body.dropWhile (· ≠ "")).filterMap (between? "  // alias: " ""))
  | (.group name, lines) => .group name (lines.filterMap (between? "  | " suffix))

end Declaration

/-- The declaration that a line opens, where declared types end in a suffix. -/
def head? (suffix line : String) : Option Head :=
  ((between? "declare class " (suffix ++ " \x7b") line).map .kind).or
    ((between? "type " (suffix ++ " = (") line).map .group)

/-- The declarations of kinds and groups that are read off the text of a catalogue. -/
def declarations (config : Config) (text : String) : List Declaration :=
  (Text.sections (head? config.nodeSuffix)
    ((Text.lines text).rdrop config.catalogueTrailer.length)).2.map (.ofLines config.nodeSuffix)

/-- What the catalogue of a model declares. -/
def declared (model : Model) : List Declaration :=
  model.kinds.map .ofKind ++ model.groups.entries.map .ofGroup

/-- The lines in front of all declarations. -/
def preamble : List Layout :=
  [.line "// @flow", .line generatedBy, .blank, .line location, .blank]

/-- A catalogue depends on nothing of a model but what it declares. -/
theorem layout_eq (model : Model) (config : Config) :
    layout model config =
      preamble ++
        (declared model).flatMap
          (fun declaration => [declaration.layout config.nodeSuffix, .blank]) ++
        config.catalogueTrailer.map .line := by
  have kinds : ∀ kind : Kind, classLayout config.nodeSuffix kind =
      (Declaration.ofKind kind).layout config.nodeSuffix := by
    intro kind
    rw [classLayout, Declaration.ofKind, Declaration.layout, List.map_map, List.map_map]
    rfl
  have groups : ∀ group : String × List String, unionLayout config.nodeSuffix group =
      (Declaration.ofGroup group).layout config.nodeSuffix := by
    intro group
    rw [unionLayout, Declaration.ofGroup, Declaration.layout, List.map_map]
    rfl
  rw [layout, declared, List.flatMap_append, List.flatMap_map, List.flatMap_map]
  simp only [kinds, groups, List.append_assoc]
  rfl

/-! ## Sections of a catalogue -/

section

variable {suffix : String}

theorem head?_kind (suffix name : String) :
    head? suffix ("declare class " ++ name ++ suffix ++ " \x7b") = some (.kind name) := by
  rw [head?, between?_eq_some_iff.2 (String.append_assoc ..), Option.map_some, Option.some_or]

theorem head?_group (suffix name : String) :
    head? suffix ("type " ++ name ++ suffix ++ " = (") = some (.group name) := by
  have noClass : between? "declare class " (suffix ++ " \x7b")
      ("type " ++ name ++ suffix ++ " = (") = none :=
    between?_eq_none (c := 'd') rfl (by simp)
  rw [head?, noClass, Option.map_none, Option.none_or,
    between?_eq_some_iff.2 (String.append_assoc ..), Option.map_some]

/-- Lines that begin neither as a class nor as a union open nothing. -/
theorem head?_eq_none {line : String} (noClass : line.toList.head? ≠ some 'd')
    (noUnion : line.toList.head? ≠ some 't') : head? suffix line = none := by
  rw [head?, between?_eq_none (c := 'd') rfl noClass, between?_eq_none (c := 't') rfl noUnion]
  rfl

theorem head?_eq_none_of_inner {line : String} (inner : Layout.Inner line) :
    head? suffix line = none := by
  have other : ∀ c, c ≠ ' ' → line.toList.head? ≠ some c := fun c differ begins =>
    differ (inner c begins)
  exact head?_eq_none (other 'd' (by decide)) (other 't' (by decide))

/-- The type of positions is no union, whatever the suffix. -/
theorem head?_location (suffix : String) : head? suffix location = none := by
  have first : location.toList.head? = some 't' := by
    decide +kernel
  have last : location.toList.getLast? = some ';' := by
    decide +kernel
  have ends : (suffix ++ " = (").toList.getLast? = some '(' := by
    rw [String.toList_append, List.getLast?_append]
    rfl
  rw [head?, between?_eq_none (c := 'd') rfl (by rw [first]; decide),
    between?_eq_none_of_getLast? ends (by rw [last]; decide)]
  rfl

theorem head?_preamble (suffix : String) :
    ∀ line ∈ Layout.allLines 0 preamble, head? suffix line = none := by
  have lines : Layout.allLines 0 preamble = ["// @flow", generatedBy, "", location, ""] := by
    decide +kernel
  rw [lines]
  simp only [List.forall_mem_cons]
  exact ⟨head?_eq_none (by decide) (by decide), head?_eq_none (by decide) (by decide),
    head?_eq_none (by decide) (by decide), head?_location suffix,
    head?_eq_none (by decide) (by decide), by simp⟩

/-- A block is a section, up to the blank line behind it. -/
theorem isSection_block {opening closing : String} {body : List Layout} {value : Head}
    (opens : head? suffix opening = some value) (closes : head? suffix closing = none) :
    IsSection (head? suffix) value (Layout.lines 0 (.block opening closing body) ++ [""]) := by
  refine ⟨opening, Layout.allLines 1 body ++ [closing, ""], ?_, opens, ?_⟩
  · simp [Layout.lines, Layout.setIn_zero]
  · rw [List.forall_mem_append, List.forall_mem_cons, List.forall_mem_singleton]
    exact ⟨fun line member => head?_eq_none_of_inner (Layout.inner_of_mem_allLines line member),
      closes, head?_eq_none (by decide) (by decide)⟩

theorem isSection_layout (suffix : String) (declaration : Declaration) :
    IsSection (head? suffix) declaration.head
      (Layout.lines 0 (declaration.layout suffix) ++ [""]) := by
  cases declaration with
  | kind name fieldLines aliases =>
      exact isSection_block (head?_kind suffix name) (head?_eq_none (by decide) (by decide))
  | group name members =>
      exact isSection_block (head?_group suffix name) (head?_eq_none (by decide) (by decide))

/-! ## Reading a section -/

theorem setIn_one {text : String} (filled : text ≠ "") : setIn 1 text = "  " ++ text := by
  apply String.toList_inj.1
  rw [Layout.toList_setIn filled, String.toList_append]
  rfl

/-- A class is read back: its field lines are those before the first empty line. -/
theorem ofLines_kind (suffix name : String) {fieldLines : List String}
    (filled : ∀ line ∈ fieldLines, line ≠ "") (aliases : List String) :
    let declaration := Declaration.kind name fieldLines aliases
    Declaration.ofLines suffix
      (declaration.head, Layout.lines 0 (declaration.layout suffix) ++ [""]) = declaration := by
  intro declaration
  let comment : String → String := fun group => setIn 1 ("// alias: " ++ group)
  have body : (Layout.lines 0 (declaration.layout suffix) ++ [""]).drop 3 =
      fieldLines.map (setIn 1) ++ "" :: (aliases.map comment ++ ["\x7d", ""]) := by
    simp only [declaration, Declaration.layout, Layout.lines, Layout.allLines_append,
      Layout.allLines_map_line]
    simp [Layout.allLines, Layout.lines, Layout.setIn_zero, Function.comp_def, comment]
  have inside : ∀ line ∈ fieldLines.map (setIn 1), decide (line ≠ "") = true := by
    rw [List.forall_mem_map]
    intro line member
    rw [setIn_one (filled line member)]
    simp
  have fields : (fieldLines.map (setIn 1)).filterMap (between? "  " "") = fieldLines := by
    apply filterMap_between?
    intro line member
    rw [setIn_one (filled line member), String.append_empty]
  have comments : (aliases.map comment).filterMap (between? "  // alias: " "") = aliases := by
    apply filterMap_between?
    intro group _
    rw [String.append_empty]
    exact (setIn_one (by simp)).trans (String.append_assoc ..).symm
  have others : between? "  // alias: " "" "" = none ∧
      ["\x7d", ""].filterMap (between? "  // alias: " "") = [] := by
    decide +kernel
  rw [Declaration.head, Declaration.ofLines, body, List.takeWhile_append_of_pos inside,
    List.dropWhile_append_of_pos inside, List.takeWhile_cons_of_neg (by simp),
    List.dropWhile_cons_of_neg (by simp), List.append_nil, fields,
    List.filterMap_cons_none others.1, List.filterMap_append, comments, others.2, List.append_nil]

/-- A union is read back. -/
theorem ofLines_group (suffix name : String) (members : List String) :
    let declaration := Declaration.group name members
    Declaration.ofLines suffix
      (declaration.head, Layout.lines 0 (declaration.layout suffix) ++ [""]) = declaration := by
  intro declaration
  let arm : String → String := fun member => setIn 1 ("| " ++ member ++ suffix)
  have lines : Layout.lines 0 (declaration.layout suffix) ++ [""] =
      ("type " ++ name ++ suffix ++ " = (") :: (members.map arm ++ [");", ""]) := by
    simp only [declaration, Declaration.layout, Layout.lines, Layout.allLines_map_line,
      Layout.setIn_zero]
    simp [Function.comp_def, arm]
  have arms : (members.map arm).filterMap (between? "  | " suffix) = members := by
    apply filterMap_between?
    intro member _
    have front : "  | " = "  " ++ "| " := by
      decide +kernel
    rw [front, String.append_assoc, String.append_assoc]
    exact setIn_one (by simp)
  have noArm : ∀ line : String, line.toList.head? ≠ some ' ' →
      between? "  | " suffix line = none := fun line other => between?_eq_none rfl other
  rw [Declaration.head, Declaration.ofLines, lines, List.filterMap_cons_none (noArm _ (by simp)),
    List.filterMap_append, arms, List.filterMap_cons_none (noArm _ (by decide)),
    List.filterMap_cons_none (noArm _ (by decide)), List.filterMap_nil, List.append_nil]

end

/-! ## Reading a catalogue -/

theorem fieldLine_ne_empty (field : ResolvedField) : fieldLine field ≠ "" := by
  simp [fieldLine]

theorem ofLines_declared {model : Model} {declaration : Declaration}
    (member : declaration ∈ declared model) (suffix : String) :
    Declaration.ofLines suffix
      (declaration.head, Layout.lines 0 (declaration.layout suffix) ++ [""]) = declaration := by
  rcases List.mem_append.1 member with isKind | isGroup
  · rcases List.mem_map.1 isKind with ⟨kind, -, rfl⟩
    refine ofLines_kind suffix kind.name ?_ kind.aliases
    rw [List.forall_mem_map]
    intro field _
    exact fieldLine_ne_empty field
  · rcases List.mem_map.1 isGroup with ⟨group, -, rfl⟩
    exact ofLines_group suffix group.1 group.2

variable {model : Model} {config : Config}

/-- What a catalogue declares is read off its text. -/
theorem declarations_render (plain : AllPlain (layout model config)) :
    declarations config (render model config) = declared model := by
  let written : Declaration → List String := fun declaration =>
    Layout.lines 0 (declaration.layout config.nodeSuffix) ++ [""]
  have spaced : Layout.allLines 0 ((declared model).flatMap fun declaration =>
      [declaration.layout config.nodeSuffix, .blank]) = (declared model).flatMap written :=
    Layout.allLines_spaced ..
  have trailer : Layout.allLines 0 (config.catalogueTrailer.map .line) =
      config.catalogueTrailer := by
    rw [Layout.allLines_map_line, List.map_congr_left fun line _ => Layout.setIn_zero line,
      List.map_id']
  have lines : Text.lines (render model config) =
      (Layout.allLines 0 preamble ++ (declared model).flatMap written) ++
        config.catalogueTrailer := by
    rw [render, Layout.lines_render plain, layout_eq, Layout.allLines_append,
      Layout.allLines_append, spaced, trailer]
  have divided : Text.sections (head? config.nodeSuffix) ((declared model).flatMap written) =
      ([], (declared model).map fun declaration => (declaration.head, written declaration)) := by
    have each : ∀ declaration ∈ declared model,
        IsSection (head? config.nodeSuffix) declaration.head (written declaration) :=
      fun declaration _ => isSection_layout config.nodeSuffix declaration
    have nothing : (Text.sections (head? config.nodeSuffix) []).1 = [] := rfl
    have sections := Text.sections_flatMap_append each nothing
    rwa [List.append_nil, Text.sections, List.append_nil] at sections
  have whole : (Text.lines (render model config)).rdrop config.catalogueTrailer.length =
      Layout.allLines 0 preamble ++ (declared model).flatMap written := by
    rw [lines, List.rdrop, List.length_append, Nat.add_sub_cancel, List.take_left]
  rw [declarations, whole, Text.sections_append_of_none (head?_preamble _), divided, List.map_map]
  exact (List.map_congr_left fun declaration member =>
    ofLines_declared member config.nodeSuffix).trans (List.map_id' _)

/-! ## Fields -/

/-- A field whose line can be divided into name, mark and type. -/
def Divisible (field : ResolvedField) : Prop :=
  ':' ∉ field.name.toList ∧ field.rendered.toList.head? ≠ some '?'

instance (field : ResolvedField) : Decidable (Divisible field) :=
  inferInstanceAs (Decidable (_ ∧ _))

/-- The parts of a field that are read off its line: the name up to the first colon, whether
it is optional, and its type. -/
def readField (line : String) : String × Bool × String :=
  let name := line.toList.takeWhile (· ≠ ':')
  match (line.toList.drop (name.length + 2)).dropLast with
  | '?' :: type => (String.ofList name, true, String.ofList type)
  | type => (String.ofList name, false, String.ofList type)

theorem readField_fieldLine {field : ResolvedField} (divisible : Divisible field) :
    readField (fieldLine field) = (field.name, field.optional, field.rendered) := by
  let type := (optionalMark field.optional ++ field.rendered).toList
  have chars : (fieldLine field).toList = field.name.toList ++ ':' :: ' ' :: (type ++ [';']) := by
    simp [fieldLine, type]
  have inside : ∀ c ∈ field.name.toList, decide (c ≠ ':') = true := by
    intro c member
    exact decide_eq_true fun colon => divisible.1 (colon ▸ member)
  have name : (fieldLine field).toList.takeWhile (· ≠ ':') = field.name.toList := by
    rw [chars, List.takeWhile_append_of_pos inside, List.takeWhile_cons_of_neg (by simp),
      List.append_nil]
  have rest : ((fieldLine field).toList.drop (field.name.toList.length + 2)).dropLast = type := by
    rw [chars, List.drop_append]
    simp
  rw [readField, name, rest]
  cases optional : field.optional with
  | true => simp [type, optional, optionalMark]
  | false =>
      have unmarked : type = field.rendered.toList := by
        simp [type, optional, optionalMark]
      rw [unmarked]
      split
      · next marked => exact absurd (congrArg List.head? marked) divisible.2
      · simp

/-- A colon in a name and one in a type look the same. -/
example :
    fieldLine { name := "a", type := .verbatim "b: c", rendered := "b: c", optional := false } =
      fieldLine { name := "a: b", type := .verbatim "c", rendered := "c", optional := false } := by
  decide

/-! ## Lines of a catalogue -/

/-- All fields are on one line each. -/
def OneLineFields (model : Model) : Prop :=
  ∀ kind ∈ model.kinds, ∀ field ∈ kind.fields, OneLine field.name ∧ OneLine field.rendered

instance (model : Model) : Decidable (OneLineFields model) :=
  inferInstanceAs (Decidable (∀ kind ∈ model.kinds, ∀ field ∈ kind.fields, _))

/-- The lines of all fields can be divided. -/
def DivisibleFields (model : Model) : Prop :=
  ∀ kind ∈ model.kinds, ∀ field ∈ kind.fields, Divisible field

/-- The texts that a declaration is made of. -/
def Declaration.texts : Declaration → List String
  | .kind name fieldLines aliases => name :: (fieldLines ++ aliases)
  | .group name members => name :: members

theorem plain_layout {declaration : Declaration} {suffix : String} (oneLine : OneLine suffix)
    (plain : ∀ text ∈ declaration.texts, OneLine text) : Plain (declaration.layout suffix) := by
  cases declaration with
  | kind name fieldLines aliases =>
      simp only [Declaration.texts, List.forall_mem_cons, List.forall_mem_append] at plain
      rcases plain with ⟨name, fields, groups⟩
      have members : AllPlain (fieldLines.map .line) := Layout.allPlain_map fields
      have comments : AllPlain ((aliases.map ("// alias: " ++ ·)).map .line) := by
        apply Layout.allPlain_map
        rw [List.forall_mem_map]
        exact fun group member => Text.oneLine_append.2 ⟨by decide, groups group member⟩
      simp only [Declaration.layout, Plain, Layout.allPlain_append, AllPlain, Text.oneLine_append,
        name, oneLine, members, comments]
      decide
  | group name members =>
      simp only [Declaration.texts, List.forall_mem_cons] at plain
      have arms : AllPlain ((members.map ("| " ++ · ++ suffix)).map .line) := by
        apply Layout.allPlain_map
        rw [List.forall_mem_map]
        intro member inGroup
        simp only [Plain, Text.oneLine_append, plain.2 member inGroup, oneLine]
        decide
      simp only [Declaration.layout, Plain, Text.oneLine_append, plain.1, oneLine, arms]
      decide

theorem allPlain_layout (suffix : OneLine config.nodeSuffix)
    (trailer : ∀ line ∈ config.catalogueTrailer, OneLine line)
    (plain : ∀ declaration ∈ declared model, ∀ text ∈ declaration.texts, OneLine text) :
    AllPlain (layout model config) := by
  have fixed : AllPlain preamble := by
    simp only [preamble, AllPlain, Plain]
    decide +kernel
  rw [layout_eq, Layout.allPlain_append, Layout.allPlain_append]
  exact ⟨⟨fixed, Layout.allPlain_spaced fun declaration member =>
      plain_layout suffix (plain declaration member)⟩, Layout.allPlain_map trailer⟩

/-! ## Equal catalogues -/

/-- What a class tells of a kind. -/
def Declaration.kind? : Declaration → Option (String × List String × List String)
  | .kind name fieldLines aliases => some (name, fieldLines, aliases)
  | .group .. => none

/-- What a union tells of a group. -/
def Declaration.group? : Declaration → Option (String × List String)
  | .kind .. => none
  | .group name members => some (name, members)

theorem filterMap_kind?_declared (model : Model) :
    (declared model).filterMap Declaration.kind? =
      model.kinds.map fun kind => (kind.name, kind.fields.map fieldLine, kind.aliases) := by
  have groups :
      (model.groups.entries.map Declaration.ofGroup).filterMap Declaration.kind? = [] := by
    rw [List.filterMap_map]
    exact List.filterMap_eq_nil_iff.2 fun _ _ => rfl
  rw [declared, List.filterMap_append, groups, List.append_nil, List.filterMap_map]
  exact List.filterMap_eq_map_iff_forall_eq_some.2 fun _ _ => rfl

theorem filterMap_group?_declared (model : Model) :
    (declared model).filterMap Declaration.group? = model.groups.entries := by
  have kinds : (model.kinds.map Declaration.ofKind).filterMap Declaration.group? = [] := by
    rw [List.filterMap_map]
    exact List.filterMap_eq_nil_iff.2 fun _ _ => rfl
  rw [declared, List.filterMap_append, kinds, List.nil_append, List.filterMap_map]
  exact (List.filterMap_eq_map_iff_forall_eq_some.2 fun _ _ => rfl).trans (List.map_id _)

/-- Models that declare the same have kinds of the same names, field lines and aliases, and
the same groups. -/
theorem declared_eq_iff {left right : Model} :
    declared left = declared right ↔
      left.kinds.map (fun kind => (kind.name, kind.fields.map fieldLine, kind.aliases)) =
          right.kinds.map (fun kind => (kind.name, kind.fields.map fieldLine, kind.aliases)) ∧
        left.groups = right.groups := by
  constructor
  · intro same
    have kinds := congrArg (List.filterMap Declaration.kind?) same
    have groups := congrArg (List.filterMap Declaration.group?) same
    rw [filterMap_kind?_declared, filterMap_kind?_declared] at kinds
    rw [filterMap_group?_declared, filterMap_group?_declared] at groups
    exact ⟨kinds, SortedMap.ext groups⟩
  · intro ⟨kinds, groups⟩
    have classes := congrArg (List.map fun parts : String × List String × List String =>
      Declaration.kind parts.1 parts.2.1 parts.2.2) kinds
    rw [List.map_map, List.map_map] at classes
    rw [declared, declared, groups]
    exact congrArg (· ++ right.groups.entries.map Declaration.ofGroup) classes

end Catalogue

namespace Registry

variable {registry : Registry} {config : Config} {model : Model}

/-- What the catalogue of a build declares has no line feed in it. -/
theorem oneLine_of_mem_declared (built : (registry.build config).outcome = .ok model)
    (fields : Catalogue.OneLineFields model) :
    ∀ declaration ∈ Catalogue.declared model, ∀ text ∈ declaration.texts, OneLine text := by
  have kinds : ∀ name ∈ model.kinds.map (·.name), OneLine name := fun name member =>
    Text.oneLine_of_isIdentifier ((named built).kind member)
  have groups : ∀ group ∈ model.groups.keys, OneLine group := fun group member =>
    Text.oneLine_of_isIdentifier ((named built).group member)
  intro declaration member
  rcases List.mem_append.1 member with isKind | isGroup
  · rcases List.mem_map.1 isKind with ⟨kind, inKinds, rfl⟩
    rw [Catalogue.Declaration.ofKind, Catalogue.Declaration.texts, List.forall_mem_cons,
      List.forall_mem_append, List.forall_mem_map]
    refine ⟨kinds _ (List.mem_map_of_mem inKinds), fun field inFields => ?_,
      fun group having => groups group (mem_groups_of_alias built inKinds having)⟩
    have mark : OneLine (Catalogue.optionalMark field.optional) := by
      cases field.optional <;> decide
    simp only [Catalogue.fieldLine, Text.oneLine_append, fields kind inKinds field inFields, mark]
    decide
  · rcases List.mem_map.1 isGroup with ⟨group, inGroups, rfl⟩
    rw [Catalogue.Declaration.ofGroup, Catalogue.Declaration.texts, List.forall_mem_cons]
    exact ⟨groups _ (List.mem_map_of_mem inGroups), fun name member =>
      kinds name (mem_kinds_of_member built inGroups member)⟩

/-- The declarations of a catalogue are read off its text: one class for each kind and then
one union for each group.  Two catalogues with one text come from models with the same
kinds, field lines, aliases and groups, and of divisible fields also the parts are the
same. -/
theorem build_catalogue_eq_iff {left right : Registry} {leftModel rightModel : Model}
    (leftBuilt : (left.build config).outcome = .ok leftModel)
    (rightBuilt : (right.build config).outcome = .ok rightModel)
    (suffix : OneLine config.nodeSuffix)
    (trailer : ∀ line ∈ config.catalogueTrailer, OneLine line)
    (leftFields : Catalogue.OneLineFields leftModel)
    (rightFields : Catalogue.OneLineFields rightModel) :
    Catalogue.declarations config (Catalogue.render leftModel config) =
        leftModel.kinds.map .ofKind ++ leftModel.groups.entries.map .ofGroup ∧
      (Catalogue.render leftModel config = Catalogue.render rightModel config ↔
        leftModel.kinds.map
              (fun kind => (kind.name, kind.fields.map Catalogue.fieldLine, kind.aliases)) =
            rightModel.kinds.map
              (fun kind => (kind.name, kind.fields.map Catalogue.fieldLine, kind.aliases)) ∧
          leftModel.groups = rightModel.groups) ∧
      (Catalogue.render leftModel config = Catalogue.render rightModel config →
        Catalogue.DivisibleFields leftModel → Catalogue.DivisibleFields rightModel →
        leftModel.kinds.map (fun kind =>
            kind.fields.map fun field => (field.name, field.optional, field.rendered)) =
          rightModel.kinds.map (fun kind =>
            kind.fields.map fun field => (field.name, field.optional, field.rendered))) := by
  have leftRead := Catalogue.declarations_render
    (Catalogue.allPlain_layout suffix trailer (oneLine_of_mem_declared leftBuilt leftFields))
  have rightRead := Catalogue.declarations_render
    (Catalogue.allPlain_layout suffix trailer (oneLine_of_mem_declared rightBuilt rightFields))
  have same : Catalogue.render leftModel config = Catalogue.render rightModel config ↔
      Catalogue.declared leftModel = Catalogue.declared rightModel := by
    constructor
    · intro equal
      rw [← leftRead, ← rightRead, equal]
    · intro equal
      rw [Catalogue.render, Catalogue.render, Catalogue.layout_eq, Catalogue.layout_eq, equal]
  rw [same, Catalogue.declared_eq_iff]
  refine ⟨leftRead, Iff.rfl, ?_⟩
  intro parts leftDivisible rightDivisible
  have read : ∀ model : Model, Catalogue.DivisibleFields model →
      model.kinds.map (fun kind =>
          kind.fields.map fun field => (field.name, field.optional, field.rendered)) =
        (model.kinds.map fun kind =>
          (kind.name, kind.fields.map Catalogue.fieldLine, kind.aliases)).map
            fun parts => parts.2.1.map Catalogue.readField := by
    intro model divisible
    rw [List.map_map]
    refine List.map_congr_left fun kind inKinds => ?_
    rw [Function.comp_apply, List.map_map]
    exact List.map_congr_left fun field inFields =>
      (Catalogue.readField_fieldLine (divisible kind inKinds field inFields)).symm
  rw [read leftModel leftDivisible, read rightModel rightDivisible, parts.1]

/-- A kind with a field that looks like an alias, in a catalogue whose last lines look like
declarations, and the same kind with its aliases in another order. -/
theorem build_catalogue_eq_iff_of_leaf :
    let fields : OrderedMap FieldSpec := { entries := [("// alias", { optional := true })] }
    let left : Registry := { kinds := { entries := [("Leaf", { fields, aliases := ["Tree"] })] } }
    let right : Registry :=
      { kinds := { entries := [("Leaf", { fields, aliases := ["Any", "Tree"] })] } }
    let config : Config :=
      { nodeSuffix := "", universalAlias := "Any"
        catalogueTrailer := ["declare class Leaf \x7b", "", "type Any = ("] }
    ∃ leftModel rightModel, (left.build config).outcome = .ok leftModel ∧
      (right.build config).outcome = .ok rightModel ∧
      Catalogue.declarations config (Catalogue.render leftModel config) =
        [.kind "Leaf" ["// alias: ?mixed;"] ["Tree", "Any"], .group "Any" ["Leaf"],
          .group "Tree" ["Leaf"]] ∧
      Catalogue.render leftModel config ≠ Catalogue.render rightModel config := by
  intro fields left right config
  have leftBuilt : (left.build config).outcome = .ok (left.resolved config) :=
    build_eq_ok_iff.2 ⟨by decide +kernel, rfl⟩
  have rightBuilt : (right.build config).outcome = .ok (right.resolved config) :=
    build_eq_ok_iff.2 ⟨by decide +kernel, rfl⟩
  have read := build_catalogue_eq_iff leftBuilt rightBuilt (by decide) (by decide)
    (by decide +kernel) (by decide +kernel)
  have declared : Catalogue.declared (left.resolved config) =
      [.kind "Leaf" ["// alias: ?mixed;"] ["Tree", "Any"], .group "Any" ["Leaf"],
        .group "Tree" ["Leaf"]] := by
    decide +kernel
  have aliases : (left.resolved config).kinds.map (·.aliases) ≠
      (right.resolved config).kinds.map (·.aliases) := by
    decide +kernel
  refine ⟨_, _, leftBuilt, rightBuilt, read.1.trans declared, fun equal => aliases ?_⟩
  have parts := congrArg (List.map fun parts : String × List String × List String => parts.2.2)
    (read.2.1.1 equal).1
  rwa [List.map_map, List.map_map] at parts

end Registry

end NodeDecl
