import NodeDecl.Json.Printer
import NodeDecl.Json.Reader

/-!
# Spacing

The two ways of writing a value put the same tokens in the same order and differ in
the blanks between them only.  A spacing says where blanks go, and `Value.written` is
the text of a value with any spacing.  What is shown of it holds of both ways of writing.
-/

namespace NodeDecl.Json

/-! ## Blanks and delimiters -/

/-- A text without any token. -/
def Blank (text : List Char) : Prop :=
  ∀ c ∈ text, isBlank c = true

/-- A character that may stand behind a value. -/
def isDelimiter (c : Char) : Bool :=
  isBlank c || c = ',' || c = ']' || c = '}'

/-- A text that may stand behind a value. -/
def Delimited (text : List Char) : Prop :=
  ∀ c behind, text = c :: behind → isDelimiter c = true

/-- A text that a value may begin with. -/
def Opens (text : List Char) : Prop :=
  ∃ c behind, text = c :: behind ∧ isDelimiter c = false

theorem blank_nil : Blank [] := by
  simp [Blank]

theorem delimited_nil : Delimited [] := by
  simp [Delimited]

theorem delimited_cons {c : Char} (delimiter : isDelimiter c = true) (behind : List Char) :
    Delimited (c :: behind) := by
  intro _ _ equal
  cases equal
  exact delimiter

theorem opens_cons {c : Char} (opens : isDelimiter c = false) (behind : List Char) :
    Opens (c :: behind) :=
  ⟨c, behind, rfl, opens⟩

/-- A gap with a delimiter behind it. -/
theorem Blank.delimited {gap : List Char} (blank : Blank gap) {c : Char}
    (delimiter : isDelimiter c = true) (behind : List Char) : Delimited (gap ++ c :: behind) := by
  cases gap with
  | nil => exact delimited_cons delimiter behind
  | cons first rest =>
      apply delimited_cons
      rw [isDelimiter, blank first List.mem_cons_self]
      rfl

/-- Nothing but blanks may stand behind a value. -/
theorem Blank.toDelimited {gap : List Char} (blank : Blank gap) : Delimited gap := by
  rintro c behind rfl
  rw [isDelimiter, blank c List.mem_cons_self]
  rfl

/-- Blanks in front are dropped. -/
theorem dropBlank_append {gap : List Char} (blank : Blank gap) (text : List Char) :
    dropBlank (gap ++ text) = dropBlank text := by
  rw [dropBlank, List.dropWhile_append_of_pos blank, dropBlank]

/-- Where no blank is in front, none is dropped. -/
theorem dropBlank_cons {c : Char} (token : isBlank c = false) (behind : List Char) :
    dropBlank (c :: behind) = c :: behind := by
  rw [dropBlank, List.dropWhile_cons_of_neg (by simp [token])]

theorem isBlank_of_opens {c : Char} (opens : isDelimiter c = false) : isBlank c = false := by
  rw [isDelimiter, Bool.or_assoc, Bool.or_assoc, Bool.or_eq_false_iff] at opens
  exact opens.1

/-! ## Where blanks go -/

/-- Where blanks go when a value is written. -/
structure Spacing where
  /-- The blanks in front of an item, a member or a closing bracket, by level. -/
  gap : Nat → List Char
  /-- The blanks behind the colon of a member. -/
  afterColon : List Char
  gap_blank : ∀ level, Blank (gap level)
  afterColon_blank : Blank afterColon

/-- The spacing without any blank. -/
def Spacing.compact : Spacing where
  gap _ := []
  afterColon := []
  gap_blank _ := blank_nil
  afterColon_blank := blank_nil

/-- The spacing with every item and member on a line of its own. -/
def Spacing.pretty : Spacing where
  gap := Value.freshLine
  afterColon := [' ']
  gap_blank level := by
    intro c member
    simp only [Value.freshLine, List.mem_cons, List.mem_replicate] at member
    rcases member with rfl | ⟨-, rfl⟩
    · rfl
    · rfl
  afterColon_blank := by simp [Blank, isBlank]

/-- Texts with commas between them, each behind a gap. -/
def separated (gap : List Char) : List (List Char) → List Char
  | [] => []
  | [part] => gap ++ part
  | part :: next :: rest => gap ++ part ++ ',' :: separated gap (next :: rest)

/-- Texts and the bracket that closes them.  The bracket has a gap of its own, unless
there is nothing to close. -/
def closed (closing : Char) (inner outer : List Char) : List (List Char) → List Char
  | [] => [closing]
  | part :: rest => separated inner (part :: rest) ++ outer ++ [closing]

/-- What stands behind the first of some texts, up to a bracket and beyond. -/
def followed (closing : Char) (inner outer behind : List Char) :
    List (List Char) → List Char
  | [] => outer ++ closing :: behind
  | part :: rest => ',' :: (inner ++ (part ++ followed closing inner outer behind rest))

/-- The first of some texts, and what stands behind it. -/
theorem closed_cons_append (closing : Char) (inner outer behind part : List Char)
    (rest : List (List Char)) :
    closed closing inner outer (part :: rest) ++ behind =
      inner ++ (part ++ followed closing inner outer behind rest) := by
  rw [closed]
  induction rest generalizing part with
  | nil => simp [separated, followed]
  | cons next rest ih =>
      rw [separated, followed, ← ih next]
      simp

namespace Spacing

variable (spacing : Spacing)

/-- The text of a list from the texts of its items. -/
def list (level : Nat) (items : List (List Char)) : List Char :=
  '[' :: closed ']' (spacing.gap (level + 1)) (spacing.gap level) items

/-- The text of a member from the text of its value. -/
def member (key : String) (value : List Char) : List Char :=
  quote key ++ ':' :: (spacing.afterColon ++ value)

/-- The text of an object from its keys and the texts of its values. -/
def object (level : Nat) (members : List (String × List Char)) : List Char :=
  '{' :: closed '}' (spacing.gap (level + 1)) (spacing.gap level)
    (members.map fun (key, value) => spacing.member key value)

end Spacing

namespace Value

mutual

/-- The text of a value at a level of nesting. -/
def written (spacing : Spacing) (level : Nat) : Value → List Char
  | .array items => spacing.list level (writtenItems spacing (level + 1) items)
  | .object members => spacing.object level (writtenMembers spacing (level + 1) members)
  | scalar => scalar.compact

/-- The texts of some items. -/
def writtenItems (spacing : Spacing) (level : Nat) : List Value → List (List Char)
  | [] => []
  | item :: rest => item.written spacing level :: writtenItems spacing level rest

/-- The texts of the values of some members. -/
def writtenMembers (spacing : Spacing) (level : Nat) :
    List (String × Value) → List (String × List Char)
  | [] => []
  | (key, value) :: rest =>
      (key, value.written spacing level) :: writtenMembers spacing level rest

end

variable (spacing : Spacing) (level : Nat)

/-- An array is written item by item. -/
theorem written_array (items : List Value) :
    (array items).written spacing level =
      spacing.list level (items.map (written spacing (level + 1))) := by
  have texts : ∀ items, writtenItems spacing (level + 1) items =
      items.map (written spacing (level + 1)) := by
    intro items
    induction items with
    | nil => rfl
    | cons item rest ih => rw [writtenItems, ih, List.map_cons]
  rw [written, texts]

/-- An object is written member by member. -/
theorem written_object (members : List (String × Value)) :
    (object members).written spacing level =
      spacing.object level
        (members.map fun (key, value) => (key, value.written spacing (level + 1))) := by
  have texts : ∀ members, writtenMembers spacing (level + 1) members =
      members.map fun (key, value) => (key, value.written spacing (level + 1)) := by
    intro members
    induction members with
    | nil => rfl
    | cons member rest ih => rw [writtenMembers, ih, List.map_cons]
  rw [written, texts]

/-! ## The two ways of writing -/

mutual

/-- The compact text is the one without any blank. -/
theorem compact_eq_written (level : Nat) : ∀ value : Value,
    value.compact = value.written .compact level
  | .null | .bool _ | .number _ | .string _ | .array [] | .object [] => rfl
  | .array (item :: rest) => by
      rw [compact, compactItems_eq_separated (level + 1) (item :: rest), written,
        writtenItems, Spacing.list, closed]
      simp [Spacing.compact]
  | .object ((key, value) :: rest) => by
      rw [compact, compactMembers_eq_separated (level + 1) ((key, value) :: rest), written,
        writtenMembers, Spacing.object, List.map_cons, closed]
      simp [Spacing.compact]

theorem compactItems_eq_separated (level : Nat) : ∀ items : List Value,
    compactItems items = separated [] (writtenItems .compact level items)
  | [] => rfl
  | [item] => by
      rw [compactItems, compact_eq_written level item]
      rfl
  | item :: next :: rest => by
      rw [compactItems, compact_eq_written level item,
        compactItems_eq_separated level (next :: rest)]
      rfl

theorem compactMembers_eq_separated (level : Nat) : ∀ members : List (String × Value),
    compactMembers members =
      separated [] ((writtenMembers .compact level members).map
        fun (key, value) => Spacing.compact.member key value)
  | [] => rfl
  | [(key, value)] => by
      rw [compactMembers, compact_eq_written level value]
      simp [writtenMembers, separated, Spacing.member, Spacing.compact]
  | (key, value) :: next :: rest => by
      rw [compactMembers, compact_eq_written level value,
        compactMembers_eq_separated level (next :: rest)]
      simp [writtenMembers, separated, Spacing.member, Spacing.compact]

end

mutual

/-- The pretty text is the one with items and members on lines of their own. -/
theorem prettyAt_eq_written (level : Nat) : ∀ value : Value,
    value.prettyAt level = value.written .pretty level
  | .null | .bool true | .bool false | .number _ | .string _ | .array [] | .object [] => rfl
  | .array (item :: rest) => by
      rw [prettyAt, prettyItems_eq_separated (level + 1) (item :: rest)]
      rfl
  | .object ((key, value) :: rest) => by
      rw [prettyAt, prettyMembers_eq_separated (level + 1) ((key, value) :: rest)]
      rfl

theorem prettyItems_eq_separated (level : Nat) : ∀ items : List Value,
    prettyItems level items =
      separated (freshLine level) (writtenItems .pretty level items)
  | [] => rfl
  | [item] => by
      rw [prettyItems, prettyAt_eq_written level item]
      rfl
  | item :: next :: rest => by
      rw [prettyItems, prettyAt_eq_written level item,
        prettyItems_eq_separated level (next :: rest)]
      rfl

theorem prettyMembers_eq_separated (level : Nat) : ∀ members : List (String × Value),
    prettyMembers level members =
      separated (freshLine level) ((writtenMembers .pretty level members).map
        fun (key, value) => Spacing.pretty.member key value)
  | [] => rfl
  | [(key, value)] => by
      rw [prettyMembers, prettyAt_eq_written level value]
      simp [writtenMembers, separated, Spacing.member, Spacing.pretty]
  | (key, value) :: next :: rest => by
      rw [prettyMembers, prettyAt_eq_written level value,
        prettyMembers_eq_separated level (next :: rest)]
      simp [writtenMembers, separated, Spacing.member, Spacing.pretty]

end

end Value

end NodeDecl.Json
