/-!
# Paths

A path is kept as the text in which it was given, because that is how it is shown
again. Its segments are the parts between slashes; its components leave out the
segments that lead nowhere, and paths are ordered by them.
-/

namespace NodeDecl

/-- A path, as a text. -/
structure Path where
  text : String
deriving DecidableEq, Repr, Inhabited

/-- The parts of a text between slashes, of which there is always at least one. -/
def splitSlash : List Char → List (List Char)
  | [] => [[]]
  | c :: rest =>
      if c = '/' then [] :: splitSlash rest
      else
        match splitSlash rest with
        | [] => [[c]]
        | segment :: others => (c :: segment) :: others

theorem splitSlash_ne_nil (text : List Char) : splitSlash text ≠ [] := by
  cases text with
  | nil => simp [splitSlash]
  | cons c rest =>
      rw [splitSlash]
      split
      · simp
      · split <;> simp

/-- A text without slashes is one part. -/
theorem splitSlash_of_not_mem {text : List Char} (plain : '/' ∉ text) :
    splitSlash text = [text] := by
  induction text with
  | nil => rfl
  | cons c rest ih =>
      rw [List.mem_cons, not_or] at plain
      rw [splitSlash, if_neg (Ne.symm plain.1), ih plain.2]

/-- The parts of a text are those in front of a slash and those behind it. -/
theorem splitSlash_append (front back : List Char) :
    splitSlash (front ++ '/' :: back) = splitSlash front ++ splitSlash back := by
  induction front with
  | nil => rfl
  | cons c rest ih =>
      rw [List.cons_append, splitSlash, splitSlash, ih]
      split
      · rfl
      · cases parts : splitSlash rest with
        | nil => exact absurd parts (splitSlash_ne_nil rest)
        | cons segment others => rfl

/-- Parts with slashes between them. -/
def joinSlash : List (List Char) → List Char
  | [] => []
  | [segment] => segment
  | segment :: next :: rest => segment ++ '/' :: joinSlash (next :: rest)

/-- What one component of a path says. Their order is the order of paths. -/
inductive Component where
  | root
  | current
  | parent
  | name (text : String)
deriving DecidableEq, Repr

namespace Component

/-- The place of the special components before all names. -/
def rank : Component → Nat
  | .root => 0
  | .current => 1
  | .parent => 2
  | .name _ => 3

/-- Whether a component comes before another one. -/
def precedes : Component → Component → Bool
  | .name left, .name right => left < right
  | left, right => left.rank < right.rank

end Component

/-- Whether some components do not come after others, compared from the front. -/
def componentsLE : List Component → List Component → Bool
  | [], _ => true
  | _ :: _, [] => false
  | left :: lefts, right :: rights =>
      left.precedes right || (!right.precedes left && componentsLE lefts rights)

namespace Path

/-- The parts of a path between slashes. -/
def segments (path : Path) : List (List Char) :=
  splitSlash path.text.toList

/-- Whether a path starts at the root. -/
def isAbsolute (path : Path) : Bool :=
  path.text.toList.head? = some '/'

/-- The place that a path starts from: the root, or else the current directory. -/
def origin (path : Path) (here : List String) : List String :=
  if path.isAbsolute then [] else here

/-- The component that a segment stands for behind the front of a path. -/
def component? : List Char → Option Component
  | [] => none
  | ['.'] => none
  | ['.', '.'] => some .parent
  | segment => some (.name (String.ofList segment))

/-- The components of a path. A single dot counts only at the front. -/
def components (path : Path) : List Component :=
  match path.segments with
  | [] => []
  | front :: rest =>
      let first :=
        if path.isAbsolute then some .root
        else if front = ['.'] then some .current
        else component? front
      first.toList ++ rest.filterMap component?

/-- The order of paths. -/
def le (left right : Path) : Bool :=
  componentsLE left.components right.components

/-- The path that another one denotes when it starts at this one. -/
def join (path other : Path) : Path :=
  if other.isAbsolute || path.text.isEmpty then other
  else if path.text.toList.getLast? = some '/' then ⟨path.text ++ other.text⟩
  else ⟨path.text ++ "/" ++ other.text⟩

/-- Whether a segment leads nowhere. -/
def isIdle (segment : List Char) : Bool :=
  segment = [] || segment = ['.']

/-- The segments without those at the end that lead nowhere. The front of a path is
always kept. -/
def dropIdle : List (List Char) → List (List Char)
  | [] => []
  | front :: rest => front :: (rest.reverse.dropWhile isIdle).reverse

/-- The path without its last component, or `none` for the root and the empty
path. -/
def parent? (path : Path) : Option Path :=
  match dropIdle path.segments with
  | [] | [[]] => none
  | [_] => some ⟨""⟩
  | front :: rest =>
      match dropIdle (front :: rest.dropLast) with
      | [[]] => some ⟨"/"⟩
      | kept => some ⟨String.ofList (joinSlash kept)⟩

/-- The current directory. -/
def current : Path :=
  ⟨"."⟩

/-- The directory that a file stands in. -/
def directory (path : Path) : Path :=
  match path.parent? with
  | some parent => if parent.text.isEmpty then current else parent
  | none => current

end Path

end NodeDecl
