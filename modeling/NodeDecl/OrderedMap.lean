/-!
# Maps in order of insertion

A finite map from names that remembers the order in which its names first came.
Binding a name again changes its value and leaves its place.
-/

namespace NodeDecl

/-- Bind a name in a list of bindings: in its old place if it is there, at the end
if it is new. -/
def upsert {α : Type} (entries : List (String × α)) (key : String) (value : α) :
    List (String × α) :=
  match entries with
  | [] => [(key, value)]
  | entry :: rest =>
      if entry.1 = key then (key, value) :: rest else entry :: upsert rest key value

variable {α β : Type}

/-- Binding a name adds it behind the others, unless it is there. -/
theorem upsert_keys (entries : List (String × α)) (key : String) (value : α) :
    (upsert entries key value).map (·.1) =
      if key ∈ entries.map (·.1) then entries.map (·.1) else entries.map (·.1) ++ [key] := by
  induction entries with
  | nil => simp [upsert]
  | cons entry rest ih =>
    by_cases same : entry.1 = key
    · simp [upsert, same]
    · have other : ¬ key = entry.1 := fun equal => same equal.symm
      rw [upsert, if_neg same, List.map_cons, ih]
      by_cases member : key ∈ rest.map (·.1)
      · simp [member]
      · simp [member, other]

/-- A map from names to values with an order of its names. -/
structure OrderedMap (α : Type) where
  entries : List (String × α) := []
  keys_nodup : (entries.map (·.1)).Nodup := by simp
deriving DecidableEq, Repr

namespace OrderedMap

instance : EmptyCollection (OrderedMap α) := ⟨{}⟩

instance : Inhabited (OrderedMap α) := ⟨∅⟩

/-- The names, in order. -/
def keys (map : OrderedMap α) : List String :=
  map.entries.map (·.1)

/-- The number of names. -/
def size (map : OrderedMap α) : Nat :=
  map.entries.length

/-- The value of a name. -/
def get? (map : OrderedMap α) (key : String) : Option α :=
  map.entries.lookup key

/-- Whether a name is bound. -/
def contains (map : OrderedMap α) (key : String) : Bool :=
  map.keys.contains key

/-- Bind a name: in its old place if it is bound already, at the end if not. -/
def insert (map : OrderedMap α) (key : String) (value : α) : OrderedMap α where
  entries := upsert map.entries key value
  keys_nodup := by
    rw [upsert_keys]
    split
    · exact map.keys_nodup
    · next absent =>
      refine List.nodup_append.2 ⟨map.keys_nodup, by simp, fun name member other single => ?_⟩
      rw [List.mem_singleton.1 single]
      exact fun equal => absent (equal ▸ member)

/-- The map of some bindings, read from the front. -/
def ofList (entries : List (String × α)) : OrderedMap α :=
  entries.foldl (fun map entry => map.insert entry.1 entry.2) ∅

end OrderedMap

end NodeDecl
