/-!
# Maps in order of names

A finite map from names whose bindings are listed in increasing order of names,
so equal maps have equal lists of bindings. Names are compared by code points.
-/

namespace NodeDecl

variable {α β : Type}

/-- Bind a name in a list of bindings in increasing order of names. -/
def insertSorted (entries : List (String × α)) (key : String) (value : α) :
    List (String × α) :=
  match entries with
  | [] => [(key, value)]
  | entry :: rest =>
      if key < entry.1 then (key, value) :: entry :: rest
      else if key = entry.1 then (key, value) :: rest
      else entry :: insertSorted rest key value

/-- The names after binding one are that name and the names before. -/
theorem mem_keys_insertSorted (entries : List (String × α)) (key : String) (value : α)
    (name : String) :
    name ∈ (insertSorted entries key value).map (·.1) ↔
      name = key ∨ name ∈ entries.map (·.1) := by
  induction entries with
  | nil => simp [insertSorted]
  | cons entry rest ih =>
    rw [insertSorted]
    split
    · simp
    · split
      · next equal => simp [equal]
      · rw [List.map_cons, List.mem_cons, ih, List.map_cons, List.mem_cons]
        exact ⟨fun member => by rcases member with h | h | h <;> simp [h],
          fun member => by rcases member with h | h | h <;> simp [h]⟩

/-- Binding a name keeps increasing order. -/
theorem insertSorted_sorted (entries : List (String × α)) (key : String) (value : α)
    (sorted : (entries.map (·.1)).Pairwise (· < ·)) :
    ((insertSorted entries key value).map (·.1)).Pairwise (· < ·) := by
  induction entries with
  | nil => simp [insertSorted]
  | cons entry rest ih =>
    rw [List.map_cons, List.pairwise_cons] at sorted
    rw [insertSorted]
    split
    · next before =>
      rw [List.map_cons, List.map_cons, List.pairwise_cons, List.pairwise_cons]
      refine ⟨fun name member => ?_, sorted⟩
      rcases List.mem_cons.1 member with equal | member
      · exact equal ▸ before
      · exact String.lt_trans before (sorted.1 name member)
    · next notBefore =>
      split
      · next equal =>
        rw [List.map_cons, List.pairwise_cons]
        exact ⟨fun name member => equal ▸ sorted.1 name member, sorted.2⟩
      · next differ =>
        rw [List.map_cons, List.pairwise_cons]
        refine ⟨fun name member => ?_, ih sorted.2⟩
        rcases (mem_keys_insertSorted rest key value name).1 member with equal | member
        · subst equal
          exact Decidable.byContradiction fun notAfter =>
            differ (String.le_antisymm (String.not_lt.1 notAfter) (String.not_lt.1 notBefore))
        · exact sorted.1 name member

/-- A map from names to values, listed in increasing order of names. -/
structure SortedMap (α : Type) where
  entries : List (String × α) := []
  keys_sorted : (entries.map (·.1)).Pairwise (· < ·) := by simp
deriving DecidableEq, Repr

namespace SortedMap

instance : EmptyCollection (SortedMap α) := ⟨{}⟩

instance : Inhabited (SortedMap α) := ⟨∅⟩

/-- The names, in increasing order. -/
def keys (map : SortedMap α) : List String :=
  map.entries.map (·.1)

/-- The number of names. -/
def size (map : SortedMap α) : Nat :=
  map.entries.length

/-- The value of a name. -/
def get? (map : SortedMap α) (key : String) : Option α :=
  map.entries.lookup key

/-- Bind a name; an earlier binding of it is replaced. -/
def insert (map : SortedMap α) (key : String) (value : α) : SortedMap α where
  entries := insertSorted map.entries key value
  keys_sorted := insertSorted_sorted map.entries key value map.keys_sorted

/-- The map of some bindings; the last binding of a name counts. -/
def ofList (entries : List (String × α)) : SortedMap α :=
  entries.foldl (fun map entry => map.insert entry.1 entry.2) ∅

end SortedMap

/-- Some names in increasing order with one more in its place, unless it is there. -/
def insertName (names : List String) (name : String) : List String :=
  (insertSorted (names.map fun other => (other, ())) name ()).map (·.1)

theorem mem_insertName {names : List String} {name other : String} :
    other ∈ insertName names name ↔ other = name ∨ other ∈ names := by
  simp [insertName, mem_keys_insertSorted]

/-- Putting a name in its place keeps increasing order. -/
theorem insertName_increasing {names : List String} (name : String)
    (increasing : names.Pairwise (· < ·)) : (insertName names name).Pairwise (· < ·) := by
  apply insertSorted_sorted
  rw [List.map_map]
  exact (List.map_id names).symm ▸ increasing

/-- Some names in increasing order, each of them once. -/
def sortedNames (names : List String) : List String :=
  (SortedMap.ofList (names.map fun name => (name, ()))).keys

end NodeDecl
