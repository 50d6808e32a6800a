import Mathlib.Data.List.Nodup
import NodeDecl.OrderedMap
import NodeDecl.SortedMap

/-!
# Look-up in maps

Both kinds of maps are lists of bindings with distinct names, and for such lists
looking up a name is the same as membership.  What inserting a binding does to
look-up, to the names and to the order of entries follows from that.
-/

namespace NodeDecl

variable {α β : Type}

/-! ## Bindings with distinct names -/

/-- Look-up at the first binding. -/
theorem lookup_cons_eq_ite (key name : String) (value : α) (rest : List (String × α)) :
    ((name, value) :: rest).lookup key = if key = name then some value else rest.lookup key := by
  by_cases same : key = name
  · simp [same]
  · have other : (key == name) = false := by simpa using same
    rw [List.lookup_cons, other, if_neg same]

/-- With distinct names, a name has the values that it is bound to. -/
theorem lookup_eq_some_iff_mem {entries : List (String × α)} {key : String} {value : α}
    (nodup : (entries.map (·.1)).Nodup) :
    entries.lookup key = some value ↔ (key, value) ∈ entries := by
  induction entries with
  | nil => simp
  | cons entry rest ih =>
      rcases entry with ⟨name, bound⟩
      rw [List.map_cons, List.nodup_cons] at nodup
      rw [lookup_cons_eq_ite, List.mem_cons]
      by_cases same : key = name
      · subst same
        have absent : (key, value) ∉ rest := by
          intro member
          exact nodup.1 (List.mem_map.2 ⟨_, member, rfl⟩)
        simp [absent, eq_comm]
      · simp [same, ih nodup.2]

/-- A name without a binding has no value. -/
theorem lookup_eq_none_iff_not_mem {entries : List (String × α)} {key : String} :
    entries.lookup key = none ↔ key ∉ entries.map (·.1) := by
  simp only [List.lookup_eq_none_iff, List.mem_map, not_exists, not_and]
  constructor
  · intro differ entry member equal
    exact absurd (differ entry member) (by simp [equal])
  · intro absent entry member
    have other : entry.1 ≠ key := absent entry member
    simpa using fun equal => other equal.symm

/-- A name that has a value is bound. -/
theorem mem_of_lookup_eq_some {entries : List (String × α)} {key : String} {value : α}
    (found : entries.lookup key = some value) : (key, value) ∈ entries := by
  rcases List.lookup_eq_some_iff.1 found with ⟨before, after, equal, -⟩
  rw [equal]
  simp

namespace OrderedMap

variable {map left right : OrderedMap α} {key name : String} {value : α}

/-- Maps with the same entries in the same order are equal. -/
theorem ext (equal : left.entries = right.entries) : left = right := by
  cases left
  cases right
  congr

theorem get?_eq_some_iff : map.get? key = some value ↔ (key, value) ∈ map.entries :=
  lookup_eq_some_iff_mem map.keys_nodup

theorem get?_eq_none_iff : map.get? key = none ↔ key ∉ map.keys :=
  lookup_eq_none_iff_not_mem

@[simp] theorem contains_iff : map.contains key = true ↔ key ∈ map.keys := by
  simp [contains]

/-- A name is bound if it has a value. -/
theorem contains_eq_isSome : map.contains key = (map.get? key).isSome := by
  rw [Bool.eq_iff_iff, contains_iff, Option.isSome_iff_ne_none, ne_eq, get?_eq_none_iff,
    Decidable.not_not]

theorem mem_keys_iff : key ∈ map.keys ↔ ∃ value, (key, value) ∈ map.entries := by
  simp [keys]

theorem mem_keys_of_mem (member : (key, value) ∈ map.entries) : key ∈ map.keys :=
  mem_keys_iff.2 ⟨value, member⟩

@[simp] theorem entries_empty : (∅ : OrderedMap α).entries = [] := rfl

/-- A new name is bound behind all others. -/
theorem entries_insert_of_not_mem (absent : key ∉ map.keys) :
    (map.insert key value).entries = map.entries ++ [(key, value)] := by
  have general : ∀ entries : List (String × α), key ∉ entries.map (·.1) →
      upsert entries key value = entries ++ [(key, value)] := by
    intro entries
    induction entries with
    | nil =>
        intro _
        rfl
    | cons entry rest ih =>
        intro fresh
        simp only [List.map_cons, List.mem_cons, not_or] at fresh
        rw [upsert, if_neg (fun equal => fresh.1 equal.symm), ih fresh.2, List.cons_append]
  exact general map.entries absent

theorem keys_insert_of_not_mem (absent : key ∉ map.keys) :
    (map.insert key value).keys = map.keys ++ [key] := by
  simp only [keys, entries_insert_of_not_mem absent, List.map_append, List.map_cons,
    List.map_nil]

/-- Binding a name keeps or replaces each binding. -/
theorem mem_entries_insert {entry : String × α}
    (member : entry ∈ (map.insert key value).entries) :
    entry = (key, value) ∨ entry ∈ map.entries := by
  have general : ∀ entries : List (String × α), entry ∈ upsert entries key value →
      entry = (key, value) ∨ entry ∈ entries := by
    intro entries
    induction entries with
    | nil => simp [upsert]
    | cons first rest ih =>
        intro member
        rw [upsert] at member
        split at member
        · rcases List.mem_cons.1 member with equal | later
          · exact .inl equal
          · exact .inr (List.mem_cons_of_mem _ later)
        · rcases List.mem_cons.1 member with equal | later
          · exact .inr (equal ▸ List.mem_cons_self)
          · exact (ih later).imp_right (List.mem_cons_of_mem _)
  exact general map.entries member

/-- Maps in which every name has the same value differ at most in order. -/
theorem perm_of_get?_eq (equal : ∀ name, left.get? name = right.get? name) :
    left.entries.Perm right.entries := by
  have leftNodup : left.entries.Nodup := List.Nodup.of_map _ left.keys_nodup
  have rightNodup : right.entries.Nodup := List.Nodup.of_map _ right.keys_nodup
  apply (List.perm_ext_iff_of_nodup leftNodup rightNodup).2
  intro ⟨name, value⟩
  rw [← get?_eq_some_iff, ← get?_eq_some_iff, equal]

end OrderedMap

/-! ## Sorted bindings -/

/-- Names in strictly increasing order are distinct. -/
theorem nodup_of_increasing {names : List String} (increasing : names.Pairwise (· < ·)) :
    names.Nodup := by
  apply increasing.imp
  intro left right before equal
  exact String.lt_irrefl right (equal ▸ before)

/-- A list has at most one order in which everything is before what follows it. -/
theorem eq_of_perm_of_asymm {before : α → α → Prop} {left right : List α}
    (leftOrdered : left.Pairwise before) (rightOrdered : right.Pairwise before)
    (perm : left.Perm right) (asymm : ∀ a b, before a b → ¬ before b a) : left = right := by
  apply List.Perm.eq_of_pairwise _ leftOrdered rightOrdered perm
  intro a b _ _ ahead behind
  exact absurd behind (asymm a b ahead)

/-- Two lists of names in strictly increasing order with the same members are equal. -/
theorem eq_of_increasing {left right : List String} (leftIncreasing : left.Pairwise (· < ·))
    (rightIncreasing : right.Pairwise (· < ·)) (same : ∀ name, name ∈ left ↔ name ∈ right) :
    left = right := by
  have perm : left.Perm right :=
    (List.perm_ext_iff_of_nodup (nodup_of_increasing leftIncreasing)
      (nodup_of_increasing rightIncreasing)).2 same
  apply eq_of_perm_of_asymm leftIncreasing rightIncreasing perm
  intro a b before
  exact String.lt_asymm before

theorem lookup_insertSorted (entries : List (String × α)) (key name : String) (value : α) :
    (insertSorted entries key value).lookup name =
      if name = key then some value else entries.lookup name := by
  induction entries with
  | nil => rw [insertSorted, lookup_cons_eq_ite]
  | cons entry rest ih =>
      rcases entry with ⟨bound, old⟩
      rw [insertSorted]
      split
      · rw [lookup_cons_eq_ite]
      · split
        · next equal =>
          rw [lookup_cons_eq_ite, lookup_cons_eq_ite, equal]
          split <;> simp_all
        · next differ =>
          rw [lookup_cons_eq_ite, ih, lookup_cons_eq_ite]
          by_cases same : name = bound
          · have other : bound ≠ key := fun equal => differ equal.symm
            simp [same, other]
          · simp [same]

/-- Looking a name up behind taking a name away. -/
theorem lookup_filter_ne (entries : List (String × α)) (key name : String) :
    (entries.filter fun entry => entry.1 ≠ key).lookup name =
      if name = key then none else entries.lookup name := by
  induction entries with
  | nil => simp
  | cons entry rest ih =>
      rcases entry with ⟨bound, value⟩
      rw [lookup_cons_eq_ite]
      by_cases taken : bound = key
      · rw [List.filter_cons_of_neg (by simp [taken]), ih]
        split
        · rfl
        · next differ => rw [if_neg (taken ▸ differ)]
      · rw [List.filter_cons_of_pos (by simp [taken]), lookup_cons_eq_ite, ih]
        split
        · next same => rw [if_neg (same ▸ taken)]
        · rfl

namespace SortedMap

variable {map left right : SortedMap α} {key name : String} {value : α}

/-- Maps with the same entries are equal. -/
theorem ext (equal : left.entries = right.entries) : left = right := by
  cases left
  cases right
  congr

/-- Look-up after binding a name. -/
@[simp] theorem get?_insert :
    (map.insert key value).get? name = if name = key then some value else map.get? name :=
  lookup_insertSorted map.entries key name value

theorem get?_eq_none_iff : map.get? key = none ↔ key ∉ map.keys :=
  lookup_eq_none_iff_not_mem

theorem mem_keys_iff : key ∈ map.keys ↔ ∃ value, map.get? key = some value := by
  rw [← Option.ne_none_iff_exists', ne_eq, get?_eq_none_iff, Decidable.not_not]

/-- A map that is filled from a function of the names. -/
theorem get?_ofList_map (names : List String) (image : String → α) (name : String) :
    (ofList (names.map fun name => (name, image name))).get? name =
      if name ∈ names then some (image name) else none := by
  have general : ∀ (names : List String) (start : SortedMap α),
      ((names.map fun name => (name, image name)).foldl
        (fun map entry => map.insert entry.1 entry.2) start).get? name =
        if name ∈ names then some (image name) else start.get? name := by
    intro names
    induction names with
    | nil => simp
    | cons first rest ih =>
        intro start
        rw [List.map_cons, List.foldl_cons, ih]
        by_cases later : name ∈ rest
        · simp [later]
        · by_cases same : name = first
          · simp [same]
          · simp [later, same]
  exact general names ∅

theorem keys_nodup (map : SortedMap α) : map.keys.Nodup :=
  nodup_of_increasing map.keys_sorted

theorem get?_eq_some_iff : map.get? key = some value ↔ (key, value) ∈ map.entries :=
  lookup_eq_some_iff_mem map.keys_nodup

/-- Maps in which every name has the same value are equal. -/
theorem eq_of_get?_eq (equal : ∀ name, left.get? name = right.get? name) : left = right := by
  have perm : left.entries.Perm right.entries := by
    apply (List.perm_ext_iff_of_nodup (List.Nodup.of_map _ left.keys_nodup)
      (List.Nodup.of_map _ right.keys_nodup)).2
    intro ⟨name, value⟩
    rw [← get?_eq_some_iff, ← get?_eq_some_iff, equal]
  apply ext
  exact eq_of_perm_of_asymm (List.pairwise_map.1 left.keys_sorted)
    (List.pairwise_map.1 right.keys_sorted) perm fun _ _ => String.lt_asymm

/-- A map of bindings with distinct names. -/
theorem get?_ofList {entries : List (String × α)} (distinct : (entries.map (·.1)).Nodup)
    (name : String) : (ofList entries).get? name = entries.lookup name := by
  have general : ∀ (entries : List (String × α)) (start : SortedMap α),
      (entries.map (·.1)).Nodup →
      (entries.foldl (fun map entry => map.insert entry.1 entry.2) start).get? name =
        (entries.lookup name).or (start.get? name) := by
    intro entries
    induction entries with
    | nil =>
        intro start _
        rfl
    | cons entry rest ih =>
        intro start distinct
        rw [List.map_cons, List.nodup_cons] at distinct
        rw [List.foldl_cons, ih _ distinct.2, get?_insert, lookup_cons_eq_ite]
        by_cases same : name = entry.1
        · rw [if_pos same, if_pos same, same, lookup_eq_none_iff_not_mem.2 distinct.1]
          rfl
        · rw [if_neg same, if_neg same]
  rw [ofList, general entries ∅ distinct]
  exact Option.or_none

/-- The bindings of a map, in any order, make the map again. -/
theorem ofList_of_perm {entries : List (String × α)} (perm : entries.Perm map.entries) :
    ofList entries = map := by
  have distinct : (entries.map (·.1)).Nodup := (perm.map _).nodup_iff.2 map.keys_nodup
  apply eq_of_get?_eq
  intro name
  apply Option.ext
  intro value
  rw [get?_ofList distinct, lookup_eq_some_iff_mem distinct, get?_eq_some_iff, perm.mem_iff]

end SortedMap

theorem mem_sortedNames {names : List String} {name : String} :
    name ∈ sortedNames names ↔ name ∈ names := by
  rw [sortedNames, SortedMap.mem_keys_iff, SortedMap.get?_ofList_map names fun _ => ()]
  by_cases member : name ∈ names
  · simp [member]
  · simp [member]

theorem sortedNames_increasing (names : List String) : (sortedNames names).Pairwise (· < ·) :=
  SortedMap.keys_sorted _

theorem sortedNames_nodup (names : List String) : (sortedNames names).Nodup :=
  SortedMap.keys_nodup _

end NodeDecl
