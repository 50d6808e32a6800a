import NodeDecl.Proofs.Schema.Merging

/-!
# What loading puts together

If all files can be read and no kind is defined twice, the registry that is loaded
holds the definitions of the files in the order in which they come.
-/

namespace NodeDecl

namespace FileTree

/-- The definitions that a file gives, none if it cannot be read or parsed. -/
def definitions (tree : FileTree) (here : List String) (path : Path) :
    List (String × KindDefinition) :=
  match tree.readText path here with
  | .error _ => []
  | .ok text =>
      match Registry.parse text path.text with
      | .error _ => []
      | .ok part => part.kinds.entries

/-- A definition that a file gives stands in a document that is a registry. -/
theorem parse_of_mem_definitions {tree : FileTree} {here : List String} {path : Path}
    {entry : String × KindDefinition} (member : entry ∈ tree.definitions here path) :
    ∃ text part, Registry.parse text path.text = .ok part ∧ entry ∈ part.kinds.entries := by
  rw [definitions] at member
  split at member
  · contradiction
  · split at member
    · contradiction
    · next parsed => exact ⟨_, _, parsed, member⟩

/-- A file in which every kind is defined once gives what it defines. -/
theorem Defines.definitions_eq {tree : FileTree} {here : List String} {file : SchemaFile}
    (defines : tree.Defines here file) (once : (file.2.map (·.1)).Nodup) :
    tree.definitions here file.1 = file.2 := by
  obtain ⟨text, read, given⟩ := defines
  obtain ⟨part, parsed, same⟩ := Registry.parse_of_definitions given once
  rw [definitions, read]
  dsimp only
  rw [parsed]
  exact same

end FileTree

namespace Registry

variable {session last : Session} {paths : List Path}

/-- A registry that has been loaded holds the definitions of its files, in order. -/
theorem entries_of_load {registry : Registry}
    (loaded : (load paths : Action (StateM Session) Registry).on session =
      (.ok registry, last)) :
    registry.kinds.entries = paths.flatMap (session.tree.definitions session.directory) := by
  obtain ⟨files, rfl, mergeable, entries⟩ := mergeable_of_load (congrArg Prod.fst loaded)
  rw [entries, List.flatMap_map]
  apply List.flatMap_congr
  intro file member
  exact ((mergeable.defines file member).definitions_eq (mergeable.once member)).symm

end Registry

end NodeDecl
