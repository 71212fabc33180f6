import AccessScopes.Files.Tree
import AccessScopes.Proofs.Files.Naming
import Mathlib.Data.List.Induction
import Mathlib.Data.List.Infix

/-!
# The nearest file of a name

The directories from a directory upwards are the places on the way to it. The search meets the longest
of them first and stops at the first file that a path can name, so what it finds is told by the texts
of the files of that name alone. Directories of the name are passed over, since they have no text.
-/

namespace AccessScopes.Files.Tree

/-- The place is the nearest directory, from a directory upwards, that has a file of the name, and the
file holds the text. Only files that a path from the root can name count. -/
structure Nearest (tree : Tree) (directory : Location) (name : String) (place : Location) (text : String) :
    Prop where
  upwards : place <+: directory
  named : Location.Nameable (place ++ [name])
  text_eq : tree.text? (place ++ [name]) = some text
  none_nearer : ∀ other, place <+: other → other <+: directory → other ≠ place →
    Location.Nameable (other ++ [name]) → tree.text? (other ++ [name]) = none

variable {tree other : Tree} {directory place : Location} {name text : String}

theorem namedText?_eq_some_iff {location : Location} :
    tree.namedText? location = some text ↔ location.Nameable ∧ tree.text? location = some text := by
  rw [namedText?, Location.Nameable]
  cases pathProblem? location.path <;> simp

theorem namedText?_eq_none_iff {location : Location} :
    tree.namedText? location = none ↔ (location.Nameable → tree.text? location = none) := by
  rw [namedText?, Location.Nameable]
  cases pathProblem? location.path <;> simp

theorem above_concat (directory : Location) (last : String) :
    above (directory ++ [last]) = directory :: above directory := by
  have hlower : ∀ length ∈ (List.range directory.length).reverse,
      (directory ++ [last]).take length = directory.take length := by
    intro length hlength
    rw [List.mem_reverse, List.mem_range] at hlength
    exact List.take_append_of_le_length (Nat.le_of_lt hlength)
  rw [above, List.length_append, List.length_singleton, List.range_succ, List.reverse_append,
    List.reverse_singleton, List.singleton_append, List.map_cons, List.take_left, List.map_congr_left hlower]
  rfl

/-- The search looks into the directory and then goes on above it. -/
theorem nearest?_concat (tree : Tree) (directory : Location) (last name : String) :
    tree.nearest? (directory ++ [last]) name =
      (tree.namedText? (directory ++ [last] ++ [name])).or (tree.nearest? directory name) := by
  rw [nearest?, above_concat, List.findSome?_cons]
  cases tree.namedText? (directory ++ [last] ++ [name]) <;> rfl

theorem nearest?_nil (tree : Tree) (name : String) : tree.nearest? [] name = tree.namedText? ([] ++ [name]) := by
  rw [nearest?, List.findSome?_cons]
  cases tree.namedText? ([] ++ [name]) <;> rfl

/-- The search finds the text of the file in the nearest directory that has one. -/
theorem nearest?_eq_some_iff :
    tree.nearest? directory name = some text ↔ ∃ place, tree.Nearest directory name place text := by
  induction directory using List.reverseRecOn with
  | nil =>
    rw [nearest?_nil, namedText?_eq_some_iff]
    constructor
    · intro h
      refine ⟨[], List.prefix_refl [], h.1, h.2, ?_⟩
      intro other _ hother hne
      exact absurd (List.prefix_nil.1 hother) hne
    · intro h
      obtain ⟨place, hnearest⟩ := h
      have hroot := List.prefix_nil.1 hnearest.upwards
      subst hroot
      exact ⟨hnearest.named, hnearest.text_eq⟩
  | append_singleton directory last ih =>
    rw [nearest?_concat, Option.or_eq_some_iff, namedText?_eq_some_iff, namedText?_eq_none_iff, ih]
    constructor
    · intro h
      rcases h with ⟨hnamed, htext⟩ | ⟨hnone, place, hnearest⟩
      · refine ⟨directory ++ [last], List.prefix_refl _, hnamed, htext, ?_⟩
        intro other habove hbelow hne
        exact absurd (hbelow.eq_of_length_le habove.length_le) hne
      · refine ⟨place, hnearest.upwards.trans (List.prefix_append _ _), hnearest.named, hnearest.text_eq, ?_⟩
        intro other habove hbelow hne
        rcases List.prefix_concat_iff.1 hbelow with heq | hupwards
        · rw [heq]
          exact hnone
        · exact hnearest.none_nearer other habove hupwards hne
    · intro h
      obtain ⟨place, hnearest⟩ := h
      rcases List.prefix_concat_iff.1 hnearest.upwards with heq | hupwards
      · subst heq
        exact Or.inl ⟨hnearest.named, hnearest.text_eq⟩
      · have hne : directory ++ [last] ≠ place := by
          intro heq
          have hlength := hupwards.length_le
          rw [← heq, List.length_append, List.length_singleton] at hlength
          omega
        refine Or.inr ⟨hnearest.none_nearer _ hnearest.upwards (List.prefix_refl _) hne, place, hupwards,
          hnearest.named, hnearest.text_eq, ?_⟩
        intro other habove hbelow hother
        exact hnearest.none_nearer other habove (hbelow.trans (List.prefix_append _ _)) hother

theorem Nearest.nearest?_eq (hnearest : tree.Nearest directory name place text) :
    tree.nearest? directory name = some text :=
  nearest?_eq_some_iff.2 ⟨place, hnearest⟩

theorem nearest?_eq_none_iff :
    tree.nearest? directory name = none ↔ ∀ place text, ¬ tree.Nearest directory name place text := by
  rw [Option.eq_none_iff_forall_not_mem]
  constructor
  · intro hnone place text hnearest
    exact hnone text hnearest.nearest?_eq
  · intro hnone text hsome
    obtain ⟨place, hnearest⟩ := nearest?_eq_some_iff.1 hsome
    exact hnone place text hnearest

/-- The search depends on the texts of the files of the name alone. -/
theorem nearest?_congr (htext : ∀ place, other.text? (place ++ [name]) = tree.text? (place ++ [name]))
    (directory : Location) : other.nearest? directory name = tree.nearest? directory name := by
  have hnamed : ∀ place, other.namedText? (place ++ [name]) = tree.namedText? (place ++ [name]) := by
    intro place
    rw [namedText?, namedText?, htext]
  rw [nearest?, nearest?]
  exact congrArg (fun find => List.findSome? find (directory :: above directory)) (funext hnamed)

/-- A tree of directories has no texts. -/
theorem text?_ofDirectory (directory place : Location) : (ofDirectory directory).text? place = none := by
  have hnode : ∀ node, (ofDirectory directory).nodes.get? place = some node → node = .directory := by
    intro node hget
    have hmem := Table.mem_of_mem_ofList (Table.get?_eq_some_iff.1 hget)
    obtain ⟨_, -, hpair⟩ := List.mem_map.1 hmem
    cases hpair
    rfl
  rw [text?, node?]
  split
  · rename_i text htext
    split at htext
    · cases htext
    · cases hnode _ htext
  · rfl

end AccessScopes.Files.Tree
