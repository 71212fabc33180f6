import AccessScopes.Files.Walk
import AccessScopes.Proofs.Files.Nearest

/-!
# What stands in the way of a log file

A log file is opened by the path from the root that names its place. The system looks at the path first, then at
the directories on the way from the root, then at the last name and in the end at what lies in the place. The first
of them that is wrong decides the refusal, so an opening that is refused tells what stood in the way, and each
obstacle is told by the names on the way and by what the tree holds there.
-/

namespace AccessScopes.Files

variable {tree : Tree} {address : Address} {place stop : Location} {refusal : Refusal}

/-- On the way to the place there is a first place that is no directory, and so nothing holds the place. -/
structure Tree.Gap (tree : Tree) (place stop : Location) : Prop where
  on_way : stop <+: place
  before : stop ≠ place
  no_directory : tree.isDirectory stop = false
  first : ∀ other, other <+: stop → other ≠ stop → tree.isDirectory other = true
  not_held : tree.isDirectory place.dropLast = false

/-- What the system objects to first when a file is opened at the address. -/
inductive Tree.Obstacle (tree : Tree) (address : Address) : Refusal → Prop
  | null (hnull : address.location.any Text.hasNull = true) : Obstacle tree address .null
  | longPath (hnull : address.location.any Text.hasNull = false) (hlong : pathLimit < address.byteLength) :
      Obstacle tree address .nameTooLong
  | missing (stop : Location) (hnameable : address.Nameable) (hgap : tree.Gap address.location stop)
      (hnone : tree.node? stop = none) (hfits : stop.getLast?.all fits = true) : Obstacle tree address .missing
  | longNameOnWay (stop : Location) (hnameable : address.Nameable) (hgap : tree.Gap address.location stop)
      (hnone : tree.node? stop = none) (hlong : stop.getLast?.all fits = false) : Obstacle tree address .nameTooLong
  | fileOnWay (stop : Location) (text : String) (hnameable : address.Nameable) (hgap : tree.Gap address.location stop)
      (htext : tree.text? stop = some text) : Obstacle tree address .notDirectory
  | longName (hnameable : address.Nameable) (hheld : tree.isDirectory address.location.dropLast = true)
      (hlong : address.location.getLast?.all fits = false) : Obstacle tree address .nameTooLong
  | directory (hnameable : address.Nameable) (hheld : tree.isDirectory address.location.dropLast = true)
      (hfits : address.location.getLast?.all fits = true) (htaken : tree.isDirectory address.location = true) :
      Obstacle tree address .isDirectory

/-! ### The way -/

theorem Tree.directoryProblem?_eq_none_iff : tree.directoryProblem? place = none ↔ tree.isDirectory place = true := by
  rw [directoryProblem?, isDirectory, decide_eq_true_iff]
  cases tree.node? place with
  | none => simp
  | some node => cases node <;> simp

theorem mem_places_iff : stop ∈ place :: above place ↔ stop <+: place := by
  induction place using List.reverseRecOn with
  | nil => simp [above]
  | append_singleton place last ih =>
    rw [Tree.above_concat, List.mem_cons, ih, List.prefix_concat_iff]

/-- The search from the root meets the first place that is no directory. -/
theorem Tree.findSome?_places_eq_some_iff :
    (place :: above place).reverse.findSome? tree.directoryProblem? = some refusal ↔
      ∃ stop, stop <+: place ∧ tree.directoryProblem? stop = some refusal ∧
        ∀ other, other <+: stop → other ≠ stop → tree.isDirectory other = true := by
  induction place using List.reverseRecOn with
  | nil =>
    refine iff_of_false (by simp [above, directoryProblem?, node?]) ?_
    intro h
    obtain ⟨stop, hstop, hproblem, -⟩ := h
    rw [List.prefix_nil.1 hstop] at hproblem
    cases hproblem
  | append_singleton place last ih =>
    -- The search comes from the root, so it looks at the place itself after everything above it.
    rw [List.reverse_cons, above_concat, List.findSome?_append, Option.or_eq_some_iff, ih, List.findSome?_eq_none_iff]
    constructor
    · intro h
      rcases h with ⟨stop, hstop, hproblem, hfirst⟩ | ⟨hnone, hlast⟩
      · exact ⟨stop, hstop.trans (List.prefix_append _ _), hproblem, hfirst⟩
      · refine ⟨place ++ [last], List.prefix_refl _, by simpa using hlast, ?_⟩
        intro other hother hne
        have habove := (List.prefix_concat_iff.1 hother).resolve_left hne
        exact directoryProblem?_eq_none_iff.1 (hnone other (List.mem_reverse.2 (mem_places_iff.2 habove)))
    · intro h
      obtain ⟨stop, hstop, hproblem, hfirst⟩ := h
      rcases List.prefix_concat_iff.1 hstop with rfl | habove
      · refine Or.inr ⟨?_, by simpa using hproblem⟩
        intro other hother
        have hway := mem_places_iff.1 (List.mem_reverse.1 hother)
        refine directoryProblem?_eq_none_iff.2 (hfirst other (hway.trans (List.prefix_append _ _)) ?_)
        rintro rfl
        have hlength := hway.length_le
        rw [List.length_append, List.length_singleton] at hlength
        omega
      · exact Or.inl ⟨stop, habove, hproblem, hfirst⟩

theorem Tree.gap_concat_iff {directory : Location} {last : String} (hheld : tree.isDirectory directory = false)
    (hproblem : tree.directoryProblem? stop = some refusal) :
    tree.Gap (directory ++ [last]) stop ↔
      stop <+: directory ∧ ∀ other, other <+: stop → other ≠ stop → tree.isDirectory other = true := by
  constructor
  · intro hgap
    exact ⟨(List.prefix_concat_iff.1 hgap.on_way).resolve_left hgap.before, hgap.first⟩
  · intro h
    obtain ⟨hstop, hfirst⟩ := h
    refine ⟨hstop.trans (List.prefix_append _ _), ?_, ?_, hfirst, by rw [List.dropLast_concat, hheld]⟩
    · rintro rfl
      have hlength := hstop.length_le
      rw [List.length_append, List.length_singleton] at hlength
      omega
    · rw [← Bool.not_eq_true, ← directoryProblem?_eq_none_iff, hproblem]
      exact Option.some_ne_none refusal

/-- Where no directory holds a place, the first gap on the way to it decides the refusal. -/
theorem Tree.parentProblem?_eq_some_iff :
    tree.parentProblem? place = some refusal ↔ ∃ stop, tree.Gap place stop ∧ tree.directoryProblem? stop = some refusal := by
  cases hheld : tree.isDirectory place.dropLast with
  | true =>
    rw [parentProblem?_eq_none_iff.2 hheld]
    refine iff_of_false (by simp) ?_
    intro h
    obtain ⟨stop, hgap, -⟩ := h
    exact absurd (hgap.not_held.symm.trans hheld) (by decide)
  | false =>
    obtain ⟨directory, last, rfl⟩ : ∃ directory last, place = directory ++ [last] := by
      rcases place.eq_nil_or_concat' with rfl | hconcat
      · cases hheld
      · exact hconcat
    rw [List.dropLast_concat] at hheld
    have hsearch : ((directory :: above directory).reverse.findSome? tree.directoryProblem?).isSome = true := by
      rw [List.findSome?_isSome_iff]
      refine ⟨directory, List.mem_reverse.2 List.mem_cons_self, ?_⟩
      rw [Option.isSome_iff_ne_none, Ne, directoryProblem?_eq_none_iff, hheld]
      decide
    obtain ⟨found, hfound⟩ := Option.isSome_iff_exists.1 hsearch
    have hparent : tree.parentProblem? (directory ++ [last]) = some found := by
      rw [parentProblem?, List.dropLast_concat, hheld, above_concat, hfound]
      rfl
    rw [hparent, ← hfound, findSome?_places_eq_some_iff]
    apply exists_congr
    intro stop
    constructor
    · intro h
      obtain ⟨hstop, hproblem, hfirst⟩ := h
      exact ⟨(gap_concat_iff hheld hproblem).2 ⟨hstop, hfirst⟩, hproblem⟩
    · intro h
      obtain ⟨hgap, hproblem⟩ := h
      obtain ⟨hstop, hfirst⟩ := (gap_concat_iff hheld hproblem).1 hgap
      exact ⟨hstop, hproblem, hfirst⟩

/-! ### Openings that are refused -/

theorem Tree.directoryProblem?_of_node?_eq_none (hnone : tree.node? stop = none) :
    tree.directoryProblem? stop = some (if stop.getLast?.all fits then .missing else .nameTooLong) := by
  rw [directoryProblem?, hnone]

theorem Tree.directoryProblem?_of_text? {text : String} (htext : tree.text? stop = some text) :
    tree.directoryProblem? stop = some .notDirectory := by
  rw [text?] at htext
  split at htext
  · rename_i hnode
    rw [directoryProblem?, hnode]
  · cases htext

theorem Tree.obstacle_of_gap (hnameable : address.Nameable) (hgap : tree.Gap address.location stop)
    (hproblem : tree.directoryProblem? stop = some refusal) : tree.Obstacle address refusal := by
  cases hnode : tree.node? stop with
  | none =>
    rw [directoryProblem?_of_node?_eq_none hnode] at hproblem
    cases hproblem
    cases hfits : stop.getLast?.all fits with
    | true => exact .missing stop hnameable hgap hnode hfits
    | false => exact .longNameOnWay stop hnameable hgap hnode hfits
  | some node =>
    rw [directoryProblem?, hnode] at hproblem
    cases node with
    | directory => cases hproblem
    | file text =>
      cases hproblem
      exact .fileOnWay stop text hnameable hgap (by rw [text?, hnode])

/-- The path and the way are looked at before the place. -/
theorem Tree.touchAt_of_nameable (hnameable : address.Nameable) : tree.touchAt address = tree.touch address.location := by
  rw [Address.Nameable] at hnameable
  rw [touchAt, hnameable]

theorem Tree.touchAt_of_gap (hnameable : address.Nameable) (hgap : tree.Gap address.location stop)
    (hproblem : tree.directoryProblem? stop = some refusal) : tree.touchAt address = .error refusal := by
  rw [touchAt_of_nameable hnameable, touch, write, problem?, parentProblem?_eq_some_iff.2 ⟨stop, hgap, hproblem⟩]
  rfl

theorem Tree.touchAt_of_held (hnameable : address.Nameable) (hheld : tree.isDirectory address.location.dropLast = true) :
    tree.touchAt address =
      if address.location.getLast?.all fits then
        if tree.isDirectory address.location then .error .isDirectory else .ok (tree.withFile address.location)
      else .error .nameTooLong := by
  rw [touchAt_of_nameable hnameable, touch, write, problem?, parentProblem?_eq_none_iff.2 hheld]
  cases address.location.getLast?.all fits with
  | false => rfl
  | true => cases tree.isDirectory address.location <;> rfl

theorem Tree.obstacle_of_unnameable (hunnameable : ¬ address.Nameable) (htouch : tree.touchAt address = .error refusal) :
    tree.Obstacle address refusal := by
  rw [Address.Nameable, Address.pathProblem?_path] at hunnameable
  rw [touchAt, Address.pathProblem?_path] at htouch
  cases hnull : address.location.any Text.hasNull with
  | true =>
    rw [hnull] at htouch
    cases htouch
    exact .null hnull
  | false =>
    rw [hnull] at htouch hunnameable
    by_cases hlong : pathLimit < address.byteLength
    · rw [if_neg (by decide), if_pos hlong] at htouch
      cases htouch
      exact .longPath hnull hlong
    · rw [if_neg (by decide), if_neg hlong] at hunnameable
      exact absurd rfl hunnameable

theorem Tree.obstacle_of_held (hnameable : address.Nameable) (hheld : tree.isDirectory address.location.dropLast = true)
    (htouch : tree.touchAt address = .error refusal) : tree.Obstacle address refusal := by
  rw [touchAt_of_held hnameable hheld] at htouch
  split at htouch
  · rename_i hfits
    split at htouch
    · rename_i htaken
      cases htouch
      exact .directory hnameable hheld hfits htaken
    · cases htouch
  · rename_i hlong
    cases htouch
    exact .longName hnameable hheld (Bool.eq_false_iff.2 hlong)

theorem Tree.obstacle_of_touchAt (htouch : tree.touchAt address = .error refusal) : tree.Obstacle address refusal := by
  by_cases hnameable : address.Nameable
  · cases hheld : tree.isDirectory address.location.dropLast with
    | true => exact obstacle_of_held hnameable hheld htouch
    | false =>
      have hparent : tree.parentProblem? address.location ≠ none := by
        rw [Ne, parentProblem?_eq_none_iff, hheld]
        decide
      obtain ⟨problem, hproblem⟩ := Option.ne_none_iff_exists'.1 hparent
      obtain ⟨stop, hgap, hstop⟩ := parentProblem?_eq_some_iff.1 hproblem
      rw [touchAt_of_gap hnameable hgap hstop] at htouch
      cases htouch
      exact obstacle_of_gap hnameable hgap hstop
  · exact obstacle_of_unnameable hnameable htouch

theorem Tree.Obstacle.touchAt_eq (hobstacle : tree.Obstacle address refusal) : tree.touchAt address = .error refusal := by
  cases hobstacle with
  | null hnull => rw [touchAt, Address.pathProblem?_path, if_pos hnull]
  | longPath hnull hlong => rw [touchAt, Address.pathProblem?_path, hnull, if_neg (by decide), if_pos hlong]
  | missing stop hnameable hgap hnone hfits =>
    refine touchAt_of_gap hnameable hgap ?_
    rw [directoryProblem?_of_node?_eq_none hnone, if_pos hfits]
  | longNameOnWay stop hnameable hgap hnone hlong =>
    refine touchAt_of_gap hnameable hgap ?_
    rw [directoryProblem?_of_node?_eq_none hnone, hlong]
    rfl
  | fileOnWay stop text hnameable hgap htext =>
    exact touchAt_of_gap hnameable hgap (directoryProblem?_of_text? htext)
  | longName hnameable hheld hlong =>
    rw [touchAt_of_held hnameable hheld, hlong]
    rfl
  | directory hnameable hheld hfits htaken => rw [touchAt_of_held hnameable hheld, if_pos hfits, if_pos htaken]

/-- Opening a log file is refused exactly for what stands in the way. -/
theorem Tree.touchAt_eq_error_iff : tree.touchAt address = .error refusal ↔ tree.Obstacle address refusal :=
  ⟨obstacle_of_touchAt, Obstacle.touchAt_eq⟩

end AccessScopes.Files
