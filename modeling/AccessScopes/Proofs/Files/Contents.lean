import AccessScopes.Files.Walk
import AccessScopes.Proofs.Files.Naming

/-!
# What files hold after a change

Each change of a tree told by what the files hold after it. A file that is not there holds nothing, so
making sure that a file is there and making a directory change no contents at all. The rest of the
proofs knows the changes through these statements alone.
-/

namespace AccessScopes.Files.Tree

/-- The text of the file at a place, and nothing if no file is there. -/
def content (tree : Tree) (location : Location) : String :=
  (tree.text? location).getD ""

variable {tree after : Tree} {location other : Location} {address : Address} {text : String}

theorem isFile_iff : tree.isFile location = true ↔ ∃ text, tree.text? location = some text :=
  Option.isSome_iff_exists

theorem text?_eq_content (hfile : tree.isFile location = true) : tree.text? location = some (tree.content location) := by
  obtain ⟨text, htext⟩ := isFile_iff.1 hfile
  rw [content, htext]
  rfl

theorem isFile_congr (htext : after.text? other = tree.text? other) : after.isFile other = tree.isFile other := by
  rw [isFile, isFile, htext]

theorem content_congr (htext : after.text? other = tree.text? other) : after.content other = tree.content other := by
  rw [content, content, htext]

/-! ### Log files -/

/-- A log file can be made sure of exactly where a directory holds its place and no directory is in it. -/
theorem touchAt_iff :
    tree.touchAt address = .ok after ↔
      address.Tolerated ∧ tree.isDirectory address.location.dropLast = true ∧
        tree.isDirectory address.location = false ∧ after = tree.withFile address.location := by
  rw [touchAt_eq_ok_iff, touch_eq_ok_iff, Address.Tolerated]
  constructor
  · intro h
    obtain ⟨hnamed, hheld, hfits, hfree, hafter⟩ := h
    exact ⟨⟨hnamed, hfits⟩, hheld, hfree, hafter⟩
  · intro h
    obtain ⟨⟨hnamed, hfits⟩, hheld, hfree, hafter⟩ := h
    exact ⟨hnamed, hheld, hfits, hfree, hafter⟩

theorem withFile_of_isFile (hfile : tree.isFile location = true) : tree.withFile location = tree :=
  if_pos hfile

theorem ne_nil_of_not_isDirectory (hfree : tree.isDirectory location = false) : location ≠ [] := by
  rintro rfl
  cases hfree

theorem text?_touchAt (htouch : tree.touchAt address = .ok after) (other : Location) :
    after.text? other = if other = address.location then some (tree.content address.location) else tree.text? other := by
  obtain ⟨-, -, hfree, rfl⟩ := touchAt_iff.1 htouch
  exact text?_withFile (ne_nil_of_not_isDirectory hfree) other

theorem content_touchAt (htouch : tree.touchAt address = .ok after) (other : Location) :
    after.content other = tree.content other := by
  rw [content, text?_touchAt htouch]
  split
  · rename_i hother
    rw [hother]
    rfl
  · rfl

theorem isFile_touchAt (htouch : tree.touchAt address = .ok after) : after.isFile address.location = true := by
  rw [isFile, text?_touchAt htouch, if_pos rfl]
  rfl

theorem isFile_of_touchAt (htouch : tree.touchAt address = .ok after) (hfile : tree.isFile other = true) :
    after.isFile other = true := by
  by_cases hother : other = address.location
  · rw [hother]
    exact isFile_touchAt htouch
  · rw [isFile, text?_touchAt htouch, if_neg hother]
    exact hfile

/-! ### Directories -/

/-- Where a file is written no directory was, and none is there afterwards. -/
theorem isDirectory_put_file (hne : location ≠ []) (hfree : tree.isDirectory location = false) (text : String)
    (other : Location) : (tree.put location (.file text)).isDirectory other = tree.isDirectory other := by
  rw [isDirectory, node?_put hne]
  by_cases hother : other = location
  · rw [if_pos hother, hother, hfree]
    exact decide_eq_false (by simp)
  · rw [if_neg hother, isDirectory]

theorem isDirectory_of_text? (htext : tree.text? location = some text) : tree.isDirectory location = false := by
  rw [isDirectory, decide_eq_false_iff_not]
  intro hnode
  rw [text?, hnode] at htext
  cases htext

theorem isDirectory_append (tree : Tree) (location : Location) (text : String) (other : Location) :
    (tree.append location text).isDirectory other = tree.isDirectory other := by
  unfold append
  split
  · rfl
  · rename_i htext
    exact isDirectory_put_file (ne_nil_of_text? htext) (isDirectory_of_text? htext) _ other

theorem isDirectory_withFile (hfree : tree.isDirectory location = false) (other : Location) :
    (tree.withFile location).isDirectory other = tree.isDirectory other := by
  unfold withFile
  split
  · rfl
  · exact isDirectory_put_file (ne_nil_of_not_isDirectory hfree) hfree _ other

theorem isDirectory_touchAt (htouch : tree.touchAt address = .ok after) (other : Location) :
    after.isDirectory other = tree.isDirectory other := by
  obtain ⟨-, -, hfree, rfl⟩ := touchAt_iff.1 htouch
  exact isDirectory_withFile hfree other

theorem text?_makeDirectory (hmake : tree.makeDirectory location = .ok after) (other : Location) :
    after.text? other = tree.text? other := by
  unfold makeDirectory at hmake
  split at hmake
  · cases hmake
  · rename_i hnode
    split at hmake
    · cases hmake
    · cases hmake
      have hne : location ≠ [] := by
        intro hroot
        rw [hroot] at hnode
        cases hnode
      rw [text?, text?, node?_put hne]
      by_cases hother : other = location
      · rw [if_pos hother, hother, hnode]
      · rw [if_neg hother]

theorem text?_makeDirectoryAt {directory : Location} {path : String}
    (hmake : tree.makeDirectoryAt directory path = .ok after) (other : Location) :
    after.text? other = tree.text? other := by
  unfold makeDirectoryAt at hmake
  split at hmake
  · cases hmake
  · exact text?_makeDirectory hmake other

/-! ### What is there, and since when -/

theorem exists?_congr (hnode : after.node? address.location = tree.node? address.location) :
    after.exists? address = tree.exists? address := by
  rw [exists?, exists?, hnode]

theorem exists?_append (tree : Tree) (location : Location) (text : String) (address : Address) :
    (tree.append location text).exists? address = tree.exists? address := by
  unfold append
  split
  · rfl
  · rename_i before hbefore
    have hne := ne_nil_of_text? hbefore
    by_cases hother : address.location = location
    · have hnode : (tree.node? location).isSome = true := by
        rw [text?] at hbefore
        cases hnode : tree.node? location with
        | none =>
          rw [hnode] at hbefore
          cases hbefore
        | some node => rfl
      rw [exists?, exists?, node?_put hne, if_pos hother, hother, hnode]
      rfl
    · exact exists?_congr (by rw [node?_put hne, if_neg hother])

theorem node?_withFile_of_ne (hne : location ≠ []) (hother : other ≠ location) :
    (tree.withFile location).node? other = tree.node? other := by
  unfold withFile
  split
  · rfl
  · rw [node?_put hne, if_neg hother]

/-- What is written counts as written today. -/
theorem lastDay?_append (hfile : tree.isFile location = true) (text : String) :
    (tree.append location text).lastDay? location = none := by
  obtain ⟨before, hbefore⟩ := isFile_iff.1 hfile
  have haged : (tree.put location (.file (before ++ text))).aged.get? location = none := by
    rw [put, Table.get?_erase, if_pos rfl]
  rw [append, hbefore, lastDay?, haged, ite_self]

theorem isFile_of_lastDay? {day : CalendarDay} (hday : tree.lastDay? location = some day) :
    tree.isFile location = true := by
  unfold lastDay? at hday
  split at hday
  · assumption
  · cases hday

/-! ### Writing and removing -/

theorem node?_erase_of_ne (hother : other ≠ location) : (tree.erase location).node? other = tree.node? other := by
  by_cases hroot : other = []
  · simp [node?, hroot]
  · simp [node?, erase, hroot, Table.get?_erase, hother]

theorem text?_erase_of_ne (hother : other ≠ location) : (tree.erase location).text? other = tree.text? other := by
  rw [text?, text?, node?_erase_of_ne hother]

theorem remove_eq_ok_iff :
    tree.remove location = .ok after ↔ tree.isFile location = true ∧ after = tree.erase location := by
  unfold remove isFile text?
  cases tree.node? location with
  | none => simp
  | some node => cases node <;> simp [eq_comm]

theorem text?_remove (hremove : tree.remove location = .ok after) (hother : other ≠ location) :
    after.text? other = tree.text? other := by
  obtain ⟨-, rfl⟩ := remove_eq_ok_iff.1 hremove
  exact text?_erase_of_ne hother

/-- Writing at a path changes at most the file that the path names. -/
theorem writeAt_cases {directory : Location} {path : String} (hwrite : tree.writeAt directory path text = .ok after) :
    ∃ location slashed, tree.entry directory path .isDirectory = .ok (location, slashed) ∧
      ∀ other, other ≠ location → after.text? other = tree.text? other := by
  unfold writeAt at hwrite
  split at hwrite
  · cases hwrite
  · rename_i location slashed hentry
    split at hwrite
    · cases hwrite
    · refine ⟨location, slashed, hentry, ?_⟩
      intro other hother
      rw [text?_write hwrite, if_neg hother]

/-- Removing at a path changes at most the file that the path names, which is the one reported. -/
theorem removeAt_cases {directory : Location} {path : String}
    (hremove : tree.removeAt directory path = .ok (location, after)) :
    (∃ slashed, tree.entry directory path .isDirectory = .ok (location, slashed)) ∧
      ∀ other, other ≠ location → after.text? other = tree.text? other := by
  unfold removeAt at hremove
  split at hremove
  · cases hremove
  · rename_i place slashed hentry
    split at hremove
    · cases hremove
    · cases hplace : tree.remove place with
      | error refusal =>
        rw [hplace] at hremove
        cases hremove
      | ok rest =>
        rw [hplace] at hremove
        cases hremove
        exact ⟨⟨slashed, hentry⟩, fun other hother => text?_remove hplace hother⟩

end AccessScopes.Files.Tree
