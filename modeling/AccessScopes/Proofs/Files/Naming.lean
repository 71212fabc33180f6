import AccessScopes.Files.Path
import AccessScopes.Files.Refusal

/-!
# Places that a path can name

The path from the root spells the names on the way to a place, each after a slash. So whether the system
takes that path can be told from the names alone: none of them has a null character, and together with
their slashes they are not longer than the longest path. An address may have one slash more.
-/

namespace AccessScopes.Files

namespace Location

variable {location : Location}

/-- The system takes the path from the root that names the place. -/
def Nameable (location : Location) : Prop :=
  pathProblem? location.path = none

instance (location : Location) : Decidable location.Nameable :=
  inferInstanceAs (Decidable (pathProblem? location.path = none))

theorem path_singleton (name : String) : path [name] = "/" ++ name := by
  rw [path, String.intercalate_singleton]

theorem path_cons_cons (first second : String) (rest : Location) :
    path (first :: second :: rest) = path [first] ++ path (second :: rest) := by
  rw [path_singleton, path, path, String.intercalate_cons_cons]
  simp only [String.append_assoc]

/-- The bytes of the names on the way to a place, each with its slash. -/
def byteLength : Location → Nat
  | [] => 0
  | name :: rest => 1 + name.utf8ByteSize + byteLength rest

theorem byteLength_append (location rest : Location) :
    byteLength (location ++ rest) = byteLength location + byteLength rest := by
  induction location with
  | nil => exact (Nat.zero_add _).symm
  | cons name location ih =>
    rw [List.cons_append, byteLength, byteLength, ih]
    omega

theorem utf8ByteSize_path (hne : location ≠ []) : location.path.utf8ByteSize = location.byteLength := by
  induction location with
  | nil => exact absurd rfl hne
  | cons first rest ih =>
    have hfirst : (path [first]).utf8ByteSize = 1 + first.utf8ByteSize := by
      rw [path_singleton, String.utf8ByteSize_append]
      rfl
    cases rest with
    | nil => exact hfirst
    | cons second rest =>
      rw [path_cons_cons, String.utf8ByteSize_append, hfirst, ih (List.cons_ne_nil second rest)]
      rfl

theorem hasNull_append (text more : String) :
    Text.hasNull (text ++ more) = (Text.hasNull text || Text.hasNull more) := by
  simp [Text.hasNull]

theorem hasNull_path (location : Location) : Text.hasNull location.path = location.any Text.hasNull := by
  induction location with
  | nil => decide
  | cons first rest ih =>
    have hfirst : Text.hasNull (path [first]) = Text.hasNull first := by
      rw [path_singleton, hasNull_append]
      exact Bool.false_or _
    cases rest with
    | nil => simp [hfirst]
    | cons second rest => rw [path_cons_cons, hasNull_append, hfirst, ih, List.any_cons (l := second :: rest)]

theorem path_ne_empty (location : Location) : location.path ≠ "" := by
  intro hempty
  have hsize := congrArg String.utf8ByteSize hempty
  rw [path, String.utf8ByteSize_append] at hsize
  exact absurd hsize (by simp)

/-- Whether a path can name a place is a matter of the names on the way to it. -/
theorem nameable_iff :
    location.Nameable ↔ location.any Text.hasNull = false ∧ location.byteLength ≤ pathLimit := by
  have hsize : location.path.utf8ByteSize ≤ pathLimit ↔ location.byteLength ≤ pathLimit := by
    by_cases hroot : location = []
    · subst hroot
      decide
    · rw [utf8ByteSize_path hroot]
  rw [Nameable, pathProblem?, hasNull_path, if_neg (path_ne_empty location), ← hsize]
  cases location.any Text.hasNull <;> simp

theorem nameable_of_append {rest : Location} (hnamed : Location.Nameable (location ++ rest)) : location.Nameable := by
  obtain ⟨hnull, hsize⟩ := nameable_iff.1 hnamed
  rw [List.any_append, Bool.or_eq_false_iff] at hnull
  rw [byteLength_append] at hsize
  exact nameable_iff.2 ⟨hnull.1, by omega⟩

end Location

namespace Address

variable {address : Address}

/-- The system takes the path of the address. -/
def Nameable (address : Address) : Prop :=
  pathProblem? address.path = none

/-- The system has nothing against the address as such, whatever the files are. -/
def Tolerated (address : Address) : Prop :=
  address.Nameable ∧ address.location.getLast?.all fits = true

instance (address : Address) : Decidable address.Nameable :=
  inferInstanceAs (Decidable (pathProblem? address.path = none))

instance (address : Address) : Decidable address.Tolerated :=
  inferInstanceAs (Decidable (address.Nameable ∧ address.location.getLast?.all fits = true))

/-- The bytes of the names on the way to the place, each with its slash, and of the slash in front of them. -/
def byteLength (address : Address) : Nat :=
  (if address.doubled then 1 else 0) + address.location.byteLength

theorem hasNull_path (address : Address) : Text.hasNull address.path = address.location.any Text.hasNull := by
  rw [path, Location.hasNull_append, Location.hasNull_path]
  cases address.doubled
  · exact Bool.false_or _
  · exact Bool.false_or _

theorem path_ne_empty (address : Address) : address.path ≠ "" := by
  intro hempty
  rw [path, String.append_eq_empty_iff] at hempty
  exact Location.path_ne_empty address.location hempty.2

theorem pathLimit_lt_utf8ByteSize_iff : pathLimit < address.path.utf8ByteSize ↔ pathLimit < address.byteLength := by
  obtain ⟨location, doubled⟩ := address
  rw [path, String.utf8ByteSize_append, byteLength]
  by_cases hroot : location = []
  · subst hroot
    cases doubled <;> decide
  · rw [Location.utf8ByteSize_path hroot]
    cases doubled <;> rfl

/-- Why the system refuses the path of an address, if it does, is a matter of the names on the way to it. -/
theorem pathProblem?_path (address : Address) :
    pathProblem? address.path =
      if address.location.any Text.hasNull then some .null
      else if pathLimit < address.byteLength then some .nameTooLong else none := by
  rw [pathProblem?, hasNull_path, if_neg (path_ne_empty address)]
  simp only [pathLimit_lt_utf8ByteSize_iff]

theorem nameable_iff :
    address.Nameable ↔ address.location.any Text.hasNull = false ∧ address.byteLength ≤ pathLimit := by
  rw [Nameable, pathProblem?_path]
  cases address.location.any Text.hasNull <;> simp

/-- With one slash in front the path is the one from the root. -/
theorem nameable_mk_iff {location : Location} : Nameable { location } ↔ location.Nameable := by
  rw [nameable_iff, Location.nameable_iff, byteLength]
  simp

end Address

end AccessScopes.Files
