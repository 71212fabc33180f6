import AccessScopes.Proofs.Table.Entries
import AccessScopes.Proofs.Text.Pieces
import AccessScopes.Scope.Params

/-!
# The effective values of parameters

Which value a text of parameters gives to a key, said of the text alone: the pieces between `&` are
looked at, a piece counts if its first two pieces between `=` are non-empty, and the last piece that
counts for a key gives the value. The main statement is that looking a key up in the parameters
that were read finds exactly its effective value.
-/

namespace AccessScopes.Params

open Text

/-- A piece of the text that counts, with the key and the value it gives. -/
def Gives (pair key value : List Char) : Prop :=
  key ≠ [] ∧ value ≠ [] ∧ ∃ rest, Pieces '=' pair (key :: value :: rest)

/-- The last piece that counts for the key gives it the value. -/
def Effective (raw key value : List Char) : Prop :=
  ∃ earlier pair later, Pieces '&' raw (earlier ++ pair :: later) ∧ Gives pair key value ∧
    ∀ other ∈ later, ∀ overriding, ¬ Gives other key overriding

theorem pair?_eq_some_iff {pair : List Char} {key value : String} :
    pair? pair = some (key, value) ↔ Gives pair key.toList value.toList := by
  unfold pair? Gives
  simp only [pieces_iff]
  constructor
  · intro hpair
    split at hpair
    · rename_i first second rest hsplit
      split at hpair
      · simp at hpair
      · rename_i hne
        rw [not_or] at hne
        cases hpair
        simp only [String.toList_ofList]
        exact ⟨hne.1, hne.2, rest, hsplit⟩
    · simp at hpair
  · intro h
    obtain ⟨hkey, hvalue, rest, hsplit⟩ := h
    simp only [hsplit, hkey, hvalue, or_self, if_false, String.ofList_toList]

theorem not_gives_of_filterMap {pieces : List (List Char)} {key : String}
    (hfree : ∀ entry ∈ pieces.filterMap pair?, entry.1 ≠ key) :
    ∀ piece ∈ pieces, ∀ value, ¬ Gives piece key.toList value := by
  intro piece hpiece value hgives
  have hpair : pair? piece = some (key, .ofList value) := by
    rw [pair?_eq_some_iff, String.toList_ofList]
    exact hgives
  exact hfree _ (List.mem_filterMap.2 ⟨piece, hpiece, hpair⟩) rfl

/-- Looking up a key finds its effective value, and nothing if it has none. -/
theorem get?_parse_eq_some_iff {raw : List Char} {key value : String} :
    (parse raw).get? key = some value ↔ Effective raw key.toList value.toList := by
  unfold parse pairs Effective
  simp only [pieces_iff]
  rw [Table.get?_ofList_eq_some_iff]
  constructor
  · intro h
    obtain ⟨before, after, hentries, hafter⟩ := h
    obtain ⟨earlier, rest, hsplit, -, hrest⟩ := List.filterMap_eq_append_iff.1 hentries
    obtain ⟨ignored, pair, later, rfl, -, hpair, hlater⟩ := List.filterMap_eq_cons_iff.1 hrest
    refine ⟨earlier ++ ignored, pair, later, by simpa using hsplit, pair?_eq_some_iff.1 hpair, ?_⟩
    rw [← hlater] at hafter
    exact not_gives_of_filterMap hafter
  · intro h
    obtain ⟨earlier, pair, later, hsplit, hgives, hlater⟩ := h
    refine ⟨earlier.filterMap pair?, later.filterMap pair?, ?_, ?_⟩
    · rw [hsplit, List.filterMap_append, List.filterMap_cons_some (pair?_eq_some_iff.2 hgives)]
    · intro entry hentry hkey
      obtain ⟨other, hother, hpair⟩ := List.mem_filterMap.1 hentry
      obtain ⟨_, overriding⟩ := entry
      cases hkey
      exact hlater other hother overriding.toList (pair?_eq_some_iff.1 hpair)

end AccessScopes.Params
