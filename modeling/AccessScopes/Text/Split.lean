/-!
# Pieces of a text

What the pieces between the occurrences of a character hold: characters of the text, and never the
character at which it was split. A text put together from pieces holds nothing else.
-/

namespace AccessScopes.Text

theorem mem_of_mem_splitOn {mark c : Char} {text piece : List Char} (hpiece : piece ∈ text.splitOn mark)
    (hc : c ∈ piece) : c ∈ text := by
  induction text generalizing piece with
  | nil => simp_all
  | cons d rest ih =>
    rw [List.splitOn_cons_eq_if_modifyHead] at hpiece
    split at hpiece
    · rcases List.mem_cons.1 hpiece with rfl | hrest
      · simp at hc
      · exact List.mem_cons_of_mem _ (ih hrest hc)
    · cases hsplit : rest.splitOn mark with
      | nil => simp [hsplit] at hpiece
      | cons first others =>
        rw [hsplit, List.modifyHead_cons, List.mem_cons] at hpiece
        rw [hsplit] at ih
        rcases hpiece with rfl | hothers
        · rcases List.mem_cons.1 hc with rfl | hfirst
          · exact List.mem_cons_self
          · exact List.mem_cons_of_mem _ (ih List.mem_cons_self hfirst)
        · exact List.mem_cons_of_mem _ (ih (List.mem_cons_of_mem _ hothers) hc)

theorem not_mem_of_mem_splitOn {mark : Char} {text piece : List Char} (hpiece : piece ∈ text.splitOn mark) :
    mark ∉ piece := by
  induction text generalizing piece with
  | nil => simp_all
  | cons d rest ih =>
    rw [List.splitOn_cons_eq_if_modifyHead] at hpiece
    split at hpiece
    · rcases List.mem_cons.1 hpiece with rfl | hrest
      · exact List.not_mem_nil
      · exact ih hrest
    · rename_i hne
      cases hsplit : rest.splitOn mark with
      | nil => simp [hsplit] at hpiece
      | cons first others =>
        rw [hsplit, List.modifyHead_cons, List.mem_cons] at hpiece
        rw [hsplit] at ih
        rcases hpiece with rfl | hothers
        · intro hmem
          rcases List.mem_cons.1 hmem with rfl | hfirst
          · simp at hne
          · exact ih List.mem_cons_self hfirst
        · exact ih (List.mem_cons_of_mem _ hothers)

/-- A text put together from pieces holds the mark and what the pieces hold. -/
theorem eq_or_mem_of_mem_intercalate {mark c : Char} {pieces : List (List Char)}
    (hc : c ∈ [mark].intercalate pieces) : c = mark ∨ ∃ piece ∈ pieces, c ∈ piece := by
  induction pieces with
  | nil => simp at hc
  | cons piece pieces ih =>
    cases pieces with
    | nil => exact Or.inr ⟨piece, List.mem_cons_self, by simpa using hc⟩
    | cons next pieces =>
      rw [List.intercalate_cons_cons, List.mem_append, List.mem_append, List.mem_singleton] at hc
      rcases hc with (hc | hc) | hc
      · exact Or.inr ⟨piece, List.mem_cons_self, hc⟩
      · exact Or.inl hc
      · rcases ih hc with hmark | ⟨found, hfound, hin⟩
        · exact Or.inl hmark
        · exact Or.inr ⟨found, List.mem_cons_of_mem _ hfound, hin⟩

end AccessScopes.Text
