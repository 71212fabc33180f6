import AccessScopes.Text.Split

/-!
# Pieces of a text, put together again

The pieces of a text between the occurrences of a character, and the part of a text after the first
occurrence and before the next. Both are said by how the text is put together from them, without a
scan. A text has exactly one list of pieces, so splitting returns that list and no other.
-/

namespace AccessScopes.Text

/-- The pieces hold no `mark`, and joined by it they are the text. -/
structure Pieces (mark : Char) (text : List Char) (pieces : List (List Char)) : Prop where
  ne_nil : pieces ≠ []
  free : ∀ piece ∈ pieces, mark ∉ piece
  joined : [mark].intercalate pieces = text

/-- The part stands after the first `mark` of the text and runs to the next one or to the end. -/
def AfterFirst (mark : Char) (text part : List Char) : Prop :=
  ∃ before after, text = before ++ mark :: (part ++ after) ∧ mark ∉ before ∧ mark ∉ part ∧
    (after = [] ∨ after.head? = some mark)

variable {mark : Char} {text part : List Char} {pieces : List (List Char)}

theorem pieces_splitOn : Pieces mark text (text.splitOn mark) where
  ne_nil := List.splitOn_ne_nil mark text
  free := fun _ hpiece => not_mem_of_mem_splitOn hpiece
  joined := List.intercalate_splitOn mark

theorem pieces_iff : Pieces mark text pieces ↔ text.splitOn mark = pieces := by
  constructor
  · intro hpieces
    rw [← hpieces.joined]
    exact List.splitOn_intercalate mark hpieces.free hpieces.ne_nil
  · intro hsplit
    rw [← hsplit]
    exact pieces_splitOn

/-! ### The part after the first occurrence -/

theorem not_mem_iff_splitOn : mark ∉ text ↔ (text.splitOn mark)[1]? = none := by
  constructor
  · intro hfree
    rw [List.splitOn_eq_singleton hfree]
    rfl
  · intro hnone hmem
    obtain ⟨before, rest, rfl, hbefore⟩ := List.eq_append_cons_of_mem hmem
    rw [List.splitOn_append_cons_self_of_not_mem hbefore, List.getElem?_cons_succ,
      ← List.head?_eq_getElem?, List.head?_eq_none_iff] at hnone
    exact List.splitOn_ne_nil mark rest hnone

theorem AfterFirst.getElem?_splitOn (hpart : AfterFirst mark text part) :
    (text.splitOn mark)[1]? = some part := by
  obtain ⟨before, after, rfl, hbefore, hfree, hafter⟩ := hpart
  rw [List.splitOn_append_cons_self_of_not_mem hbefore, List.getElem?_cons_succ]
  rcases hafter with rfl | hhead
  · rw [List.append_nil, List.splitOn_eq_singleton hfree]
    rfl
  · cases after with
    | nil => simp at hhead
    | cons c rest =>
      cases hhead
      rw [List.splitOn_append_cons_self_of_not_mem hfree]
      rfl

theorem afterFirst_of_getElem?_splitOn (hpart : (text.splitOn mark)[1]? = some part) :
    AfterFirst mark text part := by
  have hpieces : Pieces mark text (text.splitOn mark) := pieces_splitOn
  match hsplit : text.splitOn mark with
  | [] => simp [hsplit] at hpart
  | [_] => simp [hsplit] at hpart
  | before :: second :: others =>
    rw [hsplit] at hpart hpieces
    cases hpart
    have hbefore := hpieces.free before List.mem_cons_self
    have hfree := hpieces.free part (List.mem_cons_of_mem _ List.mem_cons_self)
    have htext := hpieces.joined
    cases others with
    | nil =>
      refine ⟨before, [], ?_, hbefore, hfree, Or.inl rfl⟩
      simpa using htext.symm
    | cons third others =>
      refine ⟨before, mark :: [mark].intercalate (third :: others), ?_, hbefore, hfree, Or.inr rfl⟩
      simpa using htext.symm

theorem afterFirst_iff : AfterFirst mark text part ↔ (text.splitOn mark)[1]? = some part :=
  ⟨AfterFirst.getElem?_splitOn, afterFirst_of_getElem?_splitOn⟩

theorem exists_afterFirst_of_mem (hmark : mark ∈ text) : ∃ part, AfterFirst mark text part := by
  have hsome : (text.splitOn mark)[1]? ≠ none := fun hnone => not_mem_iff_splitOn.2 hnone hmark
  obtain ⟨part, hpart⟩ := Option.ne_none_iff_exists'.1 hsome
  exact ⟨part, afterFirst_iff.2 hpart⟩

theorem head?_append_cons {after : List Char} (hafter : after = [] ∨ after.head? = some mark) (suffix : List Char) :
    (after ++ mark :: suffix).head? = some mark := by
  rcases hafter with rfl | hhead
  · rfl
  · rw [List.head?_append, hhead]
    rfl

/-- What is written behind the next mark, or at the end, does not matter. -/
theorem AfterFirst.append (hpart : AfterFirst mark text part) (suffix : List Char) :
    AfterFirst mark (text ++ mark :: suffix) part := by
  obtain ⟨before, after, rfl, hbefore, hfree, hafter⟩ := hpart
  exact ⟨before, after ++ mark :: suffix, by simp, hbefore, hfree, Or.inr (head?_append_cons hafter suffix)⟩

end AccessScopes.Text
