import AccessScopes.Config
import AccessScopes.Text.Split
import Mathlib.Data.List.DropRight

/-!
# The items of a comma-separated list

A text is an item as it stands if it is not empty, holds no comma, and has no blank at either end. Such
texts, joined by commas, are read back as they were and in their order, and nothing but such texts is ever
read. Blanks around an item do not count; blanks and line ends inside it mean nothing to the reader.
-/

namespace AccessScopes

namespace Text

/-- The text neither begins nor ends with a blank. -/
structure Stripped (text : List Char) : Prop where
  begins : ∀ c ∈ text.head?, isBlank c = false
  ends : ∀ c ∈ text.getLast?, isBlank c = false

theorem stripped_iff {text : List Char} :
    (text.head?.all (!isBlank ·) && text.getLast?.all (!isBlank ·)) = true ↔ Stripped text := by
  simp only [Bool.and_eq_true, Option.all_eq_true, Bool.not_eq_true']
  exact ⟨fun h => ⟨h.1, h.2⟩, fun h => ⟨h.begins, h.ends⟩⟩

instance (text : List Char) : Decidable (Stripped text) :=
  decidable_of_iff _ stripped_iff

theorem dropWhile_isBlank_of_head? {text : List Char} (hhead : ∀ c ∈ text.head?, isBlank c = false) :
    text.dropWhile isBlank = text := by
  cases text with
  | nil => rfl
  | cons c rest => rw [List.dropWhile_cons, hhead c rfl, if_neg Bool.false_ne_true]

theorem stripEnd_of_getLast? {text : List Char} (hlast : ∀ c ∈ text.getLast?, isBlank c = false) :
    stripEnd text = text := by
  rw [stripEnd, dropWhile_isBlank_of_head?, List.reverse_reverse]
  intro c hc
  rw [List.head?_reverse] at hc
  exact hlast c hc

theorem Stripped.strip_eq {text : List Char} (hstripped : Stripped text) : strip text = text := by
  rw [strip, dropWhile_isBlank_of_head? hstripped.begins, stripEnd_of_getLast? hstripped.ends]

theorem isBlank_of_mem_head?_dropWhile {text : List Char} {c : Char} (hc : c ∈ (text.dropWhile isBlank).head?) :
    isBlank c = false := by
  have hhead := List.head?_dropWhile_not isBlank text
  rw [Option.mem_def.1 hc] at hhead
  exact hhead

/-- Whatever is stripped has no blank at either end afterwards. -/
theorem stripped_strip (text : List Char) : Stripped (strip text) := by
  constructor
  · intro c hc
    obtain ⟨dropped, hdropped⟩ := List.rdropWhile_prefix isBlank (text.dropWhile isBlank)
    change strip text ++ dropped = text.dropWhile isBlank at hdropped
    have hfirst : c ∈ (text.dropWhile isBlank).head? := by
      rw [← hdropped, List.head?_append, Option.mem_def.1 hc]
      rfl
    exact isBlank_of_mem_head?_dropWhile hfirst
  · intro c hc
    rw [strip, stripEnd, List.getLast?_reverse] at hc
    exact isBlank_of_mem_head?_dropWhile hc

theorem mem_of_mem_strip {text : List Char} {c : Char} (hc : c ∈ strip text) : c ∈ text := by
  rw [strip, stripEnd, List.mem_reverse] at hc
  have hend := (List.dropWhile_suffix isBlank).subset hc
  exact (List.dropWhile_suffix isBlank).subset (List.mem_reverse.1 hend)

theorem strip_of_blank {text : List Char} (hblank : ∀ c ∈ text, isBlank c = true) : strip text = [] := by
  rw [strip, List.dropWhile_eq_nil_iff.2 hblank]
  rfl

/-- Stripping takes off the blanks around a text that has none at its ends. -/
theorem Stripped.strip_padded {before text after : List Char} (hstripped : Stripped text) (hne : text ≠ [])
    (hbefore : ∀ c ∈ before, isBlank c = true) (hafter : ∀ c ∈ after, isBlank c = true) :
    strip (before ++ text ++ after) = text := by
  have hhead : ∀ c ∈ (text ++ after).head?, isBlank c = false := by
    rw [List.head?_append_of_ne_nil _ hne]
    exact hstripped.begins
  have hlast : (after.reverse ++ text.reverse).dropWhile isBlank = text.reverse := by
    rw [List.dropWhile_append_of_pos fun c hc => hafter c (List.mem_reverse.1 hc)]
    apply dropWhile_isBlank_of_head?
    rw [List.head?_reverse]
    exact hstripped.ends
  rw [strip, List.append_assoc, List.dropWhile_append_of_pos hbefore, dropWhile_isBlank_of_head? hhead, stripEnd,
    List.reverse_append, hlast, List.reverse_reverse]

end Text

namespace Config

/-- The text is an item of a list as it stands. -/
structure IsItem (text : String) : Prop where
  ne_empty : text ≠ ""
  no_comma : ',' ∉ text.toList
  stripped : Text.Stripped text.toList

variable {texts : List String}

theorem splitOn_intercalate (hne : texts ≠ []) (hitems : ∀ text ∈ texts, IsItem text) :
    (",".intercalate texts).toList.splitOn ',' = texts.map String.toList := by
  rw [String.toList_intercalate]
  apply List.splitOn_intercalate
  · intro piece hpiece
    obtain ⟨text, htext, rfl⟩ := List.mem_map.1 hpiece
    exact (hitems text htext).no_comma
  · rw [Ne, List.map_eq_nil_iff]
    exact hne

/-- Items joined by commas are read back. -/
theorem items_intercalate (hitems : ∀ text ∈ texts, IsItem text) : items (",".intercalate texts) = texts := by
  by_cases hnone : texts = []
  · subst hnone
    decide
  · have hstrip : (texts.map String.toList).map Text.strip = texts.map String.toList := by
      rw [List.map_map]
      apply List.map_congr_left
      intro text htext
      exact (hitems text htext).stripped.strip_eq
    have hkept : (texts.map String.toList).filter (· ≠ []) = texts.map String.toList := by
      rw [List.filter_eq_self]
      intro piece hpiece
      obtain ⟨text, htext, rfl⟩ := List.mem_map.1 hpiece
      exact decide_eq_true fun hnil => (hitems text htext).ne_empty (String.toList_inj.1 hnil)
    rw [items, splitOn_intercalate hnone hitems, hstrip, hkept, List.map_map]
    show texts.map (fun text => String.ofList text.toList) = texts
    simp only [String.ofList_toList, List.map_id']

/-- Nothing but items is read. -/
theorem isItem_of_mem_items {text item : String} (hitem : item ∈ items text) : IsItem item := by
  rw [items] at hitem
  obtain ⟨kept, hkept, rfl⟩ := List.mem_map.1 hitem
  obtain ⟨hstrip, hne⟩ := List.mem_filter.1 hkept
  obtain ⟨piece, hpiece, rfl⟩ := List.mem_map.1 hstrip
  constructor
  · intro hempty
    exact of_decide_eq_true hne (by simpa using congrArg String.toList hempty)
  · rw [String.toList_ofList]
    intro hcomma
    exact Text.not_mem_of_mem_splitOn hpiece (Text.mem_of_mem_strip hcomma)
  · rw [String.toList_ofList]
    exact Text.stripped_strip piece

theorem items_append (left right : String) : items (left ++ "," ++ right) = items left ++ items right := by
  have htext : (left ++ "," ++ right).toList = left.toList ++ ',' :: right.toList := by simp
  rw [items, htext, List.splitOn_append_cons_self, List.map_append, List.filter_append, List.map_append]
  rfl

theorem items_of_not_mem {text : String} (hcomma : ',' ∉ text.toList) :
    items text = if Text.strip text.toList = [] then [] else [String.ofList (Text.strip text.toList)] := by
  rw [items, List.splitOn_eq_singleton hcomma, List.map_singleton]
  split
  · rename_i hnil
    rw [hnil]
    rfl
  · rename_i hne
    rw [List.filter_cons_of_pos (by simpa using hne)]
    rfl

/-! ### Blanks around items -/

theorem not_mem_of_blank {text : List Char} (hblank : ∀ c ∈ text, Text.isBlank c = true) : ',' ∉ text :=
  fun hcomma => absurd (hblank ',' hcomma) (by decide)

theorem items_of_blank {blanks : String} (hblank : ∀ c ∈ blanks.toList, Text.isBlank c = true) : items blanks = [] := by
  rw [items_of_not_mem (not_mem_of_blank hblank), if_pos (Text.strip_of_blank hblank)]

theorem items_padded {before item after : String} (hitem : IsItem item)
    (hbefore : ∀ c ∈ before.toList, Text.isBlank c = true) (hafter : ∀ c ∈ after.toList, Text.isBlank c = true) :
    items (before ++ item ++ after) = [item] := by
  have hne : item.toList ≠ [] := fun hnil => hitem.ne_empty (String.toList_inj.1 hnil)
  have hstrip : Text.strip (before ++ item ++ after).toList = item.toList := by
    rw [String.toList_append, String.toList_append]
    exact hitem.stripped.strip_padded hne hbefore hafter
  have hcomma : ',' ∉ (before ++ item ++ after).toList := by
    simp only [String.toList_append, List.mem_append, not_or]
    exact ⟨⟨not_mem_of_blank hbefore, hitem.no_comma⟩, not_mem_of_blank hafter⟩
  rw [items_of_not_mem hcomma, hstrip, if_neg hne, String.ofList_toList]

end Config

end AccessScopes
