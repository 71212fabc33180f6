import AccessScopes.Scope.Parser

/-!
# The grammar of scopes

The texts that are scopes, said without the reader: a text is a scope if it can be laid out as
subject, separator, resource, separator, action letters and a tail that is empty or starts with `?`.
The main statements are that a text has at most one such layout and that the reader accepts exactly
the texts that have one, and returns what the layout says.
-/

namespace AccessScopes.Scope

/-- The parts of a text that is laid out as a scope. -/
structure Layout where
  subject : List Char
  first : Char
  resource : List Char
  second : Char
  letters : List Char
  tail : List Char

namespace Layout

def text (layout : Layout) : List Char :=
  layout.subject ++ layout.first :: layout.resource ++ layout.second :: layout.letters ++ layout.tail

/-- What the grammar asks of the parts. -/
structure Valid (layout : Layout) : Prop where
  subject_ne_nil : layout.subject ≠ []
  subject_free : ∀ c ∈ layout.subject, c ∉ ['/', '.', '?']
  first_separator : layout.first ∈ ['/', '.', '?']
  resource_ne_nil : layout.resource ≠ []
  resource_free : ∀ c ∈ layout.resource, c ∉ ['/', '.', '?']
  second_separator : layout.second ∈ ['/', '.', '?']
  letters_ne_nil : layout.letters ≠ []
  letters_known : ∀ c ∈ layout.letters, c ∈ ['c', 'r', 'u', 'd', 's']
  tail_marked : layout.tail = [] ∨ layout.tail.head? = some '?'

def scope (layout : Layout) : Scope where
  subject := .ofList layout.subject
  resource := .ofList layout.resource
  actions := layout.letters.filterMap Action.ofLetter?
  params := (paramsText? layout.text).map Params.parse

end Layout

/-! ### Cutting at separators -/

theorem isSeparator_eq_true_iff {c : Char} : isSeparator c = true ↔ c ∈ ['/', '.', '?'] := by
  simp [isSeparator, or_assoc]

theorem isSeparator_eq_false_iff {c : Char} : isSeparator c = false ↔ c ∉ ['/', '.', '?'] := by
  rw [← isSeparator_eq_true_iff, Bool.not_eq_true]

theorem cut?_append {before : List Char} {mark : Char} (hfree : ∀ c ∈ before, c ∉ ['/', '.', '?'])
    (hmark : mark ∈ ['/', '.', '?']) (rest : List Char) :
    cut? (before ++ mark :: rest) = some (before, rest) := by
  have hplain : ∀ c ∈ before, (!isSeparator c) = true := fun c hc => by
    rw [isSeparator_eq_false_iff.2 (hfree c hc), Bool.not_false]
  have hseparator := isSeparator_eq_true_iff.2 hmark
  have hdrop : (before ++ mark :: rest).dropWhile (!isSeparator ·) = mark :: rest := by
    rw [List.dropWhile_append_of_pos hplain]
    simp [hseparator]
  have htake : (before ++ mark :: rest).takeWhile (!isSeparator ·) = before := by
    rw [List.takeWhile_append_of_pos hplain]
    simp [hseparator]
  rw [cut?, hdrop]
  simp only [htake]

theorem eq_append_of_cut? {text before rest : List Char} (hcut : cut? text = some (before, rest)) :
    ∃ mark ∈ ['/', '.', '?'], text = before ++ mark :: rest ∧ ∀ c ∈ before, c ∉ ['/', '.', '?'] := by
  unfold cut? at hcut
  split at hcut
  · simp at hcut
  · rename_i mark tail hdrop
    simp only [Option.some.injEq, Prod.mk.injEq] at hcut
    obtain ⟨rfl, rfl⟩ := hcut
    refine ⟨mark, isSeparator_eq_true_iff.1 ?_, ?_, ?_⟩
    · have hhead := List.head?_dropWhile_not (!isSeparator ·) text
      rw [hdrop] at hhead
      simpa using hhead
    · rw [← hdrop, List.takeWhile_append_dropWhile]
    · intro c hc
      apply isSeparator_eq_false_iff.1
      simpa using List.all_eq_true.1 List.all_takeWhile c hc

/-- The letters end where the tail begins. -/
theorem takeWhile_letters_append {letters tail : List Char} (hletters : '?' ∉ letters)
    (htail : tail = [] ∨ tail.head? = some '?') : (letters ++ tail).takeWhile (· ≠ '?') = letters := by
  have hplain : ∀ c ∈ letters, decide (c ≠ '?') = true := fun c hc =>
    decide_eq_true fun h : c = '?' => hletters (h ▸ hc)
  rw [List.takeWhile_append_of_pos hplain]
  rcases htail with rfl | hhead
  · simp
  · cases tail with
    | nil => simp
    | cons c rest =>
      simp only [List.head?_cons, Option.some.injEq] at hhead
      simp [hhead]

/-- What is left after the letters is a tail. -/
theorem marked_dropWhile (text : List Char) :
    text.dropWhile (· ≠ '?') = [] ∨ (text.dropWhile (· ≠ '?')).head? = some '?' := by
  have hhead := List.head?_dropWhile_not (· ≠ '?') text
  cases hdrop : text.dropWhile (· ≠ '?') with
  | nil => exact Or.inl rfl
  | cons c rest =>
    rw [hdrop] at hhead
    exact Or.inr (by simpa using hhead)

/-! ### Letters -/

theorem ofLetters_eq_ok_filterMap {letters : List Char}
    (hknown : ∀ c ∈ letters, c ∈ ['c', 'r', 'u', 'd', 's']) :
    Action.ofLetters letters = .ok (letters.filterMap Action.ofLetter?) := by
  induction letters with
  | nil => rfl
  | cons c rest ih =>
    have hrest := ih fun d hd => hknown d (List.mem_cons_of_mem c hd)
    have hc := hknown c List.mem_cons_self
    simp only [List.mem_cons, List.not_mem_nil, or_false] at hc
    rcases hc with rfl | rfl | rfl | rfl | rfl <;> simp [Action.ofLetters, Action.ofLetter?, hrest]

theorem letter_mem (action : Action) : action.letter ∈ ['c', 'r', 'u', 'd', 's'] := by
  cases action <;> decide

theorem filterMap_ofLetter?_map_letter (actions : List Action) :
    (actions.map Action.letter).filterMap Action.ofLetter? = actions := by
  induction actions with
  | nil => rfl
  | cons action rest ih => simp [ih]

/-! ### The reader and the grammar -/

/-- The reader takes every text that has a layout for what the layout says. -/
theorem parseChars?_text {layout : Layout} (hvalid : layout.Valid) :
    parseChars? layout.text = some layout.scope := by
  have hletters : '?' ∉ layout.letters := fun h => by simpa using hvalid.letters_known '?' h
  have htext : layout.text = layout.subject ++ layout.first ::
      (layout.resource ++ layout.second :: (layout.letters ++ layout.tail)) := by
    simp [Layout.text]
  have hfirst := cut?_append hvalid.subject_free hvalid.first_separator
    (layout.resource ++ layout.second :: (layout.letters ++ layout.tail))
  have hsecond := cut?_append hvalid.resource_free hvalid.second_separator (layout.letters ++ layout.tail)
  rw [← htext] at hfirst
  simp only [parseChars?, hfirst, hsecond, takeWhile_letters_append hletters hvalid.tail_marked,
    hvalid.subject_ne_nil, hvalid.resource_ne_nil, hvalid.letters_ne_nil, or_self, if_false,
    ofLetters_eq_ok_filterMap hvalid.letters_known, Layout.scope]

/-- Every text that the reader takes has a layout. -/
theorem exists_layout_of_parseChars? {text : List Char} {scope : Scope} (hparse : parseChars? text = some scope) :
    ∃ layout : Layout, layout.Valid ∧ layout.text = text ∧ layout.scope = scope := by
  unfold parseChars? at hparse
  split at hparse
  · simp at hparse
  · rename_i subject afterSubject hfirst
    split at hparse
    · simp at hparse
    · rename_i resource afterResource hsecond
      simp only at hparse
      split at hparse
      · simp at hparse
      · rename_i hne
        split at hparse
        · simp at hparse
        · rename_i actions hactions
          simp only [not_or] at hne
          obtain ⟨first, hfirstMark, hfirstText, hsubject⟩ := eq_append_of_cut? hfirst
          obtain ⟨second, hsecondMark, hsecondText, hresource⟩ := eq_append_of_cut? hsecond
          have hletters := Action.eq_map_letter_of_ofLetters hactions
          have hsplit := List.takeWhile_append_dropWhile (p := (· ≠ '?')) (l := afterResource)
          let layout : Layout :=
            { subject, first, resource, second
              letters := afterResource.takeWhile (· ≠ '?')
              tail := afterResource.dropWhile (· ≠ '?') }
          have htext : layout.text = text := by
            simp only [layout, Layout.text, List.append_assoc, List.cons_append, hsplit]
            rw [hfirstText, hsecondText]
          refine ⟨layout, ?_, htext, ?_⟩
          · refine ⟨hne.1, hsubject, hfirstMark, hne.2.1, hresource, hsecondMark, hne.2.2, ?_, ?_⟩
            · intro c hc
              simp only [layout, hletters, List.mem_map] at hc
              obtain ⟨action, -, rfl⟩ := hc
              exact letter_mem action
            · exact marked_dropWhile afterResource
          · cases hparse
            simp only [Layout.scope, htext]
            simp only [layout, hletters, filterMap_ofLetter?_map_letter]

/-- The reader accepts exactly the texts that have a layout. -/
theorem parseChars?_eq_some_iff {text : List Char} {scope : Scope} :
    parseChars? text = some scope ↔
      ∃ layout : Layout, layout.Valid ∧ layout.text = text ∧ layout.scope = scope :=
  ⟨exists_layout_of_parseChars?, fun ⟨_, hvalid, htext, hscope⟩ => htext ▸ hscope ▸ parseChars?_text hvalid⟩

/-- A text has at most one layout. -/
theorem Layout.Valid.unique {left right : Layout} (hleft : left.Valid) (hright : right.Valid)
    (htext : left.text = right.text) : left = right := by
  have cut : ∀ {layout : Layout}, layout.Valid → cut? layout.text =
      some (layout.subject, layout.resource ++ layout.second :: (layout.letters ++ layout.tail)) := by
    intro layout hvalid
    have htext : layout.text = layout.subject ++ layout.first ::
        (layout.resource ++ layout.second :: (layout.letters ++ layout.tail)) := by
      simp [Layout.text]
    rw [htext, cut?_append hvalid.subject_free hvalid.first_separator]
  have hfirst := cut hleft
  rw [htext, cut hright] at hfirst
  simp only [Option.some.injEq, Prod.mk.injEq] at hfirst
  obtain ⟨hsubject, hrest⟩ := hfirst
  have hsecond := cut?_append hleft.resource_free hleft.second_separator (left.letters ++ left.tail)
  rw [← hrest, cut?_append hright.resource_free hright.second_separator] at hsecond
  simp only [Option.some.injEq, Prod.mk.injEq] at hsecond
  obtain ⟨hresource, hlast⟩ := hsecond
  have letters : ∀ {layout : Layout}, layout.Valid →
      (layout.letters ++ layout.tail).takeWhile (· ≠ '?') = layout.letters := fun hvalid =>
    takeWhile_letters_append (fun h => by simpa using hvalid.letters_known '?' h) hvalid.tail_marked
  have hletters : right.letters = left.letters := by rw [← letters hright, hlast, letters hleft]
  obtain ⟨subject, first, resource, second, word, tail⟩ := left
  obtain ⟨subject', first', resource', second', word', tail'⟩ := right
  simp only at hsubject hresource hletters
  subst hsubject hresource hletters
  simp only [Layout.text, List.append_assoc, List.cons_append, List.append_cancel_left_eq,
    List.cons.injEq] at htext
  obtain ⟨rfl, rfl, rfl⟩ := htext
  rfl

end AccessScopes.Scope
