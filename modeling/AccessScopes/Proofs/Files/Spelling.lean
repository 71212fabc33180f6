import AccessScopes.Proofs.Files.LogPath
import AccessScopes.Proofs.Text.Pieces

/-!
# How paths are spelt

A text is read as a path by its pieces between slashes. Pieces that are empty or a dot drop out, so that
many texts spell one path. Writing a path gives the plainest of its spellings, from which it is read again.
The path of a log file is read from its own spelling, and it asks for itself as its log file.
-/

namespace AccessScopes.Files

/-! ### Leading slashes -/

theorem Anchor.ofChars_render_append (anchor : Anchor) {text : List Char} (htext : text.head? ≠ some '/') :
    ofChars (anchor.render.toList ++ text) = anchor := by
  have hnone : text.takeWhile (· = '/') = [] := by
    cases text with
    | nil => rfl
    | cons first rest =>
      apply List.takeWhile_cons_of_neg
      intro hfirst
      exact htext (congrArg some (of_decide_eq_true hfirst))
  cases anchor with
  | relative => simp [ofChars, render, hnone]
  | slash => simp [ofChars, render, hnone]
  | twoSlashes => simp [ofChars, render, hnone]

namespace Path

/-- A piece of a text counts as a component of the path. -/
def IsComponent (name : List Char) : Prop :=
  name ≠ [] ∧ name ≠ ['.']

/-- Some piece of the text between slashes counts as a component. -/
def HasComponent (text : String) : Prop :=
  ∃ pieces, Text.Pieces '/' text.toList pieces ∧ ∃ piece ∈ pieces, IsComponent piece

/-- The components are such as a text can spell. -/
def Plain (path : Path) : Prop :=
  ∀ name ∈ path.components, IsComponent name.toList ∧ '/' ∉ name.toList

variable {path file : Path} {text : String}

/-! ### Reading -/

theorem mem_components_parse_iff {name : String} :
    name ∈ (parse text).components ↔ name.toList ∈ text.toList.splitOn '/' ∧ IsComponent name.toList := by
  simp only [parse, List.mem_map, List.mem_filter, Bool.and_eq_true, decide_eq_true_eq]
  constructor
  · intro h
    obtain ⟨piece, hpiece, rfl⟩ := h
    rw [String.toList_ofList]
    exact hpiece
  · intro hname
    exact ⟨name.toList, hname, String.ofList_toList⟩

theorem plain_parse (text : String) : (parse text).Plain := by
  intro name hname
  obtain ⟨hpiece, hcomponent⟩ := mem_components_parse_iff.1 hname
  exact ⟨hcomponent, Text.not_mem_of_mem_splitOn hpiece⟩

theorem components_parse_ne_nil_iff : (parse text).components ≠ [] ↔ HasComponent text := by
  constructor
  · intro hne
    obtain ⟨name, hname⟩ := List.exists_mem_of_ne_nil _ hne
    obtain ⟨hpiece, hcomponent⟩ := mem_components_parse_iff.1 hname
    exact ⟨_, Text.pieces_splitOn, name.toList, hpiece, hcomponent⟩
  · intro h
    obtain ⟨pieces, hpieces, piece, hpiece, hcomponent⟩ := h
    have hname : String.ofList piece ∈ (parse text).components := by
      rw [mem_components_parse_iff, String.toList_ofList, Text.pieces_iff.1 hpieces]
      exact ⟨hpiece, hcomponent⟩
    exact List.ne_nil_of_mem hname

/-- A path asks for a log file exactly if it has a component. -/
theorem exists_logFile_iff : (∃ file, (parse text).logFile = .ok file) ↔ HasComponent text := by
  rw [← components_parse_ne_nil_iff]
  constructor
  · intro h hnil
    obtain ⟨file, hfile⟩ := h
    rw [logFile_eq_error_iff.2 ⟨hnil, rfl⟩] at hfile
    cases hfile
  · intro hne
    cases hfile : (parse text).logFile with
    | error error => exact absurd (logFile_eq_error_iff.1 hfile).1 hne
    | ok file => exact ⟨file, rfl⟩

/-! ### Writing, and reading again -/

theorem render_of_ne_nil (hne : path.components ≠ []) :
    path.render = path.anchor.render ++ "/".intercalate path.components := by
  unfold render
  split
  · contradiction
  · rfl

/-- A slash in front of a text spells no component. -/
theorem components_parse_slash (text : String) : (parse ("/" ++ text)).components = (parse text).components := by
  have hnone : '/' ∉ ([] : List Char) := List.not_mem_nil
  have hsplit : ("/" ++ text).toList.splitOn '/' = [] :: text.toList.splitOn '/' := by
    rw [String.toList_append]
    exact List.splitOn_append_cons_self_of_not_mem hnone text.toList
  rw [parse, parse, hsplit, List.filter_cons_of_neg (by simp)]

theorem components_parse_anchor (anchor : Anchor) (text : String) :
    (parse (anchor.render ++ text)).components = (parse text).components := by
  cases anchor with
  | relative => rw [Anchor.render, String.empty_append]
  | slash => exact components_parse_slash text
  | twoSlashes =>
    have htwice : Anchor.twoSlashes.render ++ text = "/" ++ ("/" ++ text) := by
      rw [← String.append_assoc]
      rfl
    rw [htwice, components_parse_slash, components_parse_slash]

theorem Plain.components_parse_intercalate (hplain : path.Plain) (hne : path.components ≠ []) :
    (parse ("/".intercalate path.components)).components = path.components := by
  have hsplit : ("/".intercalate path.components).toList.splitOn '/' = path.components.map String.toList := by
    rw [String.toList_intercalate]
    apply List.splitOn_intercalate
    · intro piece hpiece
      obtain ⟨name, hname, rfl⟩ := List.mem_map.1 hpiece
      exact (hplain name hname).2
    · intro hnil
      exact hne (List.map_eq_nil_iff.1 hnil)
  have hkept : (path.components.map String.toList).filter (fun name => name ≠ [] && name ≠ ['.']) =
      path.components.map String.toList := by
    rw [List.filter_eq_self]
    intro piece hpiece
    obtain ⟨name, hname, rfl⟩ := List.mem_map.1 hpiece
    simpa [IsComponent] using (hplain name hname).1
  rw [parse, hsplit, hkept, List.map_map]
  simp [Function.comp_def]

/-- The first of the components keeps the slashes between them apart from those in front. -/
theorem Plain.head?_intercalate (hplain : path.Plain) :
    ("/".intercalate path.components).toList.head? ≠ some '/' := by
  rw [String.toList_intercalate]
  cases hcomponents : path.components with
  | nil => simp
  | cons first rest =>
    obtain ⟨⟨hne, -⟩, hslash⟩ := hplain first (hcomponents ▸ List.mem_cons_self)
    obtain ⟨c, others, hfirst⟩ := List.exists_cons_of_ne_nil hne
    have hhead : ("/".toList.intercalate ((first :: rest).map String.toList)).head? = some c := by
      cases rest <;> simp [hfirst]
    rw [hhead]
    intro heq
    rw [hfirst, Option.some.inj heq] at hslash
    exact hslash List.mem_cons_self

theorem Plain.parse_render (hplain : path.Plain) : parse path.render = path := by
  obtain ⟨anchor, components⟩ := path
  cases components with
  | nil => cases anchor <;> decide
  | cons first rest =>
    have hne : (first :: rest) ≠ [] := List.cons_ne_nil _ _
    have hanchor : (parse (render ⟨anchor, first :: rest⟩)).anchor = anchor := by
      rw [render_of_ne_nil hne, parse, String.toList_append]
      exact Anchor.ofChars_render_append anchor hplain.head?_intercalate
    have hcomponents : (parse (render ⟨anchor, first :: rest⟩)).components = first :: rest := by
      rw [render_of_ne_nil hne, components_parse_anchor]
      exact hplain.components_parse_intercalate hne
    exact congrArg₂ Path.mk hanchor hcomponents

/-! ### Log files -/

theorem plain_logName {name : String} (hslash : '/' ∉ name.toList) :
    IsComponent (logName name).toList ∧ '/' ∉ (logName name).toList := by
  have hlength := (suffix_logName name).length_le
  refine ⟨⟨?_, ?_⟩, ?_⟩
  · intro hnil
    rw [hnil] at hlength
    exact absurd hlength (by decide)
  · intro hdot
    rw [hdot] at hlength
    exact absurd hlength (by decide)
  · rw [logName, String.toList_append, String.toList_ofList, List.mem_append, not_or]
    exact ⟨fun hmem => hslash ((stem_isPrefix name.toList).subset hmem), by decide⟩

theorem Plain.logFile (hplain : path.Plain) (hfile : path.logFile = .ok file) : file.Plain := by
  obtain ⟨last, hlast, rfl⟩ := logFile_eq_ok_iff.1 hfile
  intro name hname
  rcases List.mem_append.1 hname with hearlier | hnew
  · exact hplain name (List.dropLast_subset _ hearlier)
  · rw [List.mem_singleton.1 hnew]
    exact plain_logName (hplain last (List.mem_of_getLast? hlast)).2

/-- The leading slashes and the components of another path, except that the last component has given up its
suffix for that of log files. -/
structure RenamedFrom (file path : Path) : Prop where
  anchor_eq : file.anchor = path.anchor
  components_eq : ∃ earlier name kept, path.components = earlier ++ [name] ∧ GivesUp name.toList kept.toList ∧
    kept ≠ "" ∧ file.components = earlier ++ [kept ++ ".jsonl"]

theorem Plain.logFile_iff (hplain : path.Plain) : path.logFile = .ok file ↔ file.RenamedFrom path := by
  rw [logFile_eq_ok_iff]
  constructor
  · intro h
    obtain ⟨name, hname, rfl⟩ := h
    have hgives : GivesUp name.toList (String.ofList (stem name.toList)).toList :=
      givesUp_iff.2 String.toList_ofList.symm
    have hkept : String.ofList (stem name.toList) ≠ "" := by
      rw [Ne, String.ofList_eq_empty_iff]
      exact stem_ne_nil (hplain name (List.mem_of_getLast? hname)).1.1
    obtain ⟨earlier, hpath⟩ := List.getLast?_eq_some_iff.1 hname
    refine ⟨rfl, earlier, name, _, hpath, hgives, hkept, ?_⟩
    dsimp only
    rw [hpath, List.dropLast_concat]
    rfl
  · intro hrenamed
    obtain ⟨hanchor, earlier, name, kept, hpath, hgives, -, hfile⟩ := hrenamed
    obtain ⟨anchor, components⟩ := file
    have hname : logName name = kept ++ ".jsonl" := by
      rw [logName, givesUp_iff.1 hgives, String.ofList_toList]
      rfl
    refine ⟨name, ?_, ?_⟩
    · rw [hpath, List.getLast?_concat]
    · rw [hpath, List.dropLast_concat, hname]
      exact congrArg₂ Path.mk hanchor hfile

/-- A log file asks for itself. -/
theorem Plain.logFile_logFile (hplain : path.Plain) (hfile : path.logFile = .ok file) : file.logFile = .ok file := by
  obtain ⟨last, hlast, rfl⟩ := logFile_eq_ok_iff.1 hfile
  have hne : last ≠ "" := by
    intro hempty
    exact (hplain last (List.mem_of_getLast? hlast)).1.1 (String.toList_eq_nil_iff.2 hempty)
  refine logFile_eq_ok_iff.2 ⟨Path.logName last, List.getLast?_concat, ?_⟩
  rw [logName_logName hne, List.dropLast_concat]

theorem parse_render_of_logFile (hfile : (parse text).logFile = .ok file) : parse file.render = file :=
  ((plain_parse text).logFile hfile).parse_render

theorem logFile_parse_render (hfile : (parse text).logFile = .ok file) : (parse file.render).logFile = .ok file := by
  rw [parse_render_of_logFile hfile]
  exact (plain_parse text).logFile_logFile hfile

end Path

end AccessScopes.Files
