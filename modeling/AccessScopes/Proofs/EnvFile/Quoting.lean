import AccessScopes.Proofs.EnvFile.Loading

/-!
# Lines with a value in single quotes

Between single quotes a value runs on over line ends, comment marks, equals signs, blanks and the other
quotes. A text is read back as it is if it holds neither the quote nor a backslash, and no carriage return,
which would be read as a line end. Where no reference starts in it, it also stands for itself. So a file
that is one such line gives its variable exactly the text between the quotes.
-/

namespace AccessScopes.EnvFile

open Text

/-- The text can stand between single quotes as it is. -/
structure Quotable (text : List Char) : Prop where
  no_return : '\r' ∉ text
  no_quote : '\x27' ∉ text
  no_backslash : '\\' ∉ text

/-- The name can stand at the start of a line as it is. -/
structure IsKey (name : List Char) : Prop where
  ne_nil : name ≠ []
  unquoted : name.head? ≠ some '\x27'
  keyChars : ∀ c ∈ name, isKeyChar c = true

/-- A line that binds a variable to a value in single quotes. -/
def quotedLine (name value : String) : String :=
  name ++ "='" ++ value ++ "'\n"

variable {text name rest : List Char}

/-! ### The value -/

theorem unifyLineEnds_of_not_mem (hfree : '\r' ∉ text) : unifyLineEnds text = text := by
  fun_induction unifyLineEnds text with
  | case1 => rfl
  | case2 => exact absurd List.mem_cons_self hfree
  | case3 c hc => rfl
  | case4 rest ih => exact absurd List.mem_cons_self hfree
  | case5 d rest hd ih => exact absurd List.mem_cons_self hfree
  | case6 c d rest hc ih => rw [ih (List.not_mem_of_not_mem_cons hfree)]

/-- A quote that is not inside the value closes it. -/
theorem quoted?_append (hquote : '\x27' ∉ text) (hbackslash : '\\' ∉ text) :
    quoted? '\x27' (text ++ '\x27' :: rest) = some (text, rest) := by
  induction text with
  | nil => cases rest <;> rfl
  | cons c text ih =>
    have hrest := ih (List.not_mem_of_not_mem_cons hquote) (List.not_mem_of_not_mem_cons hbackslash)
    have hclose : c ≠ '\x27' := fun heq => hquote (heq ▸ List.mem_cons_self)
    have hescape : c ≠ '\\' := fun heq => hbackslash (heq ▸ List.mem_cons_self)
    cases hcut : text ++ '\x27' :: rest with
    | nil => simp at hcut
    | cons d after =>
      rw [hcut] at hrest
      rw [List.cons_append, hcut, quoted?, if_neg hclose, if_neg fun h => hescape h.1, hrest]
      rfl

theorem unescape_of_not_mem (meaning : Char → Option Char) (hfree : '\\' ∉ text) : unescape meaning text = text := by
  fun_induction unescape meaning text with
  | case1 => rfl
  | case2 c => rfl
  | case3 d rest e hmeaning ih => exact absurd List.mem_cons_self hfree
  | case4 d rest hmeaning ih => exact absurd List.mem_cons_self hfree
  | case5 c d rest hc ih => rw [ih (List.not_mem_of_not_mem_cons hfree)]

theorem Quotable.readValue_eq (hquotable : Quotable text) (rest : List Char) :
    readValue ('\x27' :: (text ++ '\x27' :: rest)) = .ok (.ofList text, rest) := by
  rw [readValue, if_pos rfl, readQuoted, quoted?_append hquotable.no_quote hquotable.no_backslash]
  dsimp only
  rw [unescape_of_not_mem _ hquotable.no_backslash]

/-! ### The line -/

theorem isBlank_of_isKeyChar {c : Char} (hkey : isKeyChar c = true) : isBlank c = false := by
  simp only [isKeyChar, Bool.and_eq_true, Bool.not_eq_true'] at hkey
  exact hkey.2

/-- A name before an equals sign is not a mark of export. -/
theorem skipExport_of_isKeyChar (hname : ∀ c ∈ name, isKeyChar c = true) (rest : List Char) :
    skipExport (name ++ '=' :: rest) = name ++ '=' :: rest := by
  have hblank : ∀ c ∈ name ++ ['='], isInlineBlank c = false := by
    intro c hc
    rcases List.mem_append.1 hc with hc | hc
    · rw [isInlineBlank, isBlank_of_isKeyChar (hname c hc), Bool.false_and]
    · rw [List.mem_singleton.1 hc]
      decide
  rw [skipExport, if_neg]
  intro hexport
  rw [Bool.and_eq_true, List.isPrefixOf_iff_prefix] at hexport
  obtain ⟨hbegins, hafter⟩ := hexport
  rw [List.append_cons] at hbegins hafter
  -- The word would end before the equals sign does, and so before no blank, or would hold the equals sign.
  rcases List.prefix_or_prefix_of_prefix hbegins (List.prefix_append (name ++ ['=']) rest) with hshort | hlong
  · obtain ⟨more, hmore⟩ := hshort
    cases more with
    | nil =>
      have hmem : '=' ∈ "export".toList := by
        rw [← List.append_nil "export".toList, hmore]
        exact List.mem_append_right _ List.mem_cons_self
      exact absurd hmem (by decide)
    | cons c more =>
      rw [← hmore, List.append_assoc] at hafter
      have hhead : isInlineBlank c = true := hafter
      rw [hblank c (hmore ▸ List.mem_append_right _ List.mem_cons_self)] at hhead
      exact absurd hhead Bool.false_ne_true
  · exact absurd (hlong.subset (List.mem_append_right _ List.mem_cons_self)) (by decide)

theorem IsKey.readKey_eq (hname : IsKey name) (rest : List Char) :
    readKey (name ++ '=' :: rest) = .ok (some (.ofList name), '=' :: rest) := by
  have hkey := hname.keyChars
  obtain ⟨c, tail, rfl⟩ := List.exists_cons_of_ne_nil hname.ne_nil
  have htake : (c :: tail ++ '=' :: rest).takeWhile isKeyChar = c :: tail := by
    rw [List.takeWhile_append_of_pos hkey, List.takeWhile_cons_of_neg (by decide), List.append_nil]
  have hdrop : (c :: tail ++ '=' :: rest).dropWhile isKeyChar = '=' :: rest := by
    rw [List.dropWhile_append_of_pos hkey, List.dropWhile_cons_of_neg (by decide)]
  have hfirst := hkey c List.mem_cons_self
  have hcomment : c ≠ '#' := by
    rintro rfl
    exact absurd hfirst (by decide)
  have hquote : c ≠ '\x27' := fun heq => hname.unquoted (congrArg some heq)
  rw [List.cons_append] at htake hdrop ⊢
  rw [readKey, if_neg hcomment, if_neg hquote, if_pos hfirst, htake, hdrop]

theorem readStatement_quotedLine (hname : IsKey name) (hvalue : Quotable text) :
    readStatement (name ++ '=' :: '\x27' :: (text ++ ['\x27', '\n'])) =
      .ok (some ⟨.ofList name, some (.ofList text)⟩, []) := by
  have hbinding : readBinding ('=' :: '\x27' :: (text ++ ['\x27', '\n'])) =
      .ok (some (.ofList text), ['\n']) := by
    rw [readBinding, if_pos rfl, List.dropWhile_cons_of_neg (by decide), hvalue.readValue_eq]
    rfl
  rw [readStatement, skipExport_of_isKeyChar hname.keyChars, hname.readKey_eq]
  dsimp only
  rw [List.dropWhile_cons_of_neg (by decide), hbinding]
  rfl

theorem IsKey.no_return (hname : IsKey name) : '\r' ∉ name := by
  intro hmem
  exact absurd (hname.keyChars _ hmem) (by decide)

/-- A text that begins with no blank begins with a statement. -/
theorem statements_cons {c : Char} (hblank : isBlank c = false) (rest : List Char) :
    statements (c :: rest) =
      (nextStatement (c :: rest)).1.toList ++ statements (nextStatement (c :: rest)).2 := by
  have hdrop : (c :: rest).dropWhile isBlank = c :: rest := by
    rw [List.dropWhile_cons, hblank, if_neg Bool.false_ne_true]
  rw [statements]
  split
  · rename_i hstart
    rw [hdrop] at hstart
    cases hstart
  · rename_i hstart
    rw [hdrop] at hstart
    cases hstart
    rfl

/-- A file of one line with a value in single quotes binds the variable to that value, and no other. -/
theorem bindings_quotedLine {name value : String} (hname : IsKey name.toList) (hvalue : Quotable value.toList) :
    bindings (quotedLine name value) = [⟨name, some value⟩] := by
  have hline : (quotedLine name value).toList =
      name.toList ++ '=' :: '\x27' :: (value.toList ++ ['\x27', '\n']) := by
    simp [quotedLine]
  have hreturn : '\r' ∉ name.toList ++ '=' :: '\x27' :: (value.toList ++ ['\x27', '\n']) := by
    simp only [List.mem_append, List.mem_cons, List.not_mem_nil, or_false, not_or]
    exact ⟨hname.no_return, by decide, by decide, hvalue.no_return, by decide, by decide⟩
  have hread := readStatement_quotedLine hname hvalue
  obtain ⟨c, tail, hcons⟩ := List.exists_cons_of_ne_nil hname.ne_nil
  have hblank : isBlank c = false := isBlank_of_isKeyChar (hname.keyChars c (hcons ▸ List.mem_cons_self))
  rw [bindings, hline, unifyLineEnds_of_not_mem hreturn]
  rw [hcons, List.cons_append] at hread ⊢
  rw [statements_cons hblank, nextStatement, hread, ← hcons, String.ofList_toList, String.ofList_toList]
  show [_] ++ statements [] = [_]
  rw [statements]
  rfl

/-! ### Loading -/

/-- A text in which no reference starts is a template of plain characters. -/
theorem Template.parse_of_plain (hplain : ¬ "$\x7b".toList <:+: text) : parse text = text.map .plain := by
  have hstarts : ∀ {c d : Char} {rest : List Char}, c = '$' ∧ d = '\x7b' → "$\x7b".toList <:+: c :: d :: rest := by
    rintro c d rest ⟨rfl, rfl⟩
    exact ⟨[], rest, rfl⟩
  fun_induction parse text with
  | case1 => rfl
  | case2 c => rfl
  | case3 c d rest hmark reference after hreference hlength ih => exact absurd (hstarts hmark) hplain
  | case4 c d rest hmark hreference ih => exact absurd (hstarts hmark) hplain
  | case5 c d rest hmark ih =>
    rw [ih fun hinfix => hplain (List.infix_cons hinfix)]
    rfl

theorem Template.expand_map_plain (lookup : String → Option (Option String)) (text : List Char) :
    Template.expand lookup (text.map .plain) = .ofList text := by
  rw [expand, List.flatMap_map]
  show String.ofList (text.flatMap fun c => [c]) = _
  rw [List.flatMap_singleton']

theorem resolve_singleton_of_plain (environment : Environment) {name value : String}
    (hplain : ¬ "$\x7b".toList <:+: value.toList) :
    (resolve environment [⟨name, some value⟩]).entries = [(name, some value)] := by
  have hvalue : (Template.parse value.toList).expand (lookup environment ∅) = value := by
    rw [Template.parse_of_plain hplain, Template.expand_map_plain, String.ofList_toList]
  show [(name, some ((Template.parse value.toList).expand (lookup environment ∅)))] = _
  rw [hvalue]

/-- Loading a file of one line with a value in single quotes sets the variable to that value. -/
theorem load_quotedLine (environment : Environment) {name value : String} (hname : IsKey name.toList)
    (hvalue : Quotable value.toList) (hplain : ¬ "$\x7b".toList <:+: value.toList)
    (haccepted : Environment.problem? name value = none) :
    load environment (quotedLine name value) = (.ok (), environment.insert name value) := by
  have hset : environment.set name value = .ok (environment.insert name value) :=
    Environment.set_eq_ok_iff.2 ⟨haccepted, rfl⟩
  rw [load, bindings_quotedLine hname hvalue, resolve_singleton_of_plain environment hplain, store, hset]
  rfl

end AccessScopes.EnvFile
