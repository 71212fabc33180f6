import AccessScopes.Scope.Grammar
import AccessScopes.Scope.Printer
import AccessScopes.Text.Split

/-!
# Well-formed scopes

A scope can be given fields that its written form cannot carry, since nothing is escaped. The
well-formed scopes are those without such fields. Reading returns well-formed scopes only, and a
well-formed scope is read back from its written form as it was, down to the order of its parameters.
-/

namespace AccessScopes

open Text

def Params.IsPlain (text : String) : Prop :=
  text ≠ "" ∧ ∀ c ∈ text.toList, c ≠ '&' ∧ c ≠ '=' ∧ c ≠ '?'

namespace Scope

def IsName (text : String) : Prop :=
  text ≠ "" ∧ ∀ c ∈ text.toList, c ∉ ['/', '.', '?']

/-- A scope whose fields its written form can carry. -/
structure WellFormed (scope : Scope) : Prop where
  subject_isName : IsName scope.subject
  resource_isName : IsName scope.resource
  actions_ne_nil : scope.actions ≠ []
  params_isPlain : ∀ params, scope.params = some params →
    ∀ entry ∈ params.entries, Params.IsPlain entry.1 ∧ Params.IsPlain entry.2

end Scope

/-! ### Parameters -/

namespace Params

def renderPair (entry : String × String) : List Char :=
  entry.1.toList ++ '=' :: entry.2.toList

theorem toList_render (params : Params) :
    params.render.toList = ['&'].intercalate (params.entries.map renderPair) := by
  rw [render, String.toList_intercalate, List.map_map]
  congr 1
  refine List.map_congr_left fun entry _ => ?_
  obtain ⟨key, value⟩ := entry
  simp [renderPair]

theorem toList_ne_nil {text : String} (hplain : IsPlain text) : text.toList ≠ [] := fun h =>
  hplain.1 (String.toList_inj.1 h)

theorem pair?_renderPair {entry : String × String} (hkey : IsPlain entry.1) (hvalue : IsPlain entry.2) :
    pair? (renderPair entry) = some entry := by
  have hsplit : (renderPair entry).splitOn '=' = [entry.1.toList, entry.2.toList] := by
    rw [renderPair, List.splitOn_append_cons_self_of_not_mem fun h => (hkey.2 _ h).2.1 rfl,
      List.splitOn_eq_singleton fun h => (hvalue.2 _ h).2.1 rfl]
  simp [pair?, hsplit, toList_ne_nil hkey, toList_ne_nil hvalue]

theorem filterMap_pair?_renderPair {entries : List (String × String)}
    (hplain : ∀ entry ∈ entries, IsPlain entry.1 ∧ IsPlain entry.2) :
    (entries.map renderPair).filterMap pair? = entries := by
  induction entries with
  | nil => rfl
  | cons entry rest ih =>
    have hentry := hplain entry List.mem_cons_self
    rw [List.map_cons, List.filterMap_cons_some (pair?_renderPair hentry.1 hentry.2),
      ih fun other hother => hplain other (List.mem_cons_of_mem _ hother)]

theorem not_mem_renderPair {entries : List (String × String)}
    (hplain : ∀ entry ∈ entries, IsPlain entry.1 ∧ IsPlain entry.2) :
    ∀ piece ∈ entries.map renderPair, '&' ∉ piece := by
  intro piece hpiece hmem
  obtain ⟨entry, hentry, rfl⟩ := List.mem_map.1 hpiece
  rw [renderPair, List.mem_append, List.mem_cons] at hmem
  rcases hmem with hmem | hmem | hmem
  · exact ((hplain entry hentry).1.2 _ hmem).1 rfl
  · exact absurd hmem (by decide)
  · exact ((hplain entry hentry).2.2 _ hmem).1 rfl

theorem pairs_intercalate {entries : List (String × String)}
    (hplain : ∀ entry ∈ entries, IsPlain entry.1 ∧ IsPlain entry.2) :
    pairs (['&'].intercalate (entries.map renderPair)) = entries := by
  cases hentries : entries with
  | nil => rfl
  | cons first rest =>
    rw [← hentries, pairs, List.splitOn_intercalate _ (not_mem_renderPair hplain) (by simp [hentries]),
      filterMap_pair?_renderPair hplain]

/-- Parameters with plain keys and values are read back in their order. -/
theorem parse_render {params : Params} (hplain : ∀ entry ∈ params.entries, IsPlain entry.1 ∧ IsPlain entry.2) :
    parse params.render.toList = params := by
  rw [parse, toList_render, pairs_intercalate hplain, Table.ofList_entries]

theorem not_mem_render {params : Params}
    (hplain : ∀ entry ∈ params.entries, IsPlain entry.1 ∧ IsPlain entry.2) : '?' ∉ params.render.toList := by
  intro hmem
  rw [toList_render] at hmem
  rcases eq_or_mem_of_mem_intercalate hmem with hmark | ⟨piece, hpiece, hin⟩
  · exact absurd hmark (by decide)
  · obtain ⟨entry, hentry, rfl⟩ := List.mem_map.1 hpiece
    rw [renderPair, List.mem_append, List.mem_cons] at hin
    rcases hin with hin | hin | hin
    · exact ((hplain entry hentry).1.2 _ hin).2.2 rfl
    · exact absurd hin (by decide)
    · exact ((hplain entry hentry).2.2 _ hin).2.2 rfl

/-- A pair that counts has a plain key and a plain value, if no `?` is around. -/
theorem isPlain_of_pair? {text : List Char} {entry : String × String} (hpair : pair? text = some entry)
    (hand : '&' ∉ text) (hquestion : '?' ∉ text) : IsPlain entry.1 ∧ IsPlain entry.2 := by
  have hpiece : ∀ piece ∈ text.splitOn '=', ∀ c ∈ piece, c ≠ '&' ∧ c ≠ '=' ∧ c ≠ '?' := by
    intro piece hmem c hc
    have hin : c ∈ text := mem_of_mem_splitOn hmem hc
    exact ⟨fun h => hand (h ▸ hin), fun h => not_mem_of_mem_splitOn hmem (h ▸ hc), fun h => hquestion (h ▸ hin)⟩
  unfold pair? at hpair
  split at hpair
  · rename_i key value rest hsplit
    split at hpair
    · simp at hpair
    · rename_i hne
      rw [not_or] at hne
      cases hpair
      rw [hsplit] at hpiece
      refine ⟨⟨fun h => hne.1 ?_, ?_⟩, ⟨fun h => hne.2 ?_, ?_⟩⟩
      · simpa using congrArg String.toList h
      · simpa using hpiece key List.mem_cons_self
      · simpa using congrArg String.toList h
      · simpa using hpiece value (List.mem_cons_of_mem _ List.mem_cons_self)
  · simp at hpair

/-- Parameters are read as plain keys and values. -/
theorem isPlain_of_mem_parse {text : List Char} (hquestion : '?' ∉ text) {entry : String × String}
    (hmem : entry ∈ (parse text).entries) : IsPlain entry.1 ∧ IsPlain entry.2 := by
  have hpairs := Table.mem_of_mem_ofList hmem
  rw [pairs, List.mem_filterMap] at hpairs
  obtain ⟨piece, hpiece, hpair⟩ := hpairs
  exact isPlain_of_pair? hpair (not_mem_of_mem_splitOn hpiece) fun h => hquestion (mem_of_mem_splitOn hpiece h)

end Params

namespace Scope

/-! ### Scopes -/

def layout (scope : Scope) : Layout where
  subject := scope.subject.toList
  first := '/'
  resource := scope.resource.toList
  second := '.'
  letters := scope.actions.map Action.letter
  tail :=
    match scope.params with
    | none => []
    | some params => '?' :: params.render.toList

theorem toList_render (scope : Scope) : scope.render.toList = scope.layout.text := by
  unfold render layout Layout.text
  cases scope.params <;> simp [letters]

theorem WellFormed.valid_layout {scope : Scope} (hwell : scope.WellFormed) : scope.layout.Valid where
  subject_ne_nil h := hwell.subject_isName.1 (String.toList_inj.1 h)
  subject_free := hwell.subject_isName.2
  first_separator := List.mem_cons_self
  resource_ne_nil h := hwell.resource_isName.1 (String.toList_inj.1 h)
  resource_free := hwell.resource_isName.2
  second_separator := List.mem_cons_of_mem _ List.mem_cons_self
  letters_ne_nil h := hwell.actions_ne_nil (List.map_eq_nil_iff.1 h)
  letters_known c hc := by
    obtain ⟨action, -, rfl⟩ := List.mem_map.1 hc
    exact letter_mem action
  tail_marked := by
    unfold layout
    cases scope.params <;> simp

/-- Before the tail of the written form of a well-formed scope there is no `?`. -/
theorem WellFormed.not_mem_head {scope : Scope} (hwell : scope.WellFormed) :
    '?' ∉ scope.subject.toList ++ '/' :: (scope.resource.toList ++ '.' :: scope.actions.map Action.letter) := by
  intro hmem
  simp only [List.mem_append, List.mem_cons, List.mem_map] at hmem
  rcases hmem with h | h | h | h | ⟨action, -, h⟩
  · exact absurd (hwell.subject_isName.2 _ h) (by decide)
  · exact absurd h (by decide)
  · exact absurd (hwell.resource_isName.2 _ h) (by decide)
  · exact absurd h (by decide)
  · exact absurd h (by cases action <;> decide)

theorem WellFormed.paramsText?_layout {scope : Scope} (hwell : scope.WellFormed) :
    paramsText? scope.layout.text = scope.params.map fun params => params.render.toList := by
  have hhead := hwell.not_mem_head
  unfold paramsText? layout Layout.text
  cases hparams : scope.params with
  | none =>
    simp only [List.append_nil, List.append_assoc, List.cons_append]
    rw [List.splitOn_eq_singleton hhead]
    rfl
  | some params =>
    have htail := Params.not_mem_render (hwell.params_isPlain params hparams)
    have hsplit := List.splitOn_append_cons_self_of_not_mem hhead params.render.toList
    simp only [List.append_assoc, List.cons_append] at hsplit ⊢
    rw [hsplit, List.splitOn_eq_singleton htail]
    rfl

/-- A well-formed scope is read back from its written form. -/
theorem WellFormed.parse?_render {scope : Scope} (hwell : scope.WellFormed) :
    parse? scope.render = some scope := by
  rw [parse?, toList_render, parseChars?_text hwell.valid_layout, Layout.scope, hwell.paramsText?_layout]
  have hparams : (scope.params.map fun params => params.render.toList).map Params.parse = scope.params := by
    cases hsome : scope.params with
    | none => rfl
    | some params => simp [Params.parse_render (hwell.params_isPlain params hsome)]
  rw [hparams]
  simp only [layout, filterMap_ofLetter?_map_letter, String.ofList_toList]

/-- Reading returns well-formed scopes only. -/
theorem wellFormed_of_parse? {text : String} {scope : Scope} (hparse : parse? text = some scope) :
    scope.WellFormed := by
  obtain ⟨layout, hvalid, -, rfl⟩ := exists_layout_of_parseChars? hparse
  refine ⟨⟨fun h => hvalid.subject_ne_nil ?_, ?_⟩, ⟨fun h => hvalid.resource_ne_nil ?_, ?_⟩, ?_, ?_⟩
  · simpa [Layout.scope] using congrArg String.toList h
  · simpa [Layout.scope] using hvalid.subject_free
  · simpa [Layout.scope] using congrArg String.toList h
  · simpa [Layout.scope] using hvalid.resource_free
  · intro h
    have hactions := Action.eq_map_letter_of_ofLetters (ofLetters_eq_ok_filterMap hvalid.letters_known)
    rw [show layout.letters.filterMap Action.ofLetter? = [] from h] at hactions
    exact hvalid.letters_ne_nil hactions
  · intro params hparams entry hentry
    simp only [Layout.scope, Option.map_eq_some_iff] at hparams
    obtain ⟨raw, hraw, rfl⟩ := hparams
    refine Params.isPlain_of_mem_parse ?_ hentry
    exact not_mem_of_mem_splitOn (List.mem_of_getElem? hraw)

end Scope

end AccessScopes
