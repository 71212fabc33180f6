import AccessScopes.Proofs.Params.Effective

/-!
# Parameters merged pair by pair

Reading two texts joined by `&` is reading each of them and merging the second result into the first: keys
that are there keep their places and take the new values, and new keys follow in their order. So the last
pair that counts for a key gives its value, while the first one gives its place.
-/

namespace AccessScopes.Params

open Text

/-- A key or a value that a pair can give. -/
structure IsPart (text : String) : Prop where
  ne_empty : text ≠ ""
  no_ampersand : '&' ∉ text.toList
  no_equals : '=' ∉ text.toList

/-- The pieces of the text before the first one that counts for the key. -/
def BeforeFirst (raw key : List Char) (before : List (List Char)) : Prop :=
  ∃ pair after, Pieces '&' raw (before ++ pair :: after) ∧ (∃ value, Gives pair key value) ∧
    ∀ other ∈ before, ∀ value, ¬ Gives other key value

variable {raw pair : List Char} {key value : List Char}

theorem Gives.isPart (hgives : Gives pair key value) (hpair : '&' ∉ pair) :
    IsPart (.ofList key) ∧ IsPart (.ofList value) := by
  obtain ⟨hkey, hvalue, rest, hpieces⟩ := hgives
  have hpart : ∀ piece ∈ key :: value :: rest, piece ≠ [] → IsPart (.ofList piece) := by
    intro piece hpiece hne
    have hsplit : piece ∈ pair.splitOn '=' := by
      rw [pieces_iff.1 hpieces]
      exact hpiece
    refine ⟨?_, ?_, ?_⟩
    · intro hempty
      exact hne (by simpa using congrArg String.toList hempty)
    · rw [String.toList_ofList]
      exact fun hmem => hpair (mem_of_mem_splitOn hsplit hmem)
    · rw [String.toList_ofList]
      exact not_mem_of_mem_splitOn hsplit
  exact ⟨hpart key List.mem_cons_self hkey, hpart value (List.mem_cons_of_mem _ List.mem_cons_self) hvalue⟩

theorem isPart_of_mem_parse {entry : String × String} (hentry : entry ∈ (parse raw).entries) :
    IsPart entry.1 ∧ IsPart entry.2 := by
  obtain ⟨piece, hpiece, hpair⟩ := List.mem_filterMap.1 (Table.mem_of_mem_ofList hentry)
  have hparts := (pair?_eq_some_iff.1 hpair).isPart (not_mem_of_mem_splitOn hpiece)
  simpa only [String.ofList_toList] using hparts

/-! ### Two texts in one -/

theorem parse_append (left right : List Char) : parse (left ++ '&' :: right) = (parse left).merge (parse right) := by
  rw [parse, pairs_append, Table.ofList_append]
  rfl

/-! ### The order of the keys -/

/-- The pieces that give a key are those that the reader takes for a pair with this key. -/
theorem exists_gives_iff {pieces : List (List Char)} {key : String} :
    (∃ value, (key, value) ∈ pieces.filterMap pair?) ↔ ∃ piece ∈ pieces, ∃ value, Gives piece key.toList value := by
  simp only [List.mem_filterMap, pair?_eq_some_iff]
  constructor
  · intro h
    obtain ⟨value, piece, hpiece, hgives⟩ := h
    exact ⟨piece, hpiece, value.toList, hgives⟩
  · intro h
    obtain ⟨piece, hpiece, value, hgives⟩ := h
    refine ⟨.ofList value, piece, hpiece, ?_⟩
    rw [String.toList_ofList]
    exact hgives

/-- A key stands right after the keys that are given before the first piece that counts for it. -/
theorem exists_beforeFirst_of_keys_parse {earlier later : List String} {key : String}
    (hkeys : (parse raw).keys = earlier ++ key :: later) :
    ∃ before, BeforeFirst raw key.toList before ∧
      ∀ other, other ∈ earlier ↔ ∃ piece ∈ before, ∃ value, Gives piece other.toList value := by
  obtain ⟨given, value, rest, hpairs, hgiven⟩ := Table.exists_first_of_keys_ofList hkeys
  obtain ⟨before, others, hsplit, rfl, hothers⟩ := List.filterMap_eq_append_iff.1 hpairs
  obtain ⟨ignored, pair, after, rfl, hignored, hpair, -⟩ := List.filterMap_eq_cons_iff.1 hothers
  simp only [exists_gives_iff] at hgiven
  -- Pieces that do not count may stand between the pairs before and the first pair with the key.
  have hnone : ∀ piece ∈ ignored, ∀ other value, ¬ Gives piece other value := by
    intro piece hpiece other value hgives
    have hcounts : pair? piece = some (.ofList other, .ofList value) := by
      rw [pair?_eq_some_iff, String.toList_ofList, String.toList_ofList]
      exact hgives
    rw [hignored piece hpiece] at hcounts
    cases hcounts
  have hbefore : ∀ other, (∃ piece ∈ before ++ ignored, ∃ value, Gives piece other value) ↔
      ∃ piece ∈ before, ∃ value, Gives piece other value := by
    intro other
    constructor
    · intro h
      obtain ⟨piece, hpiece, value, hgives⟩ := h
      rcases List.mem_append.1 hpiece with hpiece | hpiece
      · exact ⟨piece, hpiece, value, hgives⟩
      · exact absurd hgives (hnone piece hpiece other value)
    · intro h
      obtain ⟨piece, hpiece, hgives⟩ := h
      exact ⟨piece, List.mem_append_left _ hpiece, hgives⟩
  have hnew : key ∉ earlier := by
    have hnodup : (earlier ++ key :: later).Nodup := hkeys ▸ (parse raw).nodup_keys
    exact fun hmem => (List.nodup_append.1 hnodup).2.2 key hmem key List.mem_cons_self rfl
  refine ⟨before ++ ignored, ⟨pair, after, ?_, ⟨value.toList, pair?_eq_some_iff.1 hpair⟩, ?_⟩, ?_⟩
  · exact pieces_iff.2 (by simpa using hsplit)
  · intro other hother overriding hgives
    exact hnew ((hgiven key).2 ((hbefore key.toList).1 ⟨other, hother, overriding, hgives⟩))
  · intro other
    rw [hbefore, hgiven]

/-- Reading two texts joined by `&` merges the parameters of the second into those of the first. All keys
are different, and keys and values are parts of pairs. A key has the value of the last piece that counts for
it, and its place is that of the first. -/
theorem parse_merges_with_last_values_at_first_places :
    (∀ left right : List Char,
      parse (left ++ '&' :: right) = (parse left).merge (parse right) ∧
        (parse (left ++ '&' :: right)).keys =
          (parse left).keys ++ (parse right).keys.filter (· ∉ (parse left).keys) ∧
        ∀ key, (parse (left ++ '&' :: right)).get? key = ((parse right).get? key).or ((parse left).get? key)) ∧
      ∀ raw : List Char,
        (parse raw).keys.Nodup ∧
          (∀ entry ∈ (parse raw).entries, IsPart entry.1 ∧ IsPart entry.2) ∧
          (∀ key value, (parse raw).get? key = some value ↔ Effective raw key.toList value.toList) ∧
          ∀ earlier key later, (parse raw).keys = earlier ++ key :: later →
            ∃ before, BeforeFirst raw key.toList before ∧
              ∀ other, other ∈ earlier ↔ ∃ piece ∈ before, ∃ value, Gives piece other.toList value := by
  constructor
  · intro left right
    rw [parse_append]
    exact ⟨rfl, Table.keys_merge _ _, Table.get?_merge _ _⟩
  · intro raw
    refine ⟨(parse raw).nodup_keys, fun entry => isPart_of_mem_parse, ?_, ?_⟩
    · intro key value
      exact get?_parse_eq_some_iff
    · intro earlier key later hkeys
      exact exists_beforeFirst_of_keys_parse hkeys

/-- The second value of `a` wins in the first place of `a`, and the third pair, whose value is empty, does not
erase it. -/
example : (parse "a=1&b=2&a=3=x&a=&=y".toList).entries = [("a", "3"), ("b", "2")] := by decide +kernel

end AccessScopes.Params
