import AccessScopes.Proofs.Scope.Acceptance

/-!
# Texts with a suffix

What is written behind a scope, after a `?`, becomes part of the tail of its layout, so that the subject, the
resource and the actions are read as before. The parameters are looked for after the first `?` of the whole text
and before the next. So the suffix gives them if it follows the first `?`, and is dead otherwise. Even then a pair
counts by its key and its value alone, whatever stands from its second `=` on.
-/

namespace AccessScopes

open Text

/-! ### Clipped pairs -/

namespace Params

/-- What stands in a pair from its second `=` on may be cut off, in whole or in part. -/
inductive ClippedPair : List Char → List Char → Prop
  | whole (pair : List Char) : ClippedPair pair pair
  | clipped (key value rest kept : List Char) (hkey : '=' ∉ key) (hvalue : '=' ∉ value) (hkept : kept <+: '=' :: rest) :
      ClippedPair (key ++ '=' :: (value ++ '=' :: rest)) (key ++ '=' :: (value ++ kept))

/-- The texts have the same pairs between `&`, of which any number are clipped in the second. -/
def Clipped (text clipped : List Char) : Prop :=
  ∃ pairs others, Pieces '&' text pairs ∧ Pieces '&' clipped others ∧ List.Forall₂ ClippedPair pairs others

variable {key value after pair clipped text : List Char}

theorem pair?_append (hkey : '=' ∉ key) (hvalue : '=' ∉ value) (hafter : after = [] ∨ after.head? = some '=') :
    pair? (key ++ '=' :: (value ++ after)) =
      if key = [] ∨ value = [] then none else some (.ofList key, .ofList value) := by
  have hsplit : ∃ rest, (key ++ '=' :: (value ++ after)).splitOn '=' = key :: value :: rest := by
    rw [List.splitOn_append_cons_self_of_not_mem hkey]
    cases after with
    | nil => exact ⟨[], by rw [List.append_nil, List.splitOn_eq_singleton hvalue]⟩
    | cons c rest =>
      have hc : c = '=' := by simpa using hafter
      rw [hc, List.splitOn_append_cons_self_of_not_mem hvalue]
      exact ⟨rest.splitOn '=', rfl⟩
  obtain ⟨rest, hsplit⟩ := hsplit
  rw [pair?, hsplit]

/-- A pair counts by what stands before its second `=`. -/
theorem ClippedPair.pair?_eq (hclipped : ClippedPair pair clipped) : pair? clipped = pair? pair := by
  cases hclipped with
  | whole => rfl
  | clipped key value rest kept hkey hvalue hkept =>
    have hafter : kept = [] ∨ kept.head? = some '=' := by
      rcases List.prefix_cons_iff.1 hkept with hnil | ⟨more, hcons, -⟩
      · exact Or.inl hnil
      · exact Or.inr (by rw [hcons, List.head?_cons])
    rw [pair?_append hkey hvalue hafter, pair?_append hkey hvalue (Or.inr rfl)]

theorem ClippedPair.mem {c : Char} (hclipped : ClippedPair pair clipped) (hc : c ∈ clipped) : c ∈ pair := by
  cases hclipped with
  | whole => exact hc
  | clipped key value rest kept hkey hvalue hkept =>
    simp only [List.mem_append, List.mem_cons] at hc ⊢
    refine hc.imp_right (Or.imp_right (Or.imp_right fun hin => ?_))
    exact List.mem_cons.1 (hkept.subset hin)

theorem filterMap_pair?_of_clipped {pieces others : List (List Char)} (hforall : List.Forall₂ ClippedPair pieces others) :
    others.filterMap pair? = pieces.filterMap pair? := by
  induction hforall with
  | nil => rfl
  | cons hpair _ ih => rw [List.filterMap_cons, List.filterMap_cons, hpair.pair?_eq, ih]

theorem Clipped.parse_eq (hclipped : Clipped text clipped) : parse clipped = parse text := by
  obtain ⟨pieces, others, hpieces, hothers, hforall⟩ := hclipped
  rw [parse, parse, pairs, pairs, pieces_iff.1 hpieces, pieces_iff.1 hothers, filterMap_pair?_of_clipped hforall]

theorem Clipped.mem {c : Char} (hclipped : Clipped text clipped) (hc : c ∈ clipped) : c = '&' ∨ c ∈ text := by
  obtain ⟨pieces, others, hpieces, hothers, hforall⟩ := hclipped
  rw [← hothers.joined] at hc
  rcases eq_or_mem_of_mem_intercalate hc with hmark | ⟨other, hother, hin⟩
  · exact Or.inl hmark
  · obtain ⟨index, rfl⟩ := List.get_of_mem hother
    have hindex : index.val < pieces.length := by
      rw [hforall.length_eq]
      exact index.isLt
    have hpiece : pieces.get ⟨index, hindex⟩ ∈ text.splitOn '&' := by
      rw [pieces_iff.1 hpieces]
      exact List.get_mem pieces _
    exact Or.inr (mem_of_mem_splitOn hpiece ((hforall.get hindex index.isLt).mem hin))

end Params

/-! ### The first mark -/

namespace Text

variable {text : List Char}

theorem not_mem_takeWhile (text : List Char) : '?' ∉ text.takeWhile (· ≠ '?') := by
  intro hmem
  simpa using List.all_eq_true.1 List.all_takeWhile '?' hmem

theorem afterFirst_suffix (hfree : '?' ∉ text) (suffix : List Char) :
    AfterFirst '?' (text ++ '?' :: suffix) (suffix.takeWhile (· ≠ '?')) := by
  refine ⟨text, suffix.dropWhile (· ≠ '?'), ?_, hfree, not_mem_takeWhile suffix, Scope.marked_dropWhile suffix⟩
  rw [List.takeWhile_append_dropWhile]

end Text

namespace Scope

variable {subjects resources : Option (List String)} {text suffix : String} {layout : Layout}

/-- The layout of the text with a suffix behind it. -/
def Layout.extended (layout : Layout) (suffix : List Char) : Layout :=
  { layout with tail := layout.tail ++ '?' :: suffix }

theorem Layout.text_extended (layout : Layout) (suffix : List Char) :
    (layout.extended suffix).text = layout.text ++ '?' :: suffix := by
  simp [extended, Layout.text]

theorem Layout.Admitted.extended (hadmitted : layout.Admitted subjects resources text) (suffix : String) :
    (layout.extended suffix.toList).Admitted subjects resources (text ++ "?" ++ suffix) where
  valid :=
    { hadmitted.valid with
      tail_marked := Or.inr (head?_append_cons hadmitted.valid.tail_marked suffix.toList) }
  text_eq := by
    rw [Layout.text_extended, hadmitted.text_eq]
    simp
  subject_listed := hadmitted.subject_listed
  resource_listed := hadmitted.resource_listed

/-- A suffix that does not follow the first `?` is dead. -/
theorem Layout.scope_extended_of_mem (hmark : '?' ∈ layout.text) (suffix : List Char) :
    (layout.extended suffix).scope = layout.scope := by
  obtain ⟨raw, hraw⟩ := exists_afterFirst_of_mem hmark
  have htext : paramsText? layout.text = some raw := hraw.getElem?_splitOn
  have hextended : paramsText? (layout.text ++ '?' :: suffix) = some raw := (hraw.append suffix).getElem?_splitOn
  rw [Layout.scope, Layout.scope, text_extended, hextended, htext]
  rfl

/-- A suffix that follows the first `?` gives the parameters, up to its own first `?`. -/
theorem Layout.scope_extended_of_not_mem (hfree : '?' ∉ layout.text) (suffix : List Char) :
    (layout.extended suffix).scope =
      { layout.scope with params := some (Params.parse (suffix.takeWhile (· ≠ '?'))) } := by
  have hextended : paramsText? (layout.text ++ '?' :: suffix) = some (suffix.takeWhile (· ≠ '?')) :=
    (afterFirst_suffix hfree suffix).getElem?_splitOn
  rw [Layout.scope, text_extended, hextended]
  rfl

/-- A scope with a suffix behind it is read under the same allow-lists, with the subject, the resource and the
actions it had. If it has a `?` already, the suffix is dead. If not, the parameters are those of the suffix up to
its first `?`, an empty set if no pair of it counts, and they stay the same if the rest of the suffix is left out
and pairs are clipped. -/
theorem parse?_append_suffix (subjects resources : Option (List String)) (text : String) (scope : Scope)
    (hparse : (AllowLists.given subjects resources).parse? text = some scope) (suffix : String) :
    ∃ extended, (AllowLists.given subjects resources).parse? (text ++ "?" ++ suffix) = some extended ∧
      extended.subject = scope.subject ∧ extended.resource = scope.resource ∧ extended.actions = scope.actions ∧
      ('?' ∈ text.toList → extended = scope) ∧
      ('?' ∉ text.toList →
        extended.params = some (Params.parse (suffix.toList.takeWhile (· ≠ '?'))) ∧
          ∀ clipped : String, Params.Clipped (suffix.toList.takeWhile (· ≠ '?')) clipped.toList →
            (AllowLists.given subjects resources).parse? (text ++ "?" ++ clipped) = some extended) := by
  obtain ⟨layout, hadmitted, rfl⟩ := parse?_eq_some_iff_admitted.1 hparse
  refine ⟨(layout.extended suffix.toList).scope,
    parse?_eq_some_iff_admitted.2 ⟨_, hadmitted.extended suffix, rfl⟩, rfl, rfl, rfl, ?_, ?_⟩
  · intro hmark
    rw [← hadmitted.text_eq] at hmark
    exact Layout.scope_extended_of_mem hmark suffix.toList
  · intro hfree
    rw [← hadmitted.text_eq] at hfree
    rw [Layout.scope_extended_of_not_mem hfree]
    refine ⟨rfl, ?_⟩
    intro clipped hclipped
    -- Nothing is cut off the clipped text, because it has no mark of its own.
    have hplain : '?' ∉ clipped.toList := by
      intro hmem
      rcases hclipped.mem hmem with hand | hcut
      · exact absurd hand (by decide)
      · exact not_mem_takeWhile suffix.toList hcut
    have hwhole : clipped.toList.takeWhile (· ≠ '?') = clipped.toList := by
      have htake := takeWhile_letters_append hplain (Or.inl rfl)
      rwa [List.append_nil] at htake
    refine parse?_eq_some_iff_admitted.2 ⟨_, hadmitted.extended clipped, ?_⟩
    rw [Layout.scope_extended_of_not_mem hfree, hwhole, hclipped.parse_eq]

/-- A scope without parameters, with a suffix of which two pairs can be clipped and the end is dead. -/
theorem parse?_orders_with_suffix :
    (AllowLists.given (some ["user"]) none).parse? "user/orders.rr" =
        some { subject := "user", resource := "orders", actions := [.read, .read], params := none } ∧
      (AllowLists.given (some ["user"]) none).parse? "user/orders.rr?id=7=x&id=8=&k?id=9" =
        (AllowLists.given (some ["user"]) none).parse? "user/orders.rr?id=7&id=8=&k" := by
  have hparse : (AllowLists.given (some ["user"]) none).parse? "user/orders.rr" =
      some { subject := "user", resource := "orders", actions := [.read, .read], params := none } := by
    decide +kernel
  refine ⟨hparse, ?_⟩
  obtain ⟨extended, hextended, -, -, -, -, hfree⟩ :=
    parse?_append_suffix (some ["user"]) none "user/orders.rr" _ hparse "id=7=x&id=8=&k?id=9"
  have hclipped : Params.Clipped ("id=7=x&id=8=&k?id=9".toList.takeWhile (· ≠ '?')) "id=7&id=8=&k".toList := by
    refine ⟨["id=7=x".toList, "id=8=".toList, "k".toList], ["id=7".toList, "id=8=".toList, "k".toList],
      pieces_iff.2 (by decide +kernel), pieces_iff.2 (by decide +kernel), ?_⟩
    refine .cons ?_ (.cons (.whole _) (.cons (.whole _) .nil))
    exact .clipped ['i', 'd'] ['7'] ['x'] [] (by decide) (by decide) List.nil_prefix
  exact hextended.trans ((hfree (by decide +kernel)).2 "id=7&id=8=&k" hclipped).symm

end Scope

end AccessScopes
