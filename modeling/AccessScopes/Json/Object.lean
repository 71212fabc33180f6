import AccessScopes.Json.Literal
import AccessScopes.Text.Split

/-!
# Flat JSON objects

Objects whose members are texts and flags, written without blanks and in ASCII, the members in the
order given. Reading takes the same compact form.
-/

namespace AccessScopes.Json

inductive Scalar
  | text (value : String)
  | flag (value : Bool)
  deriving DecidableEq

/-- The members of an object in order. -/
abbrev Object := List (String × Scalar)

def Scalar.render : Scalar → List Char
  | .text value => literal value
  | .flag true => "true".toList
  | .flag false => "false".toList

/-- A name and its value. -/
def renderMember (member : String × Scalar) : List Char :=
  literal member.1 ++ ':' :: member.2.render

/-- Writes an object in one line. -/
def Object.render (object : Object) : List Char :=
  '\x7b' :: ([','].intercalate (object.map renderMember) ++ ['\x7d'])

/-! ### Reading -/

/-- Reads a text or a flag and returns what follows it. -/
def scalar? (text : List Char) : Option (Scalar × List Char) :=
  if "true".toList.isPrefixOf text then some (.flag true, text.drop 4)
  else if "false".toList.isPrefixOf text then some (.flag false, text.drop 5)
  else (literal? text).map fun (value, rest) => (.text value, rest)

/-- Reads a name and its value and returns what follows them. -/
def member? (text : List Char) : Option ((String × Scalar) × List Char) :=
  match literal? text with
  | none => none
  | some (name, afterName) =>
    match afterName with
    | [] => none
    | c :: rest =>
      if c = ':' then (scalar? rest).map fun (value, last) => ((name, value), last) else none

theorem length_of_literalBody? {text rest body : List Char} (hread : literalBody? text = some (body, rest)) :
    rest.length < text.length := by
  fun_induction literalBody? text generalizing body rest with
  | case1 => simp at hread
  | case2 => simp_all
  | case3 => simp at hread
  | case4 last _ d after hescaped hlength ih =>
    simp only [Option.map_eq_some_iff, Prod.mk.injEq] at hread
    obtain ⟨⟨body, tail⟩, htail, -, rfl⟩ := hread
    have hrest := ih htail
    simp only [List.length_cons]
    omega
  | case5 => simp at hread
  | case6 c last _ _ _ ih =>
    simp only [Option.map_eq_some_iff, Prod.mk.injEq] at hread
    obtain ⟨⟨body, tail⟩, htail, -, rfl⟩ := hread
    have hrest := ih htail
    simp only [List.length_cons]
    omega

theorem length_of_literal? {text rest : List Char} {value : String} (hread : literal? text = some (value, rest)) :
    rest.length < text.length := by
  cases text with
  | nil => simp [literal?] at hread
  | cons c tail =>
    simp only [literal?, Option.ite_none_right_eq_some, Option.map_eq_some_iff, Prod.mk.injEq] at hread
    obtain ⟨-, ⟨body, last⟩, hbody, -, rfl⟩ := hread
    have hlength := length_of_literalBody? hbody
    simp only [List.length_cons]
    omega

theorem length_of_scalar? {text rest : List Char} {value : Scalar} (hread : scalar? text = some (value, rest)) :
    rest.length ≤ text.length := by
  unfold scalar? at hread
  split at hread
  · simp only [Option.some.injEq, Prod.mk.injEq] at hread
    rw [← hread.2, List.length_drop]
    omega
  · split at hread
    · simp only [Option.some.injEq, Prod.mk.injEq] at hread
      rw [← hread.2, List.length_drop]
      omega
    · simp only [Option.map_eq_some_iff, Prod.mk.injEq] at hread
      obtain ⟨⟨body, last⟩, hbody, -, rfl⟩ := hread
      exact Nat.le_of_lt (length_of_literal? hbody)

theorem length_of_member? {text rest : List Char} {member : String × Scalar}
    (hread : member? text = some (member, rest)) : rest.length < text.length := by
  unfold member? at hread
  split at hread
  · simp at hread
  · rename_i name afterName hname
    have hlength := length_of_literal? hname
    split at hread
    · simp at hread
    · simp only [Option.ite_none_right_eq_some, Option.map_eq_some_iff, Prod.mk.injEq] at hread
      obtain ⟨-, ⟨value, last⟩, hvalue, -, hlast⟩ := hread
      dsimp only at hlast
      subst hlast
      have hrest := length_of_scalar? hvalue
      simp only [List.length_cons] at hlength
      omega

/-- Reads the members of an object up to its closing brace and returns what follows it. -/
def members? (text : List Char) : Option (Object × List Char) :=
  match hmember : member? text with
  | none => none
  | some (_, []) => none
  | some (member, c :: rest) =>
    have := length_of_member? hmember
    if c = ',' then (members? rest).map fun (object, last) => (member :: object, last)
    else if c = '\x7d' then some ([member], rest)
    else none
termination_by text.length
decreasing_by simp only [List.length_cons] at this; omega

/-- Reads a text that is an object and nothing else. -/
def Object.parse? : List Char → Option Object
  | [] => none
  | c :: rest =>
    if c ≠ '\x7b' then none
    else if rest = ['\x7d'] then some []
    else
      match members? rest with
      | some (object, []) => some object
      | _ => none

/-! ### Reading what was written -/

theorem scalar?_render_append (value : Scalar) (rest : List Char) :
    scalar? (value.render ++ rest) = some (value, rest) := by
  cases value with
  | flag value => cases value <;> simp [scalar?, Scalar.render, List.isPrefixOf]
  | text value =>
    have hliteral := literal?_literal_append value rest
    have hnot : ∀ word : List Char, word.head? ≠ some '\x22' → word ≠ [] →
        word.isPrefixOf (literal value ++ rest) = false := by
      intro word hhead hne
      cases word with
      | nil => exact absurd rfl hne
      | cons c word =>
        have hc : c ≠ '\x22' := by simpa using hhead
        simp [literal, List.isPrefixOf, hc]
    rw [scalar?, Scalar.render, hnot _ (by decide) (by decide), hnot _ (by decide) (by decide), hliteral]
    rfl

theorem member?_renderMember_append (member : String × Scalar) (rest : List Char) :
    member? (renderMember member ++ rest) = some (member, rest) := by
  obtain ⟨name, value⟩ := member
  rw [renderMember, List.append_assoc, List.cons_append, member?, literal?_literal_append]
  simp [scalar?_render_append]

theorem members?_of_member? {text rest : List Char} {member : String × Scalar} {c : Char}
    (hmember : member? text = some (member, c :: rest)) :
    members? text =
      if c = ',' then (members? rest).map fun (object, last) => (member :: object, last)
      else if c = '\x7d' then some ([member], rest)
      else none := by
  rw [members?]
  split
  · simp_all
  · simp_all
  · rename_i hread
    rw [hmember] at hread
    cases hread
    rfl

theorem members?_render_append (member : String × Scalar) (members : Object) (rest : List Char) :
    members? ([','].intercalate (renderMember member :: members.map renderMember) ++ '\x7d' :: rest) =
      some (member :: members, rest) := by
  induction members generalizing member with
  | nil =>
    rw [List.map_nil, List.intercalate_singleton, members?_of_member? (member?_renderMember_append member _),
      if_neg (by decide), if_pos rfl]
  | cons next members ih =>
    have hmember := member?_renderMember_append member
      (',' :: ([','].intercalate (renderMember next :: members.map renderMember) ++ '\x7d' :: rest))
    rw [List.map_cons, List.intercalate_cons_cons, List.append_assoc, List.append_assoc, List.singleton_append,
      members?_of_member? hmember, if_pos rfl, ih]
    rfl

/-- Reading an object gives back what was written. -/
theorem Object.parse?_render (object : Object) : Object.parse? object.render = some object := by
  cases object with
  | nil => rfl
  | cons member members =>
    have hread := members?_render_append member members []
    have hne : [','].intercalate ((member :: members).map renderMember) ++ ['\x7d'] ≠ ['\x7d'] := by
      intro h
      have hmember : member? ['\x7d'] = none := rfl
      rw [← List.map_cons, h, members?] at hread
      split at hread <;> simp_all
    rw [Object.render, Object.parse?, if_neg (by simp), if_neg hne, List.map_cons, hread]

/-- An object is written in printable ASCII. -/
theorem isAscii_of_mem_render {object : Object} {c : Char} (hmem : c ∈ object.render) :
    0x20 ≤ c.toNat ∧ c.toNat ≤ 0x7E := by
  have hscalar : ∀ value : Scalar, c ∈ value.render → 0x20 ≤ c.toNat ∧ c.toNat ≤ 0x7E := by
    intro value hc
    cases value with
    | text value => exact isAscii_of_mem_literal hc
    | flag value =>
      have hall : (Scalar.flag value).render.all (fun d => decide (0x20 ≤ d.toNat ∧ d.toNat ≤ 0x7E)) = true := by
        cases value <;> rfl
      exact of_decide_eq_true (List.all_eq_true.1 hall c hc)
  have hmember : ∀ member, c ∈ renderMember member → 0x20 ≤ c.toNat ∧ c.toNat ≤ 0x7E := by
    intro member hc
    rw [renderMember, List.mem_append, List.mem_cons] at hc
    rcases hc with hc | rfl | hc
    · exact isAscii_of_mem_literal hc
    · decide
    · exact hscalar _ hc
  rw [Object.render, List.mem_cons, List.mem_append, List.mem_singleton] at hmem
  rcases hmem with rfl | hc | rfl
  · decide
  · rcases Text.eq_or_mem_of_mem_intercalate hc with rfl | ⟨piece, hpiece, hin⟩
    · decide
    · obtain ⟨member, -, rfl⟩ := List.mem_map.1 hpiece
      exact hmember member hin
  · decide

end AccessScopes.Json
