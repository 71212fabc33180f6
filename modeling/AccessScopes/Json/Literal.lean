import AccessScopes.Text.Hex
import AccessScopes.Text.Utf16

/-!
# JSON string literals in ASCII

A text is written between double quotes with the blank to the tilde as they are, short escapes where
JSON has one that is in common use, and four-digit escapes of UTF-16 units for all else. Reading a
literal gives back the text and what follows the closing quote.
-/

namespace AccessScopes.Json

open Text

/-- The escape of one UTF-16 unit. -/
def escapeUnit (unit : Nat) : List Char :=
  '\\' :: 'u' :: Hex.digits 4 unit

/-- How a character stands in a literal. -/
def escape (c : Char) : List Char :=
  if c = '\x22' ∨ c = '\\' then ['\\', c]
  else if c = '\n' then ['\\', 'n']
  else if c = '\r' then ['\\', 'r']
  else if c = '\t' then ['\\', 't']
  else if c = '\x0c' then ['\\', 'f']
  else if c = '\x08' then ['\\', 'b']
  else if 0x20 ≤ c.toNat ∧ c.toNat ≤ 0x7E then [c]
  else (Utf16.units c).flatMap escapeUnit

/-- The literal of a text. -/
def literal (text : String) : List Char :=
  '\x22' :: (text.toList.flatMap escape ++ ['\x22'])

/-! ### Reading -/

/-- Reads the digits of a character above U+FFFF or below, after its first `\u`. -/
def escapedUnits? (text : List Char) : Option (Char × List Char) :=
  match Hex.read? 4 text with
  | none => none
  | some (high, rest) =>
    if Utf16.isHighSurrogate high then
      match rest with
      | backslash :: u :: digits =>
        if backslash = '\\' ∧ u = 'u' then
          match Hex.read? 4 digits with
          | none => none
          | some (low, after) => if Utf16.isLowSurrogate low then some (Utf16.join high low, after) else none
        else none
      | _ => none
    else if Utf16.isLowSurrogate high then none
    else some (.ofNat high, rest)

/-- Reads what stands after a backslash. -/
def escaped? : List Char → Option (Char × List Char)
  | [] => none
  | c :: rest =>
    if c = '\x22' ∨ c = '\\' ∨ c = '/' then some (c, rest)
    else if c = 'n' then some ('\n', rest)
    else if c = 'r' then some ('\r', rest)
    else if c = 't' then some ('\t', rest)
    else if c = 'f' then some ('\x0c', rest)
    else if c = 'b' then some ('\x08', rest)
    else if c = 'u' then escapedUnits? rest
    else none

theorem length_of_escapedUnits? {text rest : List Char} {c : Char}
    (hread : escapedUnits? text = some (c, rest)) : rest.length ≤ text.length := by
  unfold escapedUnits? at hread
  split at hread
  · simp at hread
  · rename_i high after hhigh
    have hlengthHigh := Hex.length_of_read? hhigh
    split at hread
    · split at hread
      · split at hread
        · split at hread
          · simp at hread
          · rename_i low last hlow
            have hlengthLow := Hex.length_of_read? hlow
            split at hread
            · simp only [Option.some.injEq, Prod.mk.injEq] at hread
              simp only [List.length_cons, ← hread.2] at *
              omega
            · simp at hread
        · simp at hread
      · simp at hread
    · split at hread
      · simp at hread
      · simp only [Option.some.injEq, Prod.mk.injEq] at hread
        rw [← hread.2]
        omega

theorem length_of_escaped? {text rest : List Char} {c : Char} (hread : escaped? text = some (c, rest)) :
    rest.length < text.length := by
  cases text with
  | nil => simp [escaped?] at hread
  | cons first tail =>
    have hunits : escapedUnits? tail = some (c, rest) → rest.length < tail.length + 1 :=
      fun h => Nat.lt_succ_of_le (length_of_escapedUnits? h)
    have hone : ∀ d, some (d, tail) = some (c, rest) → rest.length < tail.length + 1 := by
      intro d h
      rw [← (Prod.mk.inj (Option.some.inj h)).2]
      exact Nat.lt_succ_self _
    rw [escaped?] at hread
    rw [List.length_cons]
    repeat' split at hread
    all_goals first | exact hone _ hread | exact hunits hread | simp at hread

/-- Reads a literal after its opening quote and returns what follows its closing quote. -/
def literalBody? (text : List Char) : Option (List Char × List Char) :=
  match text with
  | [] => none
  | c :: rest =>
    if c = '\x22' then some ([], rest)
    else if c = '\\' then
      match hescaped : escaped? rest with
      | none => none
      | some (d, after) =>
        have := length_of_escaped? hescaped
        (literalBody? after).map fun (body, last) => (d :: body, last)
    else if c.toNat < 0x20 then none
    else (literalBody? rest).map fun (body, last) => (c :: body, last)
termination_by text.length
decreasing_by all_goals simp only [List.length_cons]; omega

/-- Reads a literal and returns what follows it. -/
def literal? : List Char → Option (String × List Char)
  | [] => none
  | c :: rest =>
    if c = '\x22' then (literalBody? rest).map fun (body, last) => (.ofList body, last) else none

/-! ### Reading what was written -/

theorem literalBody?_close (rest : List Char) : literalBody? ('\x22' :: rest) = some ([], rest) := by
  rw [literalBody?, if_pos rfl]

theorem literalBody?_plain {c : Char} {rest : List Char} (hquote : c ≠ '\x22') (hbackslash : c ≠ '\\')
    (hcontrol : ¬ c.toNat < 0x20) :
    literalBody? (c :: rest) = (literalBody? rest).map fun (body, last) => (c :: body, last) := by
  rw [literalBody?, if_neg hquote, if_neg hbackslash, if_neg hcontrol]

theorem literalBody?_escaped {d : Char} {rest after : List Char} (hescaped : escaped? rest = some (d, after)) :
    literalBody? ('\\' :: rest) = (literalBody? after).map fun (body, last) => (d :: body, last) := by
  rw [literalBody?, if_neg (by decide), if_pos rfl]
  split
  · simp_all
  · rename_i hread
    rw [hescaped, Option.some.injEq, Prod.mk.injEq] at hread
    rw [hread.1, hread.2]

private theorem lt_capacity {unit : Nat} (hlt : unit < 0x10000) : unit < Hex.capacity 4 := hlt

/-- The units of a character are read as that character. -/
theorem escapedUnits?_units {c : Char} {unit : Nat} {units : List Nat} (hunits : Utf16.units c = unit :: units)
    (rest : List Char) :
    escapedUnits? (Hex.digits 4 unit ++ (units.flatMap escapeUnit ++ rest)) = some (c, rest) := by
  have hlt : ∀ u ∈ unit :: units, u < Hex.capacity 4 := fun u hu => lt_capacity (Utf16.units_lt (hunits ▸ hu))
  rcases Nat.lt_or_ge c.toNat 0x10000 with hlow | hhigh
  · rw [Utf16.units_of_lt hlow] at hunits
    simp only [List.cons.injEq] at hunits
    obtain ⟨rfl, rfl⟩ := hunits
    have hsurrogate := Utf16.not_isSurrogate_toNat c
    rw [escapedUnits?, Hex.read?_digits_append (hlt _ List.mem_cons_self)]
    simp [hsurrogate.1, hsurrogate.2]
  · obtain ⟨high, low, hpair, hisHigh, hisLow, hjoin⟩ := Utf16.units_of_le hhigh
    rw [hpair] at hunits
    simp only [List.cons.injEq] at hunits
    obtain ⟨rfl, rfl⟩ := hunits
    have hdigits := Hex.read?_digits_append (hlt low (List.mem_cons_of_mem _ List.mem_cons_self)) rest
    rw [escapedUnits?, Hex.read?_digits_append (hlt _ List.mem_cons_self)]
    simp [hisHigh, hisLow, escapeUnit, hdigits, hjoin]

/-- The escape of a character is read as that character. -/
theorem literalBody?_escape_append (c : Char) (rest : List Char) :
    literalBody? (escape c ++ rest) = (literalBody? rest).map fun (body, last) => (c :: body, last) := by
  unfold escape
  split
  · rename_i hspecial
    refine literalBody?_escaped ?_
    rcases hspecial with rfl | rfl <;> rfl
  · rename_i hplain
    rw [not_or] at hplain
    repeat' split
    · rename_i hc
      exact literalBody?_escaped (by simp [escaped?, hc])
    · rename_i hc
      exact literalBody?_escaped (by simp [escaped?, hc])
    · rename_i hc
      exact literalBody?_escaped (by simp [escaped?, hc])
    · rename_i hc
      exact literalBody?_escaped (by simp [escaped?, hc])
    · rename_i hc
      exact literalBody?_escaped (by simp [escaped?, hc])
    · rename_i hascii
      exact literalBody?_plain hplain.1 hplain.2 (Nat.not_lt.2 hascii.1)
    · cases hunits : Utf16.units c with
      | nil => exact absurd hunits (by unfold Utf16.units; split <;> simp)
      | cons unit units =>
        have hread : escaped? ('u' :: (Hex.digits 4 unit ++ (units.flatMap escapeUnit ++ rest))) = some (c, rest) := by
          simp [escaped?, escapedUnits?_units hunits]
        simpa [escapeUnit] using literalBody?_escaped hread

theorem literalBody?_flatMap_escape (text rest : List Char) :
    literalBody? (text.flatMap escape ++ '\x22' :: rest) = some (text, rest) := by
  induction text with
  | nil => exact literalBody?_close rest
  | cons c tail ih =>
    rw [List.flatMap_cons, List.append_assoc, literalBody?_escape_append, ih]
    rfl

/-- Reading a literal gives back the text and leaves what follows. -/
theorem literal?_literal_append (text : String) (rest : List Char) :
    literal? (literal text ++ rest) = some (text, rest) := by
  have hbody := literalBody?_flatMap_escape text.toList rest
  simp [literal?, literal, hbody]

/-- A literal is written with the blank to the tilde alone. -/
theorem isAscii_of_mem_literal {text : String} {c : Char} (hmem : c ∈ literal text) :
    0x20 ≤ c.toNat ∧ c.toNat ≤ 0x7E := by
  have hpair : ∀ d : Char, 0x20 ≤ d.toNat ∧ d.toNat ≤ 0x7E → c ∈ ['\\', d] → 0x20 ≤ c.toNat ∧ c.toNat ≤ 0x7E := by
    intro d hd hc
    simp only [List.mem_cons, List.not_mem_nil, or_false] at hc
    rcases hc with rfl | rfl
    · decide
    · exact hd
  have hescape : ∀ d, c ∈ escape d → 0x20 ≤ c.toNat ∧ c.toNat ≤ 0x7E := by
    intro d hc
    unfold escape at hc
    split at hc
    · rename_i hspecial
      exact hpair d (by rcases hspecial with rfl | rfl <;> decide) hc
    · split at hc
      · exact hpair 'n' (by decide) hc
      · split at hc
        · exact hpair 'r' (by decide) hc
        · split at hc
          · exact hpair 't' (by decide) hc
          · split at hc
            · exact hpair 'f' (by decide) hc
            · split at hc
              · exact hpair 'b' (by decide) hc
              · split at hc
                · rename_i hascii
                  rw [List.mem_singleton] at hc
                  exact hc ▸ hascii
                · simp only [List.mem_flatMap, escapeUnit, List.mem_cons] at hc
                  obtain ⟨unit, -, rfl | rfl | hc⟩ := hc
                  · decide
                  · decide
                  · exact Hex.isAscii_of_mem_digits hc
  simp only [literal, List.mem_cons, List.mem_append, List.mem_flatMap, List.not_mem_nil, or_false] at hmem
  rcases hmem with rfl | ⟨d, -, hc⟩ | rfl
  · decide
  · exact hescape d hc
  · decide

end AccessScopes.Json
