/-!
# UTF-16 units

A character is one unit below U+10000 and otherwise a pair, a high surrogate followed by a low one.
Joining the units of a character gives the character back.
-/

namespace AccessScopes.Text.Utf16

/-- The units of a character: itself, or a high and a low surrogate. -/
def units (c : Char) : List Nat :=
  if c.toNat < 0x10000 then [c.toNat]
  else [0xD800 + (c.toNat - 0x10000) / 0x400, 0xDC00 + (c.toNat - 0x10000) % 0x400]

def isHighSurrogate (unit : Nat) : Bool :=
  0xD800 ≤ unit && unit ≤ 0xDBFF

def isLowSurrogate (unit : Nat) : Bool :=
  0xDC00 ≤ unit && unit ≤ 0xDFFF

def join (high low : Nat) : Char :=
  .ofNat (0x10000 + (high - 0xD800) * 0x400 + (low - 0xDC00))

private theorem toNat_lt_limit (c : Char) : c.toNat < 0x110000 := by
  rcases c.valid with h | h
  · exact Nat.lt_trans h (by decide)
  · exact h.2

theorem units_lt {c : Char} {unit : Nat} (hmem : unit ∈ units c) : unit < 0x10000 := by
  have hlimit := toNat_lt_limit c
  unfold units at hmem
  split at hmem <;> simp only [List.mem_cons, List.not_mem_nil, or_false] at hmem <;> omega

theorem units_of_lt {c : Char} (hlow : c.toNat < 0x10000) : units c = [c.toNat] := by
  rw [units, if_pos hlow]

/-- A character that is a single unit is no surrogate. -/
theorem not_isSurrogate_toNat (c : Char) :
    isHighSurrogate c.toNat = false ∧ isLowSurrogate c.toNat = false := by
  have hvalid : c.toNat < 0xD800 ∨ 0xDFFF < c.toNat ∧ c.toNat < 0x110000 := c.valid
  simp only [isHighSurrogate, isLowSurrogate, Bool.and_eq_false_iff, decide_eq_false_iff_not]
  omega

/-- A character above U+FFFF is the join of its two units. -/
theorem units_of_le {c : Char} (hhigh : 0x10000 ≤ c.toNat) :
    ∃ high low, units c = [high, low] ∧ isHighSurrogate high = true ∧ isLowSurrogate low = true ∧
      join high low = c := by
  have hlimit := toNat_lt_limit c
  refine ⟨_, _, if_neg (Nat.not_lt.2 hhigh), ?_, ?_, ?_⟩
  · simp only [isHighSurrogate, Bool.and_eq_true, decide_eq_true_eq]
    omega
  · simp only [isLowSurrogate, Bool.and_eq_true, decide_eq_true_eq]
    omega
  · have hcode : 0x10000 + (0xD800 + (c.toNat - 0x10000) / 0x400 - 0xD800) * 0x400 +
        (0xDC00 + (c.toNat - 0x10000) % 0x400 - 0xDC00) = c.toNat := by omega
    rw [join, hcode, Char.ofNat_toNat]

end AccessScopes.Text.Utf16
