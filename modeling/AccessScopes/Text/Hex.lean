/-!
# Fixed-width hexadecimal

Code points and code units are written with a fixed number of lower-case hexadecimal digits and read
in either case. Reading a given number of digits takes back what writing put there, whatever follows:
`read?_digits_append`.
-/

namespace AccessScopes.Text.Hex

/-- How many numbers a given number of digits can tell apart. -/
def capacity : Nat → Nat
  | 0 => 1
  | width + 1 => capacity width * 16

/-- The last `width` hexadecimal digits of a number, highest first, in lower case. -/
def digits : Nat → Nat → List Char
  | 0, _ => []
  | width + 1, n => Nat.digitChar (n / capacity width % 16) :: digits width n

def digit? (c : Char) : Option Nat :=
  if '0' ≤ c ∧ c ≤ '9' then some (c.toNat - '0'.toNat)
  else if 'a' ≤ c ∧ c ≤ 'f' then some (c.toNat - 'a'.toNat + 10)
  else if 'A' ≤ c ∧ c ≤ 'F' then some (c.toNat - 'A'.toNat + 10)
  else none

/-- Reads `width` further digits of a number of which `high` is already read. -/
def readFrom? (high : Nat) : Nat → List Char → Option (Nat × List Char)
  | 0, text => some (high, text)
  | _ + 1, [] => none
  | width + 1, c :: rest => (digit? c).bind fun digit => readFrom? (16 * high + digit) width rest

/-- Reads a number of `width` digits and returns what follows it. -/
def read? (width : Nat) (text : List Char) : Option (Nat × List Char) :=
  readFrom? 0 width text

theorem length_digits (width n : Nat) : (digits width n).length = width := by
  induction width with
  | zero => rfl
  | succ width ih => simp [digits, ih]

theorem digit?_digitChar {n : Nat} (hlt : n < 16) : digit? (Nat.digitChar n) = some n := by
  have hall : ∀ m : Fin 16, digit? (Nat.digitChar m.val) = some m.val := by decide
  exact hall ⟨n, hlt⟩

/-- Digits are printable ASCII. -/
theorem isAscii_of_mem_digits {width n : Nat} {c : Char} (hmem : c ∈ digits width n) :
    0x20 ≤ c.toNat ∧ c.toNat ≤ 0x7E := by
  have hall : ∀ m : Fin 16, 0x20 ≤ (Nat.digitChar m.val).toNat ∧ (Nat.digitChar m.val).toNat ≤ 0x7E := by decide
  induction width with
  | zero => simp [digits] at hmem
  | succ width ih =>
    rcases List.mem_cons.1 hmem with rfl | hrest
    · exact hall ⟨n / capacity width % 16, Nat.mod_lt _ (by decide)⟩
    · exact ih hrest

theorem readFrom?_digits_append (high width n : Nat) (rest : List Char) :
    readFrom? high width (digits width n ++ rest) =
      some (high * capacity width + n % capacity width, rest) := by
  induction width generalizing high with
  | zero => simp [readFrom?, digits, capacity, Nat.mod_one]
  | succ width ih =>
    have hdigit : n / capacity width % 16 < 16 := Nat.mod_lt _ (by decide)
    rw [digits, List.cons_append, readFrom?, digit?_digitChar hdigit, Option.bind_some, ih, capacity,
      Nat.mod_mul, Nat.add_mul]
    congr 2
    have hcomm : capacity width * (n / capacity width % 16) = n / capacity width % 16 * capacity width :=
      Nat.mul_comm _ _
    have hhigh : 16 * high * capacity width = high * (capacity width * 16) := by
      rw [Nat.mul_comm 16 high, Nat.mul_assoc, Nat.mul_comm 16]
    omega

/-- Reading takes back what writing put down, whatever follows. -/
theorem read?_digits_append {width n : Nat} (hlt : n < capacity width) (rest : List Char) :
    read? width (digits width n ++ rest) = some (n, rest) := by
  rw [read?, readFrom?_digits_append, Nat.mod_eq_of_lt hlt, Nat.zero_mul, Nat.zero_add]

/-- Reading leaves a text that is shorter by the number of digits read. -/
theorem length_of_readFrom? {high width n : Nat} {text rest : List Char}
    (hread : readFrom? high width text = some (n, rest)) : text.length = rest.length + width := by
  induction width generalizing high text with
  | zero =>
    simp only [readFrom?, Option.some.injEq, Prod.mk.injEq] at hread
    simp [hread.2]
  | succ width ih =>
    cases text with
    | nil => simp [readFrom?] at hread
    | cons c tail =>
      simp only [readFrom?, Option.bind_eq_some_iff] at hread
      obtain ⟨digit, -, htail⟩ := hread
      have hlength := ih htail
      simp only [List.length_cons]
      omega

theorem length_of_read? {width n : Nat} {text rest : List Char} (hread : read? width text = some (n, rest)) :
    text.length = rest.length + width :=
  length_of_readFrom? hread

end AccessScopes.Text.Hex
