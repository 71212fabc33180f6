import AccessScopes.Text.Quoted

/-!
# Actions

The five things a scope can permit, each written as one letter. A list of actions is written as the
word of its letters, and reading a word gives back the list or names the first letter that stands
for no action.
-/

namespace AccessScopes

inductive Action
  | create
  | read
  | update
  | delete
  | subscribe
  deriving DecidableEq

namespace Action

def letter : Action → Char
  | create => 'c'
  | read => 'r'
  | update => 'u'
  | delete => 'd'
  | subscribe => 's'

def ofLetter? (c : Char) : Option Action :=
  if c = 'c' then some create
  else if c = 'r' then some read
  else if c = 'u' then some update
  else if c = 'd' then some delete
  else if c = 's' then some subscribe
  else none

def name : Action → String
  | create => "CREATE"
  | read => "READ"
  | update => "UPDATE"
  | delete => "DELETE"
  | subscribe => "SUBSCRIBE"

def ofName? (name : String) : Option Action :=
  [create, read, update, delete, subscribe].find? (·.name = name)

/-- The action a text stands for: only a text of one letter stands for one. -/
def ofCode? (code : String) : Option Action :=
  match code.toList with
  | [c] => ofLetter? c
  | _ => none

@[simp] theorem ofLetter?_letter (action : Action) : ofLetter? action.letter = some action := by
  cases action <;> rfl

theorem ofLetter?_eq_some_iff {c : Char} {action : Action} : ofLetter? c = some action ↔ action.letter = c := by
  constructor
  · unfold ofLetter?
    repeat' split
    all_goals
      intro h
      cases h
      try (symm; assumption)
  · rintro rfl
    exact ofLetter?_letter action

theorem letter_injective {left right : Action} (h : left.letter = right.letter) : left = right := by
  have hsome := ofLetter?_letter left
  rw [h, ofLetter?_letter] at hsome
  exact (Option.some.inj hsome).symm

/-! ### Words of letters -/

structure UnknownLetter where
  letter : Char
  deriving DecidableEq

/-- What is said of a letter that stands for no action. -/
def UnknownLetter.message (error : UnknownLetter) : String :=
  Text.quote (.singleton error.letter) ++ " is not a valid Action"

/-- Reads a word of letters; the error names the first letter that stands for no action. -/
def ofLetters : List Char → Except UnknownLetter (List Action)
  | [] => .ok []
  | c :: rest =>
    match ofLetter? c with
    | none => .error ⟨c⟩
    | some action =>
      match ofLetters rest with
      | .error error => .error error
      | .ok actions => .ok (action :: actions)

theorem ofLetters_map_letter (actions : List Action) : ofLetters (actions.map letter) = .ok actions := by
  induction actions with
  | nil => rfl
  | cons action rest ih => simp [ofLetters, ih]

theorem eq_map_letter_of_ofLetters {letters : List Char} {actions : List Action}
    (hread : ofLetters letters = .ok actions) : letters = actions.map letter := by
  induction letters generalizing actions with
  | nil =>
    cases hread
    rfl
  | cons c rest ih =>
    rw [ofLetters] at hread
    split at hread
    · cases hread
    · rename_i action hletter
      split at hread
      · cases hread
      · rename_i tail htail
        cases hread
        rw [List.map_cons, ← ih htail, ofLetter?_eq_some_iff.1 hletter]

/-- Reading accepts exactly the words of letters. -/
theorem ofLetters_eq_ok_iff {letters : List Char} {actions : List Action} :
    ofLetters letters = .ok actions ↔ letters = actions.map letter :=
  ⟨eq_map_letter_of_ofLetters, fun h => h ▸ ofLetters_map_letter actions⟩

end Action

end AccessScopes
