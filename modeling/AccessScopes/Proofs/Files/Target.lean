import AccessScopes.Proofs.Files.Spelling
import Mathlib.Data.List.Basic

/-!
# Where a log path leads

A text that asks for a log file is made absolute against the working directory and normalised as it is written.
Both are said here of the pieces of the text between its slashes, without the path that is read from it: which
place they lead to step by step, and whether two slashes stay in front. The file that a path asks for lies there.
-/

namespace AccessScopes.Files

/-- Names lead from one place to another, one after the other: `..` goes up to what holds the place and stays at the
root, and every other name goes down. -/
inductive Leads : Location → List String → Location → Prop
  | here (place : Location) : Leads place [] place
  | up {place target : Location} {names : List String} (name : String) (hrest : Leads place names target) :
      Leads (place ++ [name]) (".." :: names) target
  | root {target : Location} {names : List String} (hrest : Leads [] names target) : Leads [] (".." :: names) target
  | down {place target : Location} {name : String} {names : List String} (hname : name ≠ "..")
      (hrest : Leads (place ++ [name]) names target) : Leads place (name :: names) target

/-- The text starts with two slashes and no third one. -/
def StartsDoubled (text : List Char) : Prop :=
  ∃ rest, text = '/' :: '/' :: rest ∧ rest.head? ≠ some '/'

/-- The text asks for a log file at the address. Its components lead to a directory, from the root if the text starts
with a slash and else from the working directory, but the last of them gives up its suffix for that of log files and
names the file there. -/
inductive Targets (text : String) (directory : Location) (address : Address) : Prop
  | intro (pieces earlier : List (List Char)) (name kept : List Char) (holder : Location)
      (hpieces : Text.Pieces '/' text.toList pieces)
      (hcomponents : pieces.filter (fun piece => piece ≠ [] && piece ≠ ['.']) = earlier ++ [name])
      (hleads : Leads (if text.toList.head? = some '/' then [] else directory) (earlier.map String.ofList) holder)
      (hkept : Path.GivesUp name kept)
      (hlocation : address.location = holder ++ [String.ofList kept ++ ".jsonl"])
      (hdoubled : address.doubled = true ↔ StartsDoubled text.toList)

section

variable {place target : Location} {names : List String}

theorem leads_iff : Leads place names target ↔ names.foldl Path.descend place = target := by
  constructor
  · intro hleads
    induction hleads with
    | here place => rfl
    | up name _ ih =>
      rw [List.foldl_cons, Path.descend, if_pos rfl, List.dropLast_concat]
      exact ih
    | root _ ih => exact ih
    | down hname _ ih =>
      rw [List.foldl_cons, Path.descend, if_neg hname]
      exact ih
  · intro hfold
    induction names generalizing place with
    | nil =>
      cases hfold
      exact .here place
    | cons name names ih =>
      rw [List.foldl_cons] at hfold
      have hrest := ih hfold
      by_cases hname : name = ".."
      · subst hname
        rw [Path.descend, if_pos rfl] at hrest
        rcases place.eq_nil_or_concat' with rfl | ⟨above, last, rfl⟩
        · exact .root hrest
        · rw [List.dropLast_concat] at hrest
          exact .up last hrest
      · rw [Path.descend, if_neg hname] at hrest
        exact .down hname hrest

end

/-! ### Leading slashes -/

theorem Anchor.ofChars_eq_relative_iff {text : List Char} : ofChars text = relative ↔ text.head? ≠ some '/' := by
  cases text with
  | nil => simp [ofChars]
  | cons first rest =>
    by_cases hfirst : first = '/'
    · subst hfirst
      rw [ofChars, List.takeWhile_cons_of_pos (by decide), List.length_cons]
      simp only [List.head?_cons, ne_eq, not_true_eq_false, iff_false]
      split <;> simp_all
    · rw [ofChars, List.takeWhile_cons_of_neg (by simpa using hfirst)]
      simp [hfirst]

theorem Anchor.ofChars_eq_twoSlashes_iff {text : List Char} : ofChars text = twoSlashes ↔ StartsDoubled text := by
  have hlength : ofChars text = twoSlashes ↔ (text.takeWhile (· = '/')).length = 2 := by
    unfold ofChars
    generalize (text.takeWhile (· = '/')).length = slashes
    split <;> simp_all
  rw [hlength]
  constructor
  · intro htwo
    match text with
    | [] => cases htwo
    | [first] => by_cases hfirst : first = '/' <;> simp [hfirst] at htwo
    | first :: second :: rest =>
      by_cases hfirst : first = '/'
      · by_cases hsecond : second = '/'
        · subst hfirst hsecond
          refine ⟨rest, rfl, ?_⟩
          intro hthird
          obtain ⟨others, rfl⟩ := List.head?_eq_some_iff.1 hthird
          simp at htwo
        · simp [hfirst, hsecond] at htwo
      · simp [hfirst] at htwo
  · intro h
    obtain ⟨rest, rfl, hthird⟩ := h
    cases rest with
    | nil => rfl
    | cons third rest =>
      have hne : third ≠ '/' := fun heq => hthird (congrArg some heq)
      simp [hne]

/-! ### Log files -/

variable {directory : Location} {text : String} {address place : Address}

namespace Path

theorem components_parse_eq (hpieces : Text.Pieces '/' text.toList pieces) :
    (parse text).components = (pieces.filter fun piece => piece ≠ [] && piece ≠ ['.']).map String.ofList := by
  rw [parse, Text.pieces_iff.1 hpieces]

/-- Where the components before the last lead to, the file of the path lies. -/
theorem address_eq_iff {earlier : List String} {last : String} (hlast : last ≠ "..") :
    Path.address ⟨.ofChars text.toList, earlier ++ [last]⟩ directory = place ↔
      (∃ holder, Leads (if text.toList.head? = some '/' then [] else directory) earlier holder ∧
        place.location = holder ++ [last]) ∧ (place.doubled = true ↔ StartsDoubled text.toList) := by
  have hstart : (if Anchor.ofChars text.toList = .relative then directory else []) =
      if text.toList.head? = some '/' then [] else directory := by
    simp only [Anchor.ofChars_eq_relative_iff, ne_eq, ite_not]
  have hlocation := resolve_append ⟨.ofChars text.toList, earlier⟩ directory hlast
  dsimp only at hlocation
  rw [Path.address, hlocation, resolve, hstart, ← Anchor.ofChars_eq_twoSlashes_iff]
  simp only [leads_iff, exists_eq_left']
  obtain ⟨location, doubled⟩ := place
  rw [Address.mk.injEq, eq_comm]
  refine and_congr_right fun _ => ?_
  cases doubled <;> simp

end Path

/-- The file that a path asks for lies where its text leads to, and nothing else does. -/
theorem targets_iff :
    Targets text directory address ↔
      ∃ file, (Path.parse text).logFile = .ok file ∧ file.address directory = address := by
  constructor
  · intro htargets
    obtain ⟨pieces, earlier, name, kept, holder, hpieces, hcomponents, hleads, hkept, hlocation, hdoubled⟩ := htargets
    have hparse := Path.components_parse_eq hpieces
    rw [hcomponents, List.map_append, List.map_singleton] at hparse
    have hname : Path.logName (.ofList name) = String.ofList kept ++ ".jsonl" := by
      rw [Path.logName, String.toList_ofList, Path.givesUp_iff.1 hkept]
      rfl
    refine ⟨_, Path.logFile_eq_ok_iff.2 ⟨.ofList name, by rw [hparse, List.getLast?_concat], rfl⟩, ?_⟩
    rw [hparse, List.dropLast_concat]
    refine (Path.address_eq_iff (Path.logName_ne_up _)).2 ⟨⟨holder, hleads, ?_⟩, hdoubled⟩
    rw [hlocation, hname]
  · intro h
    obtain ⟨file, hfile, haddress⟩ := h
    obtain ⟨last, hlast, rfl⟩ := Path.logFile_eq_ok_iff.1 hfile
    have hpieces : Text.Pieces '/' text.toList (text.toList.splitOn '/') := Text.pieces_splitOn
    have hparse := Path.components_parse_eq hpieces
    have hne : (text.toList.splitOn '/').filter (fun piece => piece ≠ [] && piece ≠ ['.']) ≠ [] := by
      intro hnil
      rw [hparse, hnil] at hlast
      cases hlast
    obtain ⟨earlier, name, hcomponents⟩ := (List.eq_nil_or_concat' _).resolve_left hne
    rw [hcomponents, List.map_append, List.map_singleton] at hparse
    rw [hparse, List.getLast?_concat, Option.some.injEq] at hlast
    subst hlast
    rw [hparse, List.dropLast_concat] at haddress
    obtain ⟨⟨holder, hleads, hlocation⟩, hdoubled⟩ := (Path.address_eq_iff (Path.logName_ne_up _)).1 haddress
    have hkept : Path.GivesUp name (Path.stem name) := Path.givesUp_iff.2 rfl
    refine .intro _ earlier name _ holder hpieces hcomponents hleads hkept ?_ hdoubled
    rw [hlocation, Path.logName, String.toList_ofList]
    rfl

theorem targets_address {file : Path} (hfile : (Path.parse text).logFile = .ok file) (directory : Location) :
    Targets text directory (file.address directory) :=
  targets_iff.2 ⟨file, hfile, rfl⟩

theorem Targets.unique {other : Address} (htargets : Targets text directory address)
    (hother : Targets text directory other) : address = other := by
  obtain ⟨file, hfile, rfl⟩ := targets_iff.1 htargets
  obtain ⟨again, hagain, rfl⟩ := targets_iff.1 hother
  cases hfile.symm.trans hagain
  rfl

end AccessScopes.Files
