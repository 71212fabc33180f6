import AccessScopes.Files.Path
import Mathlib.Data.List.TakeWhile

/-!
# Where log files lie

Whatever a log path says, the place it names is that of a file whose name ends in the suffix of log
files. In particular the last component is never taken for a step up.
-/

namespace AccessScopes.Files

/-- The name at the end of the location ends in the suffix of log files. -/
def Location.NamesLog (location : Location) : Prop :=
  ∃ name ∈ location.getLast?, ".jsonl".toList <:+ name.toList

instance (location : Location) : Decidable location.NamesLog :=
  inferInstanceAs (Decidable (∃ name ∈ location.getLast?, ".jsonl".toList <:+ name.toList))

theorem Location.namesLog_concat_iff {directory : Location} {name : String} :
    Location.NamesLog (directory ++ [name]) ↔ ".jsonl".toList <:+ name.toList := by
  rw [Location.NamesLog, List.getLast?_concat]
  simp

namespace Path

theorem suffix_logName (name : String) : ".jsonl".toList <:+ (logName name).toList := by
  rw [logName, String.toList_append]
  exact List.suffix_append _ _

theorem logName_ne_up (name : String) : logName name ≠ ".." := by
  intro hup
  have hlength := (suffix_logName name).length_le
  rw [hup] at hlength
  exact absurd hlength (by decide)

theorem logFile_eq_ok_iff {path file : Path} :
    path.logFile = .ok file ↔ ∃ name, path.components.getLast? = some name ∧
      file = { path with components := path.components.dropLast ++ [logName name] } := by
  unfold logFile
  cases path.components.getLast? <;> simp [eq_comm]

theorem logFile_eq_error_iff {path : Path} {error : EmptyName} :
    path.logFile = .error error ↔ path.components = [] ∧ error = { path } := by
  rw [← List.getLast?_eq_none_iff, logFile]
  cases path.components.getLast? <;> simp [eq_comm]

theorem resolve_append (path : Path) (directory : Location) {name : String} (hname : name ≠ "..") :
    { path with components := path.components ++ [name] }.resolve directory = path.resolve directory ++ [name] := by
  simp [resolve, descend, hname]

theorem namesLog_resolve {path file : Path} (hfile : path.logFile = .ok file) (directory : Location) :
    (file.resolve directory).NamesLog := by
  obtain ⟨name, -, rfl⟩ := logFile_eq_ok_iff.1 hfile
  have hresolve := resolve_append { path with components := path.components.dropLast } directory (logName_ne_up name)
  rw [hresolve, Location.namesLog_concat_iff]
  exact suffix_logName name

/-! ### Suffixes -/

/-- What is left of a name once it gives up its suffix, which runs from the last dot to the end. A dot
that is the first or the last character of the name starts none. -/
inductive GivesUp : List Char → List Char → Prop
  | suffix (kept ending : List Char) (hkept : kept ≠ []) (hending : ending ≠ []) (hlast : '.' ∉ ending) :
      GivesUp (kept ++ '.' :: ending) kept
  | nothing (name : List Char)
      (hnone : ∀ kept ending, name = kept ++ '.' :: ending → '.' ∉ ending → kept = [] ∨ ending = []) :
      GivesUp name name

theorem stem_append_dot {kept ending : List Char} (hkept : kept ≠ []) (hending : ending ≠ []) (hlast : '.' ∉ ending) :
    stem (kept ++ '.' :: ending) = kept := by
  have hreverse : (kept ++ '.' :: ending).reverse = ending.reverse ++ '.' :: kept.reverse := by simp
  have hfree : ∀ c ∈ ending.reverse, decide (c ≠ '.') = true := by
    intro c hc
    exact decide_eq_true fun heq => hlast (heq ▸ List.mem_reverse.1 hc)
  have htake : (kept ++ '.' :: ending).reverse.takeWhile (· ≠ '.') = ending.reverse := by
    rw [hreverse, List.takeWhile_append_of_pos hfree, List.takeWhile_cons_of_neg (by simp), List.append_nil]
  have hdrop : (kept ++ '.' :: ending).reverse.dropWhile (· ≠ '.') = '.' :: kept.reverse := by
    rw [hreverse, List.dropWhile_append_of_pos hfree, List.dropWhile_cons_of_neg (by simp)]
  obtain ⟨last, others, hlast⟩ := List.exists_cons_of_ne_nil (List.reverse_ne_nil_iff.2 hending)
  obtain ⟨first, rest, hfirst⟩ := List.exists_cons_of_ne_nil (List.reverse_ne_nil_iff.2 hkept)
  rw [stem, htake, hdrop, hlast, hfirst]
  dsimp only
  rw [← hfirst, List.reverse_reverse]

theorem stem_of_no_suffix {name : List Char}
    (hnone : ∀ kept ending, name = kept ++ '.' :: ending → '.' ∉ ending → kept = [] ∨ ending = []) :
    stem name = name := by
  unfold stem
  split
  · rename_i last others dot first rest htake hdrop
    have hparts := List.takeWhile_append_dropWhile (p := fun c => decide (c ≠ '.')) (l := name.reverse)
    have hdot : dot = '.' := by
      have hhead := List.head?_dropWhile_not (fun c => decide (c ≠ '.')) name.reverse
      rw [hdrop] at hhead
      simpa using hhead
    have hfree : '.' ∉ (last :: others).reverse := by
      intro hmem
      have hin := htake ▸ List.mem_reverse.1 hmem
      exact absurd (List.mem_takeWhile_imp hin) (by simp)
    rw [htake, hdrop, hdot] at hparts
    have hname : name = (first :: rest).reverse ++ '.' :: (last :: others).reverse := by
      rw [← List.reverse_reverse name, ← hparts]
      simp
    rcases hnone _ _ hname hfree with hkept | hending
    · exact absurd hkept (by simp)
    · exact absurd hending (by simp)
  · rfl

theorem givesUp_iff {name kept : List Char} : GivesUp name kept ↔ stem name = kept := by
  constructor
  · intro hgives
    cases hgives with
    | suffix kept ending hkept hending hlast => exact stem_append_dot hkept hending hlast
    | nothing name hnone => exact stem_of_no_suffix hnone
  · intro hstem
    by_cases hsuffix : ∃ kept ending, name = kept ++ '.' :: ending ∧ '.' ∉ ending ∧ kept ≠ [] ∧ ending ≠ []
    · obtain ⟨kept, ending, rfl, hlast, hkept, hending⟩ := hsuffix
      rw [← hstem, stem_append_dot hkept hending hlast]
      exact .suffix kept ending hkept hending hlast
    · have hnone : ∀ kept ending, name = kept ++ '.' :: ending → '.' ∉ ending → kept = [] ∨ ending = [] := by
        intro kept ending hname hlast
        by_contra hboth
        rw [not_or] at hboth
        exact hsuffix ⟨kept, ending, hname, hlast, hboth.1, hboth.2⟩
      rw [← hstem, stem_of_no_suffix hnone]
      exact .nothing name hnone

theorem stem_isPrefix (name : List Char) : stem name <+: name := by
  have hgives : GivesUp name (stem name) := givesUp_iff.2 rfl
  generalize stem name = kept at hgives
  cases hgives with
  | suffix kept ending hkept hending hlast => exact List.prefix_append _ _
  | nothing name hnone => exact List.prefix_rfl

theorem stem_ne_nil {name : List Char} (hname : name ≠ []) : stem name ≠ [] := by
  have hgives : GivesUp name (stem name) := givesUp_iff.2 rfl
  generalize stem name = kept at hgives
  cases hgives with
  | suffix kept ending hkept hending hlast => exact hkept
  | nothing name hnone => exact hname

/-- The name of a log file gives up the suffix that it got, and gets it again. -/
theorem logName_logName {name : String} (hname : name ≠ "") : logName (logName name) = logName name := by
  have hkept : stem name.toList ≠ [] := stem_ne_nil fun hnil => hname (String.toList_eq_nil_iff.1 hnil)
  have hagain : stem (logName name).toList = stem name.toList := by
    rw [logName, String.toList_append, String.toList_ofList]
    exact stem_append_dot hkept (by decide) (by decide)
  rw [logName, hagain]
  rfl

/-! ### Plain names -/

theorem components_parse_of_name {name : String} (hslash : '/' ∉ name.toList) (hempty : name.toList ≠ [])
    (hdot : name.toList ≠ ['.']) : (parse name).components = [name] := by
  rw [parse, List.splitOn_eq_singleton hslash, List.filter_cons_of_pos (by simp [hempty, hdot])]
  simp

theorem stem_of_not_mem {name : List Char} (hdot : '.' ∉ name) : stem name = name := by
  apply stem_of_no_suffix
  intro kept ending hname
  exact absurd (hname ▸ List.mem_append_right kept List.mem_cons_self) hdot

/-- A name without a dot has no suffix to give up. -/
theorem logName_of_not_mem {name : String} (hdot : '.' ∉ name.toList) : logName name = name ++ ".jsonl" := by
  rw [logName, stem_of_not_mem hdot, String.ofList_toList]
  rfl

end Path

end AccessScopes.Files
