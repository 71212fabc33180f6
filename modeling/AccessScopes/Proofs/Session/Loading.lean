import AccessScopes.Proofs.EnvFile.Loading
import AccessScopes.Proofs.Files.Nearest
import AccessScopes.Proofs.Session.Turning

/-!
# Loading the nearest environment file

What loading may change, and which file decides it. Only the environment changes, and only as the nearest
environment file says; if there is none, or if no path can name the working directory, nothing changes.
The configuration that is returned depends on the environment alone.
-/

namespace AccessScopes

open Files

theorem Config.ofEnvironment_congr {environment other : Environment}
    (hget : ∀ name, other.get? name = environment.get? name) :
    Config.ofEnvironment other = Config.ofEnvironment environment := by
  simp only [Config.ofEnvironment, hget]

namespace Session

/-- The nearest environment file, from the working directory upwards, lies in the directory and holds the
text. -/
def Finds (session : Session) (place : Location) (text : String) : Prop :=
  session.tree.Nearest session.directory envFileName place text

/-- What loading comes to and what it leaves, told by the nearest environment file. -/
structure FollowsNearest (before : Session) (result : Except LoadError Unit) (after : Session) : Prop where
  frame : after = { before with environment := after.environment }
  lost_iff : result = .error .lost ↔ ¬ before.directory.Nameable
  ok_iff : result = .ok () ↔ before.directory.Nameable ∧ ∀ place text, before.Finds place text →
    ∀ name value, EnvFile.Leaves before.environment (EnvFile.bindings text) name value →
      Environment.problem? name value = none
  unchanged : (¬ before.directory.Nameable ∨ ∀ place text, ¬ before.Finds place text) → after = before
  overrides : result = .ok () → ∀ place text, before.Finds place text →
    EnvFile.Overrides before.environment (EnvFile.bindings text) after.environment
  stops : ∀ refusal, result = .error (.refused refusal) → ∃ place text stop, before.Finds place text ∧
    EnvFile.StopsAt before.environment (EnvFile.bindings text) stop refusal after.environment

variable {session other : Session} {place : Location} {text : String}

/-! ### Equations -/

theorem loadEnvironment_of_lost (hdirectory : ¬ session.directory.Nameable) :
    session.loadEnvironment = (.error .lost, session) := by
  obtain ⟨refusal, hrefusal⟩ := Option.ne_none_iff_exists'.1 hdirectory
  rw [loadEnvironment, hrefusal]

theorem loadEnvironment_of_none (hdirectory : session.directory.Nameable)
    (hnone : session.tree.nearest? session.directory envFileName = none) :
    session.loadEnvironment = (.ok (), session) := by
  rw [Location.Nameable] at hdirectory
  rw [loadEnvironment, hdirectory]
  dsimp only
  rw [hnone]

theorem loadEnvironment_of_some (hdirectory : session.directory.Nameable)
    (hsome : session.tree.nearest? session.directory envFileName = some text) :
    session.loadEnvironment = ((EnvFile.load session.environment text).1.mapError .refused,
      { session with environment := (EnvFile.load session.environment text).2 }) := by
  rw [Location.Nameable] at hdirectory
  rw [loadEnvironment, hdirectory]
  dsimp only
  rw [hsome]
  dsimp only
  cases hload : EnvFile.load session.environment text with
  | mk result environment => cases result <;> rfl

/-! ### The nearest file decides -/

theorem Finds.nearest?_eq (hfinds : session.Finds place text) :
    session.tree.nearest? session.directory envFileName = some text :=
  Tree.Nearest.nearest?_eq hfinds

theorem Finds.unique {another : Location} {found : String} (hfinds : session.Finds place text)
    (hother : session.Finds another found) : found = text :=
  Option.some.inj (hother.nearest?_eq.symm.trans hfinds.nearest?_eq)

/-- A file that no path can name is not found. -/
theorem not_finds_of_unnamed {file : Location} {held : String} (hunnamed : ¬ file.Nameable)
    (htext : ∀ place, session.tree.text? place = if place = file then some held else none) :
    ¬ session.Finds place text := by
  intro hfinds
  have hfound := hfinds.text_eq
  rw [htext] at hfound
  split at hfound
  · rename_i heq
    exact hunnamed (heq ▸ hfinds.named)
  · cases hfound

theorem followsNearest_lost (hdirectory : ¬ session.directory.Nameable) :
    session.FollowsNearest (.error .lost) session := by
  refine ⟨rfl, iff_of_true rfl hdirectory, ?_, fun _ => rfl, ?_, ?_⟩
  · exact iff_of_false (by simp) fun h => hdirectory h.1
  · intro hok
    cases hok
  · intro refusal hrefused
    cases hrefused

theorem followsNearest_nothing (hdirectory : session.directory.Nameable)
    (hnone : ∀ place text, ¬ session.Finds place text) : session.FollowsNearest (.ok ()) session := by
  refine ⟨rfl, by simp [hdirectory], ?_, fun _ => rfl, ?_, ?_⟩
  · exact iff_of_true rfl ⟨hdirectory, fun place text hfinds => absurd hfinds (hnone place text)⟩
  · exact fun _ place text hfinds => absurd hfinds (hnone place text)
  · intro refusal hrefused
    cases hrefused

theorem followsNearest_loaded {loaded : Except Environment.Refusal Unit × Environment}
    (hdirectory : session.directory.Nameable) (hfinds : session.Finds place text)
    (hloading : EnvFile.Loading session.environment (EnvFile.bindings text) loaded) :
    session.FollowsNearest (loaded.1.mapError .refused) { session with environment := loaded.2 } := by
  have hunchanged : ∀ after : Session,
      (¬ session.directory.Nameable ∨ ∀ place text, ¬ session.Finds place text) → after = session := by
    intro after hno
    rcases hno with hlost | hnone
    · exact absurd hdirectory hlost
    · exact absurd hfinds (hnone place text)
  cases hloading with
  | all after haccepted hoverrides =>
    refine ⟨rfl, by simp [Except.mapError, hdirectory], ?_, hunchanged _, ?_, ?_⟩
    · refine iff_of_true rfl ⟨hdirectory, ?_⟩
      intro another found hother
      rw [hfinds.unique hother]
      exact haccepted
    · intro _ another found hother
      rw [hfinds.unique hother]
      exact hoverrides
    · intro refusal hrefused
      cases hrefused
  | upTo stop refusal after hstops =>
    refine ⟨rfl, by simp [Except.mapError, hdirectory], ?_, hunchanged _, ?_, ?_⟩
    · refine iff_of_false (by simp [Except.mapError]) ?_
      intro haccepts
      obtain ⟨value, hleaves, hrefused⟩ := hstops.refused
      rw [haccepts.2 place text hfinds stop value hleaves] at hrefused
      cases hrefused
    · intro hok
      cases hok
    · intro refused hrefused
      cases hrefused
      exact ⟨place, text, stop, hfinds, hstops⟩

theorem loadEnvironment_followsNearest (session : Session) :
    session.FollowsNearest session.loadEnvironment.1 session.loadEnvironment.2 := by
  by_cases hdirectory : session.directory.Nameable
  · cases hnearest : session.tree.nearest? session.directory envFileName with
    | none =>
      rw [loadEnvironment_of_none hdirectory hnearest]
      exact followsNearest_nothing hdirectory (Tree.nearest?_eq_none_iff.1 hnearest)
    | some text =>
      obtain ⟨place, hfinds⟩ := Tree.nearest?_eq_some_iff.1 hnearest
      rw [loadEnvironment_of_some hdirectory hnearest]
      exact followsNearest_loaded hdirectory hfinds (EnvFile.load_loading session.environment text)
  · rw [loadEnvironment_of_lost hdirectory]
    exact followsNearest_lost hdirectory

/-- No other environment file contributes anything. -/
theorem loadEnvironment_congr (henvironment : other.environment = session.environment)
    (hdirectory : other.directory.Nameable ↔ session.directory.Nameable)
    (hnearest : other.tree.nearest? other.directory envFileName = session.tree.nearest? session.directory envFileName) :
    other.loadEnvironment.1 = session.loadEnvironment.1 ∧
      other.loadEnvironment.2.environment = session.loadEnvironment.2.environment := by
  by_cases hnameable : session.directory.Nameable
  · have hother := hdirectory.2 hnameable
    cases hfound : session.tree.nearest? session.directory envFileName with
    | none =>
      rw [loadEnvironment_of_none hnameable hfound, loadEnvironment_of_none hother (hnearest.trans hfound)]
      exact ⟨rfl, henvironment⟩
    | some text =>
      rw [loadEnvironment_of_some hnameable hfound, loadEnvironment_of_some hother (hnearest.trans hfound),
        henvironment]
      exact ⟨rfl, rfl⟩
  · rw [loadEnvironment_of_lost hnameable, loadEnvironment_of_lost (mt hdirectory.1 hnameable)]
    exact ⟨rfl, henvironment⟩

/-- Loading that leaves every variable as it is leaves the session as it is. -/
theorem loadEnvironment_of_sameValues
    (hsame : session.loadEnvironment.2.environment.SameValues session.environment) :
    session.loadEnvironment.2 = session := by
  by_cases hdirectory : session.directory.Nameable
  · cases hnearest : session.tree.nearest? session.directory envFileName with
    | none => rw [loadEnvironment_of_none hdirectory hnearest]
    | some text =>
      rw [loadEnvironment_of_some hdirectory hnearest] at hsame ⊢
      rw [EnvFile.load_of_sameValues hsame]
  · rw [loadEnvironment_of_lost hdirectory]

/-- Nor does loading change a session with the same environment and environment files. -/
theorem loadEnvironment_of_unchanged (hunchanged : session.loadEnvironment.2 = session)
    (henvironment : other.environment = session.environment) (hdirectory : other.directory = session.directory)
    (htext : ∀ place, other.tree.text? (place ++ [envFileName]) = session.tree.text? (place ++ [envFileName])) :
    other.loadEnvironment = (session.loadEnvironment.1, other) := by
  have hnearest : other.tree.nearest? other.directory envFileName =
      session.tree.nearest? session.directory envFileName := by
    rw [hdirectory]
    exact Tree.nearest?_congr htext session.directory
  have hnameable : other.directory.Nameable ↔ session.directory.Nameable := by rw [hdirectory]
  obtain ⟨hresult, hloaded⟩ := loadEnvironment_congr henvironment hnameable hnearest
  ext1
  · exact hresult
  · show other.loadEnvironment.2 = other
    rw [loadEnvironment_eq, hloaded, hunchanged, ← henvironment]

/-! ### Configuration -/

theorem step_configure_snd (session : Session) (time : String) :
    (session.step time .configure).2 = session.loadEnvironment.2 := by
  rw [step_configure_eq]

theorem step_configure_of_ok (hload : session.loadEnvironment.1 = .ok ()) (time : String) :
    (session.step time .configure).1 = .configured (.ofEnvironment session.loadEnvironment.2.environment) := by
  rw [step_configure_eq, hload]
  rfl

theorem step_configure_of_error {error : LoadError} (hload : session.loadEnvironment.1 = .error error) (time : String) :
    (session.step time .configure).1 = .notLoaded error := by
  rw [step_configure_eq, hload]

/-- Loading changes nothing but the environment, and that only as the nearest environment file says. The
configuration that comes back depends on the resulting environment alone, so that loading again with no
file in reach gives it once more. -/
theorem loadEnvironment_exact_and_config_by_environment (session : Session) :
    session.FollowsNearest session.loadEnvironment.1 session.loadEnvironment.2 ∧
      (∀ other : Session, other.environment = session.environment →
        (other.directory.Nameable ↔ session.directory.Nameable) →
        (∀ text, (∃ place, other.Finds place text) ↔ ∃ place, session.Finds place text) →
        other.loadEnvironment.1 = session.loadEnvironment.1 ∧
          other.loadEnvironment.2.environment = session.loadEnvironment.2.environment) ∧
      ∀ time, (session.step time .configure).2 = session.loadEnvironment.2 ∧
        (∀ error, session.loadEnvironment.1 = .error error → (session.step time .configure).1 = .notLoaded error) ∧
        (session.loadEnvironment.1 = .ok () →
          (session.step time .configure).1 = .configured (.ofEnvironment session.loadEnvironment.2.environment) ∧
            ∀ (later : Session) (again : String),
              (∀ name, later.environment.get? name = session.loadEnvironment.2.environment.get? name) →
              later.directory.Nameable → (∀ place text, ¬ later.Finds place text) →
              (later.step again .configure).1 = (session.step time .configure).1) := by
  refine ⟨loadEnvironment_followsNearest session, ?_, ?_⟩
  · intro other henvironment hdirectory hfinds
    refine loadEnvironment_congr henvironment hdirectory (Option.ext fun text => ?_)
    exact (Tree.nearest?_eq_some_iff.trans (hfinds text)).trans Tree.nearest?_eq_some_iff.symm
  · intro time
    refine ⟨step_configure_snd session time, fun error hload => step_configure_of_error hload time, ?_⟩
    intro hload
    rw [step_configure_of_ok hload]
    refine ⟨rfl, ?_⟩
    intro later again hget hdirectory hnone
    have hlater := loadEnvironment_of_none hdirectory (Tree.nearest?_eq_none_iff.2 hnone)
    rw [step_configure_of_ok (congrArg Prod.fst hlater), hlater, Config.ofEnvironment_congr hget]

/-! ### Files that are not loaded -/

/-- A session whose environment file gives a value to a name that no environment can hold. -/
def unsettable : Session where
  tree := { nodes := .ofList [([".env"], .file "X=1\n'A=B'=2\nY=3\n")] }

/-- A name of the given length. -/
def longName (length : Nat) : String :=
  .ofList (List.replicate length 'k')

/-- A directory far below the root. Its path has 3841 characters and those of its name. -/
def abyss (length : Nat) : Location :=
  List.replicate 15 (longName 255) ++ [longName length]

/-- A session in a directory that no path can name. -/
def buried : Session where
  tree := (Tree.ofDirectory (abyss 255)).put [".env"] (.file "A=1\n")
  directory := abyss 255

/-- A session in a directory that a path can just name, with an environment file that no path can name. -/
def overlong : Session where
  tree := (Tree.ofDirectory (abyss 254)).put (abyss 254 ++ [".env"]) (.file "A=1\n")
  directory := abyss 254

theorem utf8ByteSize_longName (length : Nat) : (longName length).utf8ByteSize = length := by
  induction length with
  | zero => rfl
  | succ length ih =>
    rw [longName, List.replicate_succ, String.ofList_cons, String.utf8ByteSize_append, ← longName, ih, Nat.add_comm]
    rfl

theorem hasNull_longName (length : Nat) : Text.hasNull (longName length) = false := by
  rw [Text.hasNull, longName, String.toList_ofList, List.contains_replicate]
  rfl

theorem byteLength_abyss (length : Nat) : (abyss length).byteLength = 3841 + length := by
  have hreplicate : ∀ count, Location.byteLength (List.replicate count (longName 255)) = 256 * count := by
    intro count
    induction count with
    | zero => rfl
    | succ count ih =>
      rw [List.replicate_succ, Location.byteLength, utf8ByteSize_longName, ih]
      omega
  rw [abyss, Location.byteLength_append, hreplicate, Location.byteLength, Location.byteLength, utf8ByteSize_longName]
  omega

theorem nameable_abyss_iff (length : Nat) : (abyss length).Nameable ↔ length ≤ 254 := by
  have hnull : (abyss length).any Text.hasNull = false := by
    simp only [abyss, List.any_append, List.any_replicate, List.any_cons, List.any_nil, hasNull_longName]
    rfl
  rw [Location.nameable_iff, byteLength_abyss, pathLimit]
  constructor
  · intro h
    omega
  · intro h
    exact ⟨hnull, by omega⟩

theorem not_nameable_abyss_concat : ¬ Location.Nameable (abyss 254 ++ [".env"]) := by
  intro hnameable
  have hsize := (Location.nameable_iff.1 hnameable).2
  rw [Location.byteLength_append, byteLength_abyss] at hsize
  exact absurd hsize (by decide)

theorem unsettable_finds : unsettable.Finds [] "X=1\n'A=B'=2\nY=3\n" := by
  refine ⟨List.nil_prefix, by decide, by decide, ?_⟩
  intro place _ hplace hne
  exact absurd (List.prefix_nil.1 hplace) hne

theorem not_nameable_buried : ¬ buried.directory.Nameable := by
  rw [buried]
  exact mt (nameable_abyss_iff 255).1 (by decide)

theorem text?_buried (place : Location) :
    buried.tree.text? place = if place = [".env"] then some "A=1\n" else none := by
  rw [buried, Tree.text?_put_file (by decide), Tree.text?_ofDirectory]

theorem buried_finds : buried.Finds [] "A=1\n" := by
  refine ⟨List.nil_prefix, by decide, (text?_buried _).trans (if_pos rfl), ?_⟩
  intro place _ _ hplace _
  refine (text?_buried _).trans (if_neg ?_)
  intro heq
  exact hplace (List.append_left_injective [".env"] heq)

theorem text?_overlong (place : Location) :
    overlong.tree.text? place = if place = abyss 254 ++ [".env"] then some "A=1\n" else none := by
  rw [overlong, Tree.text?_put_file (by simp), Tree.text?_ofDirectory]

theorem overlong_finds_nothing (place : Location) (text : String) : ¬ overlong.Finds place text :=
  not_finds_of_unnamed not_nameable_abyss_concat text?_overlong

/-- The nearest environment file does not always leave its values: a name that no environment can hold ends
the loading early, a working directory on a path that is too long prevents it, and an environment file on a
path that is too long is passed over. -/
theorem nearest_file_not_always_loaded :
    (unsettable.Finds [] "X=1\n'A=B'=2\nY=3\n" ∧
      EnvFile.Leaves unsettable.environment (EnvFile.bindings "X=1\n'A=B'=2\nY=3\n") "Y" "3" ∧
      unsettable.loadEnvironment.2.environment.get? "Y" = none) ∧
    (buried.Finds [] "A=1\n" ∧ EnvFile.Leaves buried.environment (EnvFile.bindings "A=1\n") "A" "1" ∧
      buried.loadEnvironment.2.environment.get? "A" = none) ∧
    (overlong.tree.text? (overlong.directory ++ [envFileName]) = some "A=1\n" ∧
      EnvFile.Leaves overlong.environment (EnvFile.bindings "A=1\n") "A" "1" ∧
      overlong.loadEnvironment.2.environment.get? "A" = none) := by
  refine ⟨⟨unsettable_finds, ?_, by decide +kernel⟩, ⟨buried_finds, ?_, ?_⟩, ⟨?_, ?_, ?_⟩⟩
  · exact EnvFile.get?_resolve_eq_some_iff.1 (by decide +kernel)
  · exact EnvFile.get?_resolve_eq_some_iff.1 (by decide +kernel)
  · rw [loadEnvironment_of_lost not_nameable_buried]
    rfl
  · rw [text?_overlong, overlong, envFileName]
    exact if_pos rfl
  · exact EnvFile.get?_resolve_eq_some_iff.1 (by decide +kernel)
  · have hdirectory : overlong.directory.Nameable := by
      rw [overlong]
      exact (nameable_abyss_iff 254).2 (Nat.le_refl 254)
    rw [loadEnvironment_of_none hdirectory (Tree.nearest?_eq_none_iff.2 overlong_finds_nothing)]
    rfl

end Session

end AccessScopes
