import AccessScopes.Proofs.EnvFile.Reloading
import AccessScopes.Proofs.Files.LogPath
import AccessScopes.Proofs.Session.Loading

/-!
# Loading the configuration again

If the nearest environment file has no forward references, loading it again changes nothing and comes to
the same. The same holds over every run of steps that load it: none of them writes an environment file,
because the logs that the command writes are never named like one, so each finds the settings that the
first one found.
-/

namespace AccessScopes

open Files

/-- The step loads the configuration, by itself or for a run of the command. -/
def Step.Loads : Step → Prop
  | .configure | .command _ => True
  | _ => False

namespace Session

/-- The environment file that is found has no forward references. -/
def Repeatable (session : Session) : Prop :=
  ∀ place text, session.Finds place text → EnvFile.NoForwardReferences (EnvFile.bindings text)

/-- The same environment files are there as at the start, and the environment is that of the start, before
or after it was loaded. -/
structure Reloads (start session : Session) : Prop where
  directory_eq : session.directory = start.directory
  text_eq : ∀ place, session.tree.text? (place ++ [envFileName]) = start.tree.text? (place ++ [envFileName])
  environment_eq : session.environment = start.environment ∨
    session.environment = start.loadEnvironment.2.environment

variable {start session : Session}

/-! ### Once more -/

/-- Loading a second time comes to the same and changes nothing. -/
theorem loadEnvironment_loadEnvironment (hrepeatable : session.Repeatable) :
    session.loadEnvironment.2.loadEnvironment = session.loadEnvironment := by
  by_cases hdirectory : session.directory.Nameable
  · cases hnearest : session.tree.nearest? session.directory envFileName with
    | none => rw [loadEnvironment_of_none hdirectory hnearest, loadEnvironment_of_none hdirectory hnearest]
    | some text =>
      obtain ⟨place, hfinds⟩ := Tree.nearest?_eq_some_iff.1 hnearest
      have hfirst := loadEnvironment_of_some hdirectory hnearest
      have hsecond : session.loadEnvironment.2.loadEnvironment =
          ((EnvFile.load session.loadEnvironment.2.environment text).1.mapError .refused,
            { session with environment := (EnvFile.load session.loadEnvironment.2.environment text).2 }) := by
        rw [hfirst]
        exact loadEnvironment_of_some hdirectory hnearest
      rw [hsecond, hfirst, EnvFile.load_load (hrepeatable place text hfinds)]
  · rw [loadEnvironment_of_lost hdirectory, loadEnvironment_of_lost hdirectory]

theorem step_configure_configure (hrepeatable : session.Repeatable) (time again : String) :
    (session.step time .configure).2.step again .configure = session.step time .configure := by
  rw [step_configure_snd, step_configure_eq, step_configure_eq, loadEnvironment_loadEnvironment hrepeatable]

/-! ### Over a run -/

theorem Reloads.loadEnvironment_eq (hreloads : start.Reloads session) (hrepeatable : start.Repeatable) :
    session.loadEnvironment.1 = start.loadEnvironment.1 ∧
      session.loadEnvironment.2.environment = start.loadEnvironment.2.environment := by
  have hdirectory : session.directory.Nameable ↔ start.directory.Nameable := by rw [hreloads.directory_eq]
  have hnearest : session.tree.nearest? session.directory envFileName =
      start.tree.nearest? start.directory envFileName := by
    rw [hreloads.directory_eq]
    exact Tree.nearest?_congr hreloads.text_eq start.directory
  rcases hreloads.environment_eq with hbefore | hafter
  · exact loadEnvironment_congr hbefore hdirectory hnearest
  · -- The session is compared with the one that the first loading left.
    have hloaded : session.loadEnvironment.1 = start.loadEnvironment.2.loadEnvironment.1 ∧
        session.loadEnvironment.2.environment = start.loadEnvironment.2.loadEnvironment.2.environment := by
      apply loadEnvironment_congr hafter
      · rw [loadEnvironment_directory]
        exact hdirectory
      · rw [loadEnvironment_directory, loadEnvironment_tree]
        exact hnearest
    rw [loadEnvironment_loadEnvironment hrepeatable] at hloaded
    exact hloaded

/-- What a loading leaves, with logs written at most. -/
theorem Reloads.of_loaded {after : Session} (hreloads : start.Reloads session) (hrepeatable : start.Repeatable)
    (hdirectory : after.directory = session.directory)
    (htext : ∀ place, after.tree.text? (place ++ [envFileName]) = session.tree.text? (place ++ [envFileName]))
    (henvironment : after.environment = session.loadEnvironment.2.environment) : start.Reloads after where
  directory_eq := hdirectory.trans hreloads.directory_eq
  text_eq place := (htext place).trans (hreloads.text_eq place)
  environment_eq := Or.inr (henvironment.trans (hreloads.loadEnvironment_eq hrepeatable).2)

theorem Reloads.command (hreloads : start.Reloads session) (hrepeatable : start.Repeatable) (time : String)
    (arguments : List String) : start.Reloads (CommandLine.run time arguments session).2 := by
  have htree : ∀ place, session.loadEnvironment.2.tree.text? (place ++ [envFileName]) =
      session.tree.text? (place ++ [envFileName]) := by
    intro place
    rw [loadEnvironment_tree]
  have hcourse := CommandLine.run_course time arguments session
  generalize CommandLine.run time arguments session = run at hcourse
  cases hcourse with
  | noArguments hnone => exact hreloads
  | notLoaded error _ _ => exact hreloads.of_loaded hrepeatable session.loadEnvironment_directory htree rfl
  | unaudited _ _ _ => exact hreloads.of_loaded hrepeatable session.loadEnvironment_directory htree rfl
  | notOpened error _ _ _ => exact hreloads.of_loaded hrepeatable session.loadEnvironment_directory htree rfl
  | audited file opened _ _ _ hfile htouch =>
    refine hreloads.of_loaded hrepeatable session.loadEnvironment_directory ?_ rfl
    have hnames : (file.address session.directory).location.NamesLog := Path.namesLog_resolve hfile session.directory
    exact text?_envFile (spares_addAll_startLog htouch _) hnames

theorem Reloads.step (hreloads : start.Reloads session) (hrepeatable : start.Repeatable) {step : Step}
    (hstep : step.Loads) (time : String) : start.Reloads (session.step time step).2 := by
  cases step with
  | configure =>
    rw [step_configure_snd]
    refine hreloads.of_loaded hrepeatable session.loadEnvironment_directory ?_ rfl
    intro place
    rw [loadEnvironment_tree]
  | command arguments => exact hreloads.command hrepeatable time arguments
  | _ => exact absurd hstep id

theorem Reloads.history (hreloads : start.Reloads session) (hrepeatable : start.Repeatable)
    {steps : List (String × Step)} (hsteps : ∀ timed ∈ steps, timed.2.Loads) :
    ∀ event ∈ session.history steps, start.Reloads event.before := by
  induction steps generalizing session with
  | nil => exact fun event hevent => absurd hevent List.not_mem_nil
  | cons timed steps ih =>
    obtain ⟨time, step⟩ := timed
    intro event hevent
    rcases List.mem_cons.1 hevent with rfl | hrest
    · exact hreloads
    · have hafter := hreloads.step hrepeatable (hsteps _ List.mem_cons_self) time
      exact ih hafter (fun other hother => hsteps other (List.mem_cons_of_mem _ hother)) event hrest

/-- If the environment file that is found has no forward references, loading the configuration a second time
comes to the same and leaves everything as it is, and in any run of loadings and commands each finds the
settings that the first found. -/
theorem configure_idempotent_and_settings_stay (session : Session) (hrepeatable : session.Repeatable) :
    (∀ time again, (session.step time .configure).2.step again .configure = session.step time .configure) ∧
      (∀ time again, (∃ config, (session.step time .configure).1 = .configured config ∧
          ((session.step time .configure).2.step again .configure).1 = .configured config) ↔
        session.directory.Nameable ∧ ∀ place text, session.Finds place text → ∀ name value,
          EnvFile.Leaves session.environment (EnvFile.bindings text) name value →
          Environment.problem? name value = none) ∧
      ∀ steps : List (String × Step), (∀ timed ∈ steps, timed.2.Loads) → ∀ event ∈ session.history steps,
        event.before.loadEnvironment.1 = session.loadEnvironment.1 ∧
          event.before.loadEnvironment.2.environment = session.loadEnvironment.2.environment ∧
          CommandLine.foundConfig event.before = CommandLine.foundConfig session ∧
          ∀ time, event.step = .configure → event.outcome = (session.step time .configure).1 := by
  have hfollows := loadEnvironment_followsNearest session
  refine ⟨fun time again => step_configure_configure hrepeatable time again, ?_, ?_⟩
  · intro time again
    rw [step_configure_configure hrepeatable, ← hfollows.ok_iff]
    constructor
    · intro h
      obtain ⟨config, hconfig, -⟩ := h
      cases hload : session.loadEnvironment.1 with
      | ok _ => rfl
      | error error =>
        rw [step_configure_of_error hload] at hconfig
        cases hconfig
    · intro hok
      exact ⟨_, step_configure_of_ok hok time, step_configure_of_ok hok time⟩
  · intro steps hsteps event hevent
    have hstart : session.Reloads session := ⟨rfl, fun _ => rfl, Or.inl rfl⟩
    have hbefore := hstart.history hrepeatable hsteps event hevent
    obtain ⟨hresult, henvironment⟩ := hbefore.loadEnvironment_eq hrepeatable
    refine ⟨hresult, henvironment, ?_, ?_⟩
    · rw [CommandLine.foundConfig, henvironment]
      rfl
    · intro time hstep
      rw [Event.outcome, hstep, step_configure_eq, step_configure_eq, hresult, config, henvironment]
      rfl

theorem Finds.repeatable {place : Location} {text : String} (hfinds : session.Finds place text)
    (hforward : EnvFile.NoForwardReferences (EnvFile.bindings text)) : session.Repeatable := by
  intro other found hother
  rw [hfinds.unique hother]
  exact hforward

/-- An environment file that binds a variable twice, leaves one without a value, and refers to variables
above and to one that is set nowhere. -/
def referringText : String :=
  "KIND=user\nexport TOKEN\nAREA=$\x7bKIND\x7d/$\x7bPLACE:-orders\x7d\n" ++
    "KIND=$\x7bKIND\x7ds\nGATELOCK_GRANTS=$\x7bAREA\x7d.r\n"

def referring : Session where
  environment := .ofList [("TOKEN", "t")]
  tree := { nodes := .ofList [([".env"], .file referringText), (["work"], .directory)] }
  directory := ["work"]

theorem referring_repeatable : referring.Repeatable := by
  have hnearest : referring.tree.nearest? referring.directory envFileName = some referringText := by decide +kernel
  obtain ⟨place, hfinds⟩ := Tree.nearest?_eq_some_iff.1 hnearest
  exact Finds.repeatable hfinds (by decide +kernel)

theorem referring_configures_twice :
    (referring.step "1" .configure).2.step "2" .configure = referring.step "1" .configure ∧
      (referring.step "1" .configure).1 = .configured
        { subjects := [], resources := [], grants := ["user/orders.r"], logPath := "gatelock.log", audit := false } :=
  ⟨(configure_idempotent_and_settings_stay referring referring_repeatable).1 "1" "2", by decide +kernel⟩

/-- Not every such file is loaded: the environment may refuse a value, and the path of the working directory
may be too long. -/
theorem repeatable_not_always_configured :
    (unsettable.Repeatable ∧ ∀ config, (unsettable.step "1" .configure).1 ≠ .configured config) ∧
      buried.Repeatable ∧ ∀ config, (buried.step "1" .configure).1 ≠ .configured config := by
  refine ⟨⟨Finds.repeatable unsettable_finds (by decide +kernel), ?_⟩,
    Finds.repeatable buried_finds (by decide +kernel), ?_⟩
  · intro config hconfig
    have houtcome : (unsettable.step "1" .configure).1 = .notLoaded (.refused .equalsSign) := by decide +kernel
    rw [houtcome] at hconfig
    cases hconfig
  · intro config hconfig
    have hlost : buried.loadEnvironment.1 = .error .lost := by rw [loadEnvironment_of_lost not_nameable_buried]
    rw [step_configure_of_error hlost] at hconfig
    cases hconfig

end Session

end AccessScopes
