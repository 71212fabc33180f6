import AccessScopes.Proofs.Checker.Gate
import AccessScopes.Proofs.Config.Items
import AccessScopes.Proofs.EnvFile.Quoting
import AccessScopes.Proofs.Session.Loading

/-!
# Grants by way of an environment file

The written forms of scopes, joined by commas and put between single quotes, make a line of an environment
file. Three readers undo this one after the other: that of the file, that of the list and that of the
scopes. None of them cuts at a character that the ones after it admit, so the checker holds the scopes as
they were written, as long as the system can name the file at all.
-/

namespace AccessScopes

open Files

/-- The written form of the scope is left alone by the readers of a quoted value and of a list. -/
structure Scope.Carried (scope : Scope) : Prop where
  free : ∀ c ∈ scope.render.toList, c ∉ [',', '\x00', '\r', '\x27', '\\']
  stripped : Text.Stripped scope.render.toList

theorem Scope.carried_iff {scope : Scope} :
    (scope.render.toList.all fun c => !([',', '\x00', '\r', '\x27', '\\'].contains c)) = true ∧
      Text.Stripped scope.render.toList ↔ scope.Carried := by
  simp only [List.all_eq_true, Bool.not_eq_true', ← Bool.not_eq_true, List.contains_iff_mem]
  exact ⟨fun h => ⟨h.1, h.2⟩, fun h => ⟨h.free, h.stripped⟩⟩

instance (scope : Scope) : Decidable scope.Carried :=
  decidable_of_iff _ Scope.carried_iff

/-- The written forms of scopes as one list. -/
def Config.grantsText (scopes : List Scope) : String :=
  ",".intercalate (scopes.map Scope.render)

variable {scope : Scope} {scopes : List Scope}

/-! ### The list -/

theorem Scope.render_ne_empty (scope : Scope) : scope.render ≠ "" := by
  intro hempty
  have hmem : '/' ∈ scope.render.toList := by
    rw [toList_render]
    simp [layout, Layout.text]
  rw [hempty] at hmem
  exact absurd hmem (by decide)

theorem Scope.Carried.isItem (hcarried : scope.Carried) : Config.IsItem scope.render where
  ne_empty := scope.render_ne_empty
  no_comma hmem := hcarried.free _ hmem (by decide)
  stripped := hcarried.stripped

namespace Config

theorem items_grantsText (hcarried : ∀ scope ∈ scopes, scope.Carried) :
    items (grantsText scopes) = scopes.map Scope.render := by
  apply items_intercalate
  intro text htext
  obtain ⟨scope, hscope, rfl⟩ := List.mem_map.1 htext
  exact (hcarried scope hscope).isItem

theorem not_mem_grantsText (hcarried : ∀ scope ∈ scopes, scope.Carried) {c : Char}
    (hc : c ∈ ['\x00', '\r', '\x27', '\\']) : c ∉ (grantsText scopes).toList := by
  intro hmem
  rw [grantsText, String.toList_intercalate] at hmem
  rcases Text.eq_or_mem_of_mem_intercalate hmem with hcomma | ⟨piece, hpiece, hin⟩
  · subst hcomma
    exact absurd hc (by decide)
  · obtain ⟨text, htext, rfl⟩ := List.mem_map.1 hpiece
    obtain ⟨scope, hscope, rfl⟩ := List.mem_map.1 htext
    exact (hcarried scope hscope).free c hin (List.mem_cons_of_mem _ hc)

theorem quotable_grantsText (hcarried : ∀ scope ∈ scopes, scope.Carried) :
    EnvFile.Quotable (grantsText scopes).toList where
  no_return := not_mem_grantsText hcarried (by decide)
  no_quote := not_mem_grantsText hcarried (by decide)
  no_backslash := not_mem_grantsText hcarried (by decide)

theorem isKey_grantsVariable : EnvFile.IsKey grantsVariable.toList where
  ne_nil := by decide
  unquoted := by decide
  keyChars := List.all_eq_true.1 (by decide)

theorem problem?_grantsText (hcarried : ∀ scope ∈ scopes, scope.Carried) :
    Environment.problem? grantsVariable (grantsText scopes) = none := by
  have hnull : Text.hasNull (grantsText scopes) = false := by
    rw [← Bool.not_eq_true, Text.hasNull, List.contains_iff_mem]
    exact not_mem_grantsText hcarried (by decide)
  have hname : Text.hasNull grantsVariable = false ∧ grantsVariable.toList.contains '=' = false ∧ grantsVariable ≠ "" := by
    decide
  rw [Environment.problem?, hname.1, hnull, Bool.or_false, if_neg Bool.false_ne_true, hname.2.1,
    if_neg Bool.false_ne_true, if_neg hname.2.2]

end Config

/-! ### The checker -/

/-- A checker for the written forms of scopes that its lists admit holds these scopes. -/
theorem Checker.grants_ofGrants_render {lists : AllowLists} (hwell : ∀ scope ∈ scopes, scope.WellFormed)
    (hadmitted : ∀ scope ∈ scopes, lists.admits scope = true) :
    (ofGrants lists (scopes.map Scope.render)).grants = scopes := by
  have hread : ∀ scope ∈ scopes, (lists.parse? ∘ Scope.render) scope = some scope := by
    intro scope hscope
    exact AllowLists.parse?_eq_some_iff.2 ⟨(hwell scope hscope).parse?_render, hadmitted scope hscope⟩
  show (scopes.map Scope.render).filterMap lists.parse? = scopes
  rw [List.filterMap_map, List.filterMap_congr hread, List.filterMap_some]

namespace Session

variable {session : Session} {text : String}

/-! ### The file -/

/-- The environment file of the working directory is the nearest one. -/
theorem finds_directory (hnamed : Location.Nameable (session.directory ++ [envFileName]))
    (htext : session.tree.text? (session.directory ++ [envFileName]) = some text) :
    session.Finds session.directory text := by
  refine ⟨List.prefix_refl _, hnamed, htext, ?_⟩
  intro other habove hbelow hne
  exact absurd (hbelow.eq_of_length_le habove.length_le) hne

theorem loadEnvironment_of_quoted_grants (hcarried : ∀ scope ∈ scopes, scope.Carried)
    (hplain : ¬ "$\x7b".toList <:+: (Config.grantsText scopes).toList)
    (hnamed : Location.Nameable (session.directory ++ [envFileName]))
    (htext : session.tree.text? (session.directory ++ [envFileName]) =
      some ("GATELOCK_GRANTS='" ++ Config.grantsText scopes ++ "'\n")) :
    session.loadEnvironment = (.ok (), { session with
      environment := session.environment.insert Config.grantsVariable (Config.grantsText scopes) }) := by
  have hline : "GATELOCK_GRANTS='" ++ Config.grantsText scopes ++ "'\n" =
      EnvFile.quotedLine Config.grantsVariable (Config.grantsText scopes) := rfl
  rw [loadEnvironment_of_some (Location.nameable_of_append hnamed) (finds_directory hnamed htext).nearest?_eq, hline,
    EnvFile.load_quotedLine session.environment Config.isKey_grantsVariable (Config.quotable_grantsText hcarried) hplain
      (Config.problem?_grantsText hcarried)]
  rfl

/-- Of the settings only the grants change with their variable. -/
theorem config_insert_grants (session : Session) (text : String) :
    config { session with environment := session.environment.insert Config.grantsVariable text } =
      { session.config with grants := Config.items text } := by
  have hother : ∀ name, name ≠ Config.grantsVariable →
      (session.environment.insert Config.grantsVariable text).get? name = session.environment.get? name := by
    intro name hne
    rw [Table.get?_insert, if_neg hne]
  have hgrants : (session.environment.insert Config.grantsVariable text).get? Config.grantsVariable = some text := by
    rw [Table.get?_insert, if_pos rfl]
  simp only [config, Config.ofEnvironment, hgrants, Option.getD_some, hother Config.subjectsVariable (by decide),
    hother Config.resourcesVariable (by decide), hother Config.logPathVariable (by decide),
    hother Config.auditVariable (by decide)]

/-- If the environment file of the working directory can be named and holds nothing but the written forms of
scopes, joined by commas and in single quotes, then whatever grants were set before, the checker of the
configuration holds exactly these scopes. -/
theorem configure_reads_quoted_grants (session : Session) (scopes : List Scope)
    (hwell : ∀ scope ∈ scopes, scope.WellFormed)
    (hpasses : ∀ scope ∈ scopes, scope.Passes session.config.subjects session.config.resources)
    (hcarried : ∀ scope ∈ scopes, scope.Carried)
    (hplain : ¬ "$\x7b".toList <:+: (",".intercalate (scopes.map Scope.render)).toList)
    (hnamed : Location.Nameable (session.directory ++ [envFileName]))
    (htext : session.tree.text? (session.directory ++ [envFileName]) =
      some ("GATELOCK_GRANTS='" ++ ",".intercalate (scopes.map Scope.render) ++ "'\n")) (time : String) :
    ∃ config after, session.step time .configure = (.configured config, after) ∧
      config.checker.grants = scopes ∧
      config = { session.config with grants := scopes.map Scope.render } ∧
      after = { session with environment :=
        session.environment.insert "GATELOCK_GRANTS" (",".intercalate (scopes.map Scope.render)) } := by
  have hload := loadEnvironment_of_quoted_grants hcarried hplain hnamed htext
  have hconfig := session.config_insert_grants (Config.grantsText scopes)
  rw [Config.items_grantsText hcarried] at hconfig
  refine ⟨_, _, ?_, ?_, hconfig, rfl⟩
  · rw [step_configure_eq, hload]
    rfl
  · rw [hconfig]
    apply Checker.grants_ofGrants_render hwell
    intro scope hscope
    exact AllowLists.admits_given_iff.2 (hpasses scope hscope)

/-- Scopes with line ends, comment marks, equals signs, double quotes and blanks in them, one of them twice. -/
def awkwardScopes : List Scope :=
  let shift : Scope := {
    subject := "night shift\n#2", resource := "a=\"b c\"", actions := [.update, .read]
    params := some (.ofList [("zone", "x  y"), ("area", "#1\n2")]) }
  [shift, { subject := "admin", resource := "*", actions := [.read], params := some ∅ }, shift]

/-- A session with such scopes in its environment file, allow-lists, and a grant set before. -/
def awkward : Session where
  environment := .ofList [("GATELOCK_SUBJECTS", "admin, night shift\n#2"), ("GATELOCK_GRANTS", "old/one.r")]
  tree := { nodes := .ofList [(["work"], .directory), (["work", ".env"], .file
    ("GATELOCK_GRANTS='night shift\n#2/a=\"b c\".ur?zone=x  y&area=#1\n2,admin/*.r?," ++
      "night shift\n#2/a=\"b c\".ur?zone=x  y&area=#1\n2'\n"))] }
  directory := ["work"]

theorem wellFormed_of_mem_awkwardScopes : ∀ scope ∈ awkwardScopes, scope.WellFormed := by
  have hread : ∀ scope ∈ awkwardScopes, Scope.parse? scope.render = some scope := by decide +kernel
  intro scope hscope
  exact Scope.wellFormed_of_parse? (hread scope hscope)

theorem passes_of_mem_awkwardScopes :
    ∀ scope ∈ awkwardScopes, scope.Passes awkward.config.subjects awkward.config.resources := by
  have hadmitted : ∀ scope ∈ awkwardScopes,
      (AllowLists.given (some awkward.config.subjects) (some awkward.config.resources)).admits scope = true := by
    decide +kernel
  intro scope hscope
  exact AllowLists.admits_given_iff.1 (hadmitted scope hscope)

theorem awkward_configured :
    ∃ config, (awkward.step "1" .configure).1 = .configured config ∧ config.checker.grants = awkwardScopes := by
  obtain ⟨config, after, hstep, hgrants, -, -⟩ := configure_reads_quoted_grants awkward awkwardScopes
    wellFormed_of_mem_awkwardScopes passes_of_mem_awkwardScopes (by decide +kernel) (by decide +kernel)
    (by decide +kernel) (by decide +kernel) "1"
  exact ⟨config, congrArg Prod.fst hstep, hgrants⟩

/-! ### Files that no path can name -/

/-- A session far below the root, with a grant in the environment file of its working directory. -/
def remote (length : Nat) : Session where
  tree := (Tree.ofDirectory (abyss length)).put (abyss length ++ [".env"]) (.file "GATELOCK_GRANTS='a/b.r'\n")
  directory := abyss length

def remoteScope : Scope where
  subject := "a"
  resource := "b"
  actions := [.read]
  params := none

theorem text?_remote (length : Nat) (place : Location) :
    (remote length).tree.text? place =
      if place = abyss length ++ [".env"] then some "GATELOCK_GRANTS='a/b.r'\n" else none := by
  rw [remote, Tree.text?_put_file (by simp), Tree.text?_ofDirectory]

theorem remote_finds_nothing (place : Location) (text : String) : ¬ (remote 254).Finds place text :=
  not_finds_of_unnamed not_nameable_abyss_concat (text?_remote 254)

/-- Without a path to the file the scopes are not read: loading fails if the working directory has none
either, and passes the file over otherwise. -/
theorem quoted_grants_not_always_read :
    remoteScope.WellFormed ∧ remoteScope.Carried ∧
      ¬ "$\x7b".toList <:+: (",".intercalate ([remoteScope].map Scope.render)).toList ∧
      (∀ length, remoteScope.Passes (remote length).config.subjects (remote length).config.resources ∧
        (remote length).tree.text? ((remote length).directory ++ [envFileName]) =
          some ("GATELOCK_GRANTS='" ++ ",".intercalate ([remoteScope].map Scope.render) ++ "'\n")) ∧
      (∀ config, ((remote 255).step "1" .configure).1 ≠ .configured config) ∧
      ∃ config, ((remote 254).step "1" .configure).1 = .configured config ∧ config.checker.grants = [] := by
  have hread : Scope.parse? "a/b.r" = some remoteScope := by decide +kernel
  refine ⟨Scope.wellFormed_of_parse? hread, by decide +kernel, by decide +kernel, ?_, ?_, ?_⟩
  · intro length
    constructor
    · show remoteScope.Passes (Config.ofEnvironment ∅).subjects (Config.ofEnvironment ∅).resources
      exact ⟨Or.inl (by decide +kernel), Or.inl (by decide +kernel)⟩
    · rw [text?_remote, remote, envFileName, if_pos rfl]
      decide +kernel
  · intro config hconfig
    have hdirectory : ¬ (remote 255).directory.Nameable := mt (nameable_abyss_iff 255).1 (by decide)
    have hlost : (remote 255).loadEnvironment.1 = .error .lost := by rw [loadEnvironment_of_lost hdirectory]
    rw [step_configure_of_error hlost] at hconfig
    cases hconfig
  · have hdirectory : (remote 254).directory.Nameable := (nameable_abyss_iff 254).2 (Nat.le_refl 254)
    have hload := loadEnvironment_of_none hdirectory (Tree.nearest?_eq_none_iff.2 remote_finds_nothing)
    have houtcome := step_configure_of_ok (congrArg Prod.fst hload) "1"
    rw [hload] at houtcome
    exact ⟨.ofEnvironment ∅, houtcome, by decide +kernel⟩

end Session

end AccessScopes
