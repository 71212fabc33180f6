import AccessScopes.Proofs.Audit.Framing
import AccessScopes.Proofs.Files.Backups
import AccessScopes.Session.Basic

/-!
# What an open log does

What is added to an open log changes the file of the log and its backups alone. As long as the file need not be put
aside, it grows by what is added and nothing else changes. If it is put aside, it holds what is added and nothing
more. If the system does not let it be put aside, everything that is added is lost.
-/

namespace AccessScopes

open Files

/-- The file at the address need not be put aside before something is added to it: none is there, it was last written
today, or a backup of the day on which it was is there already. -/
def Files.Tree.Current (tree : Tree) (address : Address) : Prop :=
  (tree.lastDay? address.location).all (fun day => tree.exists? (address.backup day)) = true

instance (tree : Tree) (address : Address) : Decidable (tree.Current address) :=
  inferInstanceAs (Decidable (_ = true))

theorem Files.Tree.current_of_lastDay? {tree : Tree} {address : Address}
    (hlast : tree.lastDay? address.location = none) : tree.Current address := by
  rw [Current, hlast]
  rfl

/-- The text that stays in the file at the address, in front of what is added to it: all of it, or nothing if the file is
put aside. -/
inductive Files.Tree.Keeps (tree : Tree) (address : Address) : String → Prop
  | current (hcurrent : tree.Current address) : Keeps tree address (tree.content address.location)
  | renewed (day : CalendarDay) (fresh : Tree) (hday : tree.lastDay? address.location = some day)
      (hfree : tree.exists? (address.backup day) = false) (hrotate : tree.rotate address day = (.ok (), fresh)) :
      Keeps tree address ""

namespace OpenLog

/-- Adds texts one after another. -/
def addAll (log : OpenLog) (tree : Tree) (texts : List String) : Tree × OpenLog :=
  texts.foldl (fun state text => state.2.add state.1 text) (tree, log)

variable {log : OpenLog} {tree fresh : Tree} {text : String} {texts : List String} {day : CalendarDay}

theorem addAll_cons (log : OpenLog) (tree : Tree) (text : String) (texts : List String) :
    log.addAll tree (text :: texts) = (log.add tree text).2.addAll (log.add tree text).1 texts := rfl

/-! ### In every state -/

theorem toAddress_emit (log : OpenLog) (tree : Tree) (text : String) :
    (log.emit tree text).2.toAddress = log.toAddress := by
  unfold emit
  split
  · rfl
  · rfl
  · split <;> rfl

theorem toAddress_add (log : OpenLog) (tree : Tree) (text : String) :
    (log.add tree text).2.toAddress = log.toAddress := by
  unfold add
  split
  · exact toAddress_emit log tree text
  · split
    · rfl
    · exact toAddress_emit _ _ text

theorem toAddress_cut (log : OpenLog) (place : Location) : (log.cut place).toAddress = log.toAddress := by
  unfold cut
  split <;> rfl

theorem spares_emit (log : OpenLog) (tree : Tree) (text : String) :
    tree.Spares (log.emit tree text).1 log.location := by
  unfold emit
  split
  · exact Tree.spares_append tree log.location text
  · exact .refl tree log.location
  · split
    · exact .refl tree log.location
    · rename_i after htouch
      exact (Tree.spares_touchAt htouch).trans (Tree.spares_append after log.location text)

theorem rotation?_eq_some_iff :
    log.rotation? tree = some day ↔ log.due? = some day ∧ tree.isDirectory log.location = false ∧
      tree.exists? (log.backup day) = false := by
  simp [rotation?, Option.filter_eq_some_iff]

theorem spares_add (log : OpenLog) (tree : Tree) (text : String) : tree.Spares (log.add tree text).1 log.location := by
  unfold add
  split
  · exact spares_emit log tree text
  · rename_i day hday
    obtain ⟨-, hplace, hfree⟩ := rotation?_eq_some_iff.1 hday
    have hrotation := (Tree.rotate_rotation tree log.toAddress day).spares (Tree.ne_nil_of_not_isDirectory hplace) hfree
    split
    · rename_i left hrotate
      rw [hrotate] at hrotation
      exact hrotation
    · rename_i fresh hrotate
      rw [hrotate] at hrotation
      exact hrotation.trans (spares_emit _ fresh text)

/-- Adding to a log touches its file and its backups alone. -/
theorem spares_addAll (log : OpenLog) (tree : Tree) (texts : List String) :
    tree.Spares (log.addAll tree texts).1 log.location := by
  induction texts generalizing log tree with
  | nil => exact .refl tree log.location
  | cons text texts ih =>
    have hrest := ih (log.add tree text).2 (log.add tree text).1
    rw [toAddress_add] at hrest
    exact (spares_add log tree text).trans hrest

/-! ### As long as the file stays -/

theorem add_of_kept (hlinked : log.stream = .linked) (hkept : log.rotation? tree = none) (text : String) :
    log.add tree text = (tree.append log.location text, log) := by
  rw [add, hkept]
  dsimp only
  rw [emit, hlinked]

theorem rotation?_append (log : OpenLog) (tree : Tree) (text : String) :
    log.rotation? (tree.append log.location text) = log.rotation? tree := by
  simp only [rotation?, Tree.isDirectory_append, Tree.exists?_append]

/-- The file grows by what is added, and it was written today. -/
theorem addAll_of_kept (hlinked : log.stream = .linked) (hkept : log.rotation? tree = none) (texts : List String) :
    ∃ after, log.addAll tree texts = (after, log) ∧
      (∀ other, after.text? other =
        if other = log.location then (tree.text? other).map (· ++ .join texts) else tree.text? other) ∧
      (tree.isFile log.location = true → texts ≠ [] → after.lastDay? log.location = none) := by
  induction texts generalizing tree with
  | nil =>
    refine ⟨tree, rfl, ?_, fun _ hsome => absurd rfl hsome⟩
    intro other
    simp
  | cons text texts ih =>
    rw [addAll_cons, add_of_kept hlinked hkept]
    obtain ⟨after, hall, htext, hlast⟩ := ih ((rotation?_append log tree text).trans hkept)
    refine ⟨after, hall, ?_, ?_⟩
    · intro other
      rw [htext, Tree.text?_append, String.join_cons]
      by_cases hother : other = log.location
      · simp [hother, Function.comp_def, String.append_assoc]
      · simp [hother]
    · intro hfile _
      by_cases hmore : texts = []
      · subst hmore
        cases hall
        exact Tree.lastDay?_append hfile text
      · refine hlast ?_ hmore
        obtain ⟨before, hbefore⟩ := Tree.isFile_iff.1 hfile
        exact Tree.isFile_iff.2 ⟨before ++ text, by rw [Tree.text?_append, if_pos rfl, hbefore]; rfl⟩

/-! ### If the file is put aside -/

theorem add_of_renewed (hdue : log.rotation? tree = some day)
    (hrotate : tree.rotate log.toAddress day = (.ok (), fresh)) (text : String) :
    log.add tree text = (fresh.append log.location text, { log with stream := .linked, due? := none }) := by
  rw [add, hdue]
  dsimp only
  rw [hrotate]
  rfl

theorem text?_addAll_of_renewed (hdue : log.rotation? tree = some day)
    (hrotate : tree.rotate log.toAddress day = (.ok (), fresh)) (hsome : texts ≠ []) :
    (log.addAll tree texts).1.text? log.location = some (.join texts) := by
  obtain ⟨text, rest, rfl⟩ := List.exists_cons_of_ne_nil hsome
  have hne := Tree.ne_nil_of_not_isDirectory (rotation?_eq_some_iff.1 hdue).2.1
  have hempty : fresh.text? log.location = some "" := Tree.text?_rotate_self hne hrotate
  rw [addAll_cons, add_of_renewed hdue hrotate]
  have hlinked : ({ log with stream := .linked, due? := none } : OpenLog).stream = .linked := rfl
  have hkept : ({ log with stream := .linked, due? := none } : OpenLog).rotation?
      (fresh.append log.location text) = none := rfl
  obtain ⟨after, hall, htext, -⟩ := addAll_of_kept hlinked hkept rest
  rw [hall]
  dsimp only at htext ⊢
  rw [htext, if_pos rfl, Tree.text?_append, if_pos rfl, hempty, String.join_cons, Option.map_some, Option.map_some,
    String.empty_append]

/-- If the file cannot be put aside, nothing is added to any file. -/
theorem addAll_of_refused {refusal : Refusal} (hdue : log.rotation? tree = some day)
    (hmove : tree.move log.toAddress (log.backup day) = .error refusal) (texts : List String) :
    (log.addAll tree texts).1 = tree := by
  induction texts generalizing log with
  | nil => rfl
  | cons text texts ih =>
    have hadd : log.add tree text = (tree, { log with stream := .closed }) := by
      rw [add, hdue]
      dsimp only
      rw [Tree.rotate, hmove]
    rw [addAll_cons, hadd]
    exact ih hdue hmove

end OpenLog

/-! ### Logs that were just opened -/

namespace Session

variable {session : Session} {address : Address} {opened : Tree}

theorem rotation?_startLog_of_current (htouch : session.tree.touchAt address = .ok opened)
    (hcurrent : session.tree.Current address) : (session.startLog address).rotation? opened = none := by
  obtain ⟨-, -, hfree, rfl⟩ := Tree.touchAt_iff.1 htouch
  have hne := Tree.ne_nil_of_not_isDirectory hfree
  rw [OpenLog.rotation?, Option.filter_eq_none_iff]
  intro day hday
  have hbackup : session.tree.exists? (address.backup day) = true := by
    rw [Tree.Current] at hcurrent
    rw [startLog] at hday
    dsimp only at hday
    rw [hday] at hcurrent
    exact hcurrent
  have hother : (address.backup day).location ≠ address.location := (Address.backs_backup hne day).ne
  have hstill : (session.tree.withFile address.location).exists? (address.backup day) = true := by
    rw [Tree.exists?_congr (Tree.node?_withFile_of_ne hne hother), hbackup]
  simp [startLog, hstill]

/-- Opening a log and adding to it touches its file and its backups alone. -/
theorem spares_addAll_startLog (htouch : session.tree.touchAt address = .ok opened) (texts : List String) :
    session.tree.Spares ((session.startLog address).addAll opened texts).1 address.location :=
  (Tree.spares_touchAt htouch).trans (OpenLog.spares_addAll (session.startLog address) opened texts)

/-- The file of a log that was just opened and is current grows by what is added, and no other file changes. -/
theorem addAll_startLog_of_current (htouch : session.tree.touchAt address = .ok opened)
    (hcurrent : session.tree.Current address) (texts : List String) :
    ∃ after, (session.startLog address).addAll opened texts = (after, session.startLog address) ∧
      (∀ other, after.text? other =
        if other = address.location then some (session.tree.content address.location ++ .join texts)
        else session.tree.text? other) ∧
      (texts ≠ [] → after.lastDay? address.location = none) := by
  have hlinked : (session.startLog address).stream = .linked := rfl
  obtain ⟨after, hall, htext, hlast⟩ :=
    OpenLog.addAll_of_kept hlinked (rotation?_startLog_of_current htouch hcurrent) texts
  refine ⟨after, hall, ?_, hlast (Tree.isFile_touchAt htouch)⟩
  intro other
  refine (htext other).trans ?_
  rw [Tree.text?_touchAt htouch]
  show (if other = address.location then _ else _) = _
  by_cases hother : other = address.location
  · simp [hother]
  · simp [hother]

/-- What is added to a log that was just opened stands behind the text that stays in its file. -/
theorem text?_addAll_startLog {kept : String} {texts : List String}
    (htouch : session.tree.touchAt address = .ok opened) (hkeeps : session.tree.Keeps address kept)
    (hsome : texts ≠ []) :
    ((session.startLog address).addAll opened texts).1.text? address.location = some (kept ++ .join texts) := by
  cases hkeeps with
  | current hcurrent =>
    obtain ⟨after, hall, htext, -⟩ := addAll_startLog_of_current htouch hcurrent texts
    rw [hall]
    exact (htext _).trans (if_pos rfl)
  | renewed day fresh hday hfree hrotate =>
    have hfile := Tree.isFile_of_lastDay? hday
    obtain ⟨text, htext⟩ := Tree.isFile_iff.1 hfile
    obtain ⟨-, -, -, rfl⟩ := Tree.touchAt_iff.1 htouch
    rw [Tree.withFile_of_isFile hfile, String.empty_append]
    have hdue : (session.startLog address).rotation? session.tree = some day :=
      OpenLog.rotation?_eq_some_iff.2 ⟨hday, Tree.isDirectory_of_text? htext, hfree⟩
    exact OpenLog.text?_addAll_of_renewed hdue hrotate hsome

end Session

end AccessScopes
