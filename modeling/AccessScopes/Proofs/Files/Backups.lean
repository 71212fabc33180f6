import AccessScopes.Files.Backup
import AccessScopes.Proofs.Files.Contents
import AccessScopes.Proofs.Files.LogPath
import Mathlib.Data.List.Basic

/-!
# What putting a file aside changes

A file that is started anew leaves its text in a backup and is empty. Apart from it, only places that are named as
its backups change, and no directory is made or removed. Where it is refused, what was done before stays done, within
the same bounds.
-/

namespace AccessScopes.Files

/-! ### Names of backups -/

/-- The second place lies next to the first, and its name goes on after that of the first with a dot, digits and
hyphens. -/
def Location.Backs (location place : Location) : Prop :=
  ∃ holder name date, location = holder ++ [name] ∧ place = holder ++ [name ++ "." ++ date] ∧
    ∀ c ∈ date.toList, c.isDigit = true ∨ c = '-'

/-- The place is named as that of a backup of a log file. -/
def Location.NamesBackup (place : Location) : Prop :=
  ∃ location : Location, location.NamesLog ∧ location.Backs place

theorem Location.Backs.ne {location place : Location} (hbacks : location.Backs place) : place ≠ location := by
  obtain ⟨holder, name, date, rfl, rfl, -⟩ := hbacks
  intro heq
  have hname := List.singleton_inj.1 (List.append_cancel_left heq)
  have hlength := congrArg (fun text => text.toList.length) hname
  simp at hlength

theorem isDigit_of_mem_padded {c : Char} {width n : Nat} (hc : c ∈ (padded width n).toList) : c.isDigit = true := by
  rw [padded, String.toList_ofList, List.mem_append] at hc
  rcases hc with hzero | hdigit
  · rw [List.eq_of_mem_replicate hzero]
    rfl
  · exact Nat.isDigit_of_mem_toDigits (by decide) (by decide) hdigit

theorem isDigit_or_hyphen_of_mem_render {c : Char} {day : CalendarDay} (hc : c ∈ day.render.toList) :
    c.isDigit = true ∨ c = '-' := by
  simp only [CalendarDay.render, String.toList_append, List.mem_append] at hc
  rcases hc with (((hyear | hhyphen) | hmonth) | hhyphen) | hday
  · exact Or.inl (isDigit_of_mem_padded hyear)
  · exact Or.inr (List.mem_singleton.1 hhyphen)
  · exact Or.inl (isDigit_of_mem_padded hmonth)
  · exact Or.inr (List.mem_singleton.1 hhyphen)
  · exact Or.inl (isDigit_of_mem_padded hday)

theorem Address.backs_backup {address : Address} (hne : address.location ≠ []) (day : CalendarDay) :
    address.location.Backs (address.backup day).location := by
  obtain ⟨holder, name, hlocation⟩ := (List.eq_nil_or_concat' address.location).resolve_left hne
  refine ⟨holder, name, day.render, hlocation, ?_, fun c => isDigit_or_hyphen_of_mem_render⟩
  rw [backup, hlocation, List.dropLast_concat, List.getLast?_concat]
  rfl

theorem isDigit_or_hyphen_of_isDate {date : List Char} (hdate : isDate date = true) {c : Char} (hc : c ∈ date) :
    c.isDigit = true ∨ c = '-' := by
  unfold isDate at hdate
  split at hdate
  · simp only [List.all_cons, List.all_nil, Bool.and_eq_true] at hdate
    simp only [List.mem_cons, List.not_mem_nil, or_false] at hc
    rcases hc with rfl | rfl | rfl | rfl | rfl | rfl | rfl | rfl | rfl | rfl <;> simp_all
  · cases hdate

theorem backs_of_isBackup {location place : Location} (hbackup : isBackup location place = true) :
    location.Backs place := by
  unfold isBackup at hbackup
  split at hbackup
  · rename_i name other hname hother
    simp only [Bool.and_eq_true, decide_eq_true_eq, Option.any_eq_true] at hbackup
    obtain ⟨hholder, date, hprefix, hdate⟩ := hbackup
    rw [List.isPrefixOf?_eq_some_iff_append_eq] at hprefix
    obtain ⟨holder, hlocation⟩ := List.getLast?_eq_some_iff.1 hname
    obtain ⟨next, hplace⟩ := List.getLast?_eq_some_iff.1 hother
    rw [hlocation, hplace, List.dropLast_concat, List.dropLast_concat] at hholder
    subst hholder
    refine ⟨next, name, .ofList date, hlocation, ?_, ?_⟩
    · rw [hplace]
      have hother : other = name ++ "." ++ String.ofList date := by
        apply String.toList_inj.1
        rw [← hprefix]
        simp
      rw [hother]
    · intro c hc
      rw [String.toList_ofList] at hc
      exact isDigit_or_hyphen_of_isDate hdate hc
  · cases hbackup

namespace Tree

variable {tree after moved : Tree} {address source target : Address} {place other : Location} {day : CalendarDay}
  {refusal : Refusal}

theorem backs_of_mem_spentBackups (hspent : place ∈ tree.spentBackups address.location) :
    address.location.Backs place := by
  have hmem := List.mem_mergeSort.1 (List.mem_of_mem_take hspent)
  exact backs_of_isBackup (List.mem_filter.1 hmem).2

/-! ### One file -/

theorem node?_erase (hne : place ≠ []) (other : Location) :
    (tree.erase place).node? other = if other = place then none else tree.node? other := by
  by_cases hother : other = place
  · rw [if_pos hother, hother, node?, if_neg hne, erase, Table.get?_erase, if_pos rfl]
  · rw [if_neg hother, node?_erase_of_ne hother]

/-- A file that is moved is found at the new address and no more at the old one. -/
theorem move_cases (htarget : target.location ≠ []) (hmove : tree.move source target = .ok after) :
    tree.text? source.location = none ∧ after = tree ∨
      ∃ text, tree.text? source.location = some text ∧ target.Nameable ∧
        ∀ other, after.node? other = if other = target.location then some (.file text)
          else if other = source.location then none else tree.node? other := by
  unfold move at hmove
  cases htext : tree.text? source.location with
  | none =>
    rw [htext] at hmove
    cases hmove
    exact Or.inl ⟨rfl, rfl⟩
  | some text =>
    rw [htext] at hmove
    dsimp only at hmove
    cases hproblem : (pathProblem? target.path).or (tree.problem? target.location) with
    | some refusal =>
      rw [hproblem] at hmove
      cases hmove
    | none =>
      rw [hproblem] at hmove
      have hnodes : after.nodes = ((tree.erase source.location).put target.location (.file text)).nodes := by
        dsimp only at hmove
        split at hmove <;> cases hmove <;> rfl
      refine Or.inr ⟨text, rfl, (Option.or_eq_none_iff.1 hproblem).1, ?_⟩
      intro other
      rw [← node?_erase (ne_nil_of_text? htext), ← node?_put htarget, node?, node?, hnodes]

theorem takeAway_eq_ok_iff :
    tree.takeAway address = .ok after ↔
      address.Nameable ∧ tree.isFile address.location = true ∧ after = tree.erase address.location := by
  unfold takeAway Address.Nameable
  cases pathProblem? address.path with
  | none => simp [remove_eq_ok_iff]
  | some refusal => simp

theorem isDirectory_erase (hfile : tree.isFile place = true) (other : Location) :
    (tree.erase place).isDirectory other = tree.isDirectory other := by
  obtain ⟨text, htext⟩ := isFile_iff.1 hfile
  rw [isDirectory, node?_erase (ne_nil_of_text? htext)]
  by_cases hother : other = place
  · rw [if_pos hother, hother, isDirectory_of_text? htext]
    rfl
  · rw [if_neg hother, isDirectory]

/-! ### One file after another -/

theorem node?_takeAwayAll {addresses : List Address} (hother : ∀ taken ∈ addresses, other ≠ taken.location) :
    (tree.takeAwayAll addresses).2.node? other = tree.node? other := by
  induction addresses generalizing tree with
  | nil => rfl
  | cons first rest ih =>
    rw [takeAwayAll]
    cases htake : tree.takeAway first with
    | error refusal => rfl
    | ok after =>
      obtain ⟨-, -, rfl⟩ := takeAway_eq_ok_iff.1 htake
      refine (ih fun taken htaken => hother taken (List.mem_cons_of_mem _ htaken)).trans ?_
      exact node?_erase_of_ne (hother first List.mem_cons_self)

theorem isDirectory_takeAwayAll (addresses : List Address) (other : Location) :
    (tree.takeAwayAll addresses).2.isDirectory other = tree.isDirectory other := by
  induction addresses generalizing tree with
  | nil => rfl
  | cons first rest ih =>
    rw [takeAwayAll]
    cases htake : tree.takeAway first with
    | error refusal => rfl
    | ok after =>
      obtain ⟨-, hfile, rfl⟩ := takeAway_eq_ok_iff.1 htake
      exact ih.trans (isDirectory_erase hfile other)

/-! ### Starting anew -/

/-- How far starting a file anew gets: the file is moved, backups are taken away, and a new file is made. -/
inductive Rotation (tree : Tree) (address : Address) (day : CalendarDay) : Except Refusal Unit × Tree → Prop
  | refused (refusal : Refusal) (hmove : tree.move address (address.backup day) = .error refusal) :
      Rotation tree address day (.error refusal, tree)
  | interrupted (refusal : Refusal) (moved : Tree) (spent : List Address)
      (hmove : tree.move address (address.backup day) = .ok moved)
      (hspent : ∀ taken ∈ spent, address.location.Backs taken.location) :
      Rotation tree address day (.error refusal, (moved.takeAwayAll spent).2)
  | renewed (moved fresh : Tree) (spent : List Address) (hmove : tree.move address (address.backup day) = .ok moved)
      (hspent : ∀ taken ∈ spent, address.location.Backs taken.location)
      (htouch : (moved.takeAwayAll spent).2.touchAt address = .ok fresh) :
      Rotation tree address day (.ok (), fresh)

theorem rotate_rotation (tree : Tree) (address : Address) (day : CalendarDay) :
    tree.Rotation address day (tree.rotate address day) := by
  unfold rotate
  cases hmove : tree.move address (address.backup day) with
  | error refusal => exact .refused refusal hmove
  | ok moved =>
    have hspent : ∀ taken ∈ (moved.spentBackups address.location).map ({ address with location := · }),
        address.location.Backs taken.location := by
      intro taken htaken
      obtain ⟨place, hplace, rfl⟩ := List.mem_map.1 htaken
      exact backs_of_mem_spentBackups hplace
    dsimp only
    generalize (moved.spentBackups address.location).map ({ address with location := · }) = spent at hspent
    cases htaken : moved.takeAwayAll spent with
    | mk result left =>
      have hleft : (moved.takeAwayAll spent).2 = left := congrArg Prod.snd htaken
      cases result with
      | error refusal =>
        rw [← hleft]
        exact .interrupted refusal moved spent hmove hspent
      | ok _ =>
        dsimp only
        cases htouch : left.touchAt address with
        | error refusal =>
          rw [← hleft]
          exact .interrupted refusal moved spent hmove hspent
        | ok fresh => exact .renewed moved fresh spent hmove hspent (hleft ▸ htouch)

/-- Only the file itself and places named as its backups are touched. -/
structure Spares (tree after : Tree) (location : Location) : Prop where
  text?_eq : ∀ other, other ≠ location → ¬ location.Backs other → after.text? other = tree.text? other
  isDirectory_eq : ∀ other, after.isDirectory other = tree.isDirectory other

theorem Spares.refl (tree : Tree) (location : Location) : tree.Spares tree location :=
  ⟨fun _ _ _ => rfl, fun _ => rfl⟩

theorem Spares.trans {middle : Tree} (hfirst : tree.Spares middle place) (hrest : middle.Spares after place) :
    tree.Spares after place where
  text?_eq other hother hbacks := (hrest.text?_eq other hother hbacks).trans (hfirst.text?_eq other hother hbacks)
  isDirectory_eq other := (hrest.isDirectory_eq other).trans (hfirst.isDirectory_eq other)

/-- What spares a log file and its backups spares every file that is not named as a log or as a backup of one. -/
theorem Spares.text?_of_namesLog (hspares : tree.Spares after place) (hnames : place.NamesLog)
    (hlog : ¬ other.NamesLog) (hbackup : ¬ other.NamesBackup) : after.text? other = tree.text? other := by
  apply hspares.text?_eq
  · exact fun heq => hlog (heq ▸ hnames)
  · exact fun hbacks => hbackup ⟨place, hnames, hbacks⟩

theorem spares_touchAt (htouch : tree.touchAt address = .ok after) : tree.Spares after address.location where
  text?_eq other hother _ := (text?_touchAt htouch other).trans (if_neg hother)
  isDirectory_eq := isDirectory_touchAt htouch

theorem spares_append (tree : Tree) (place : Location) (text : String) : tree.Spares (tree.append place text) place where
  text?_eq other hother _ := by rw [text?_append, if_neg hother]
  isDirectory_eq := isDirectory_append tree place text

theorem spares_takeAwayAll {spent : List Address} (hspent : ∀ taken ∈ spent, place.Backs taken.location) :
    tree.Spares (tree.takeAwayAll spent).2 place where
  text?_eq other _ hbacks := by
    have hother : ∀ taken ∈ spent, other ≠ taken.location := by
      intro taken htaken heq
      exact hbacks (heq ▸ hspent taken htaken)
    rw [text?, text?, node?_takeAwayAll hother]
  isDirectory_eq := isDirectory_takeAwayAll spent

theorem spares_move (hne : address.location ≠ []) (hfree : tree.exists? (address.backup day) = false)
    (hmove : tree.move address (address.backup day) = .ok after) : tree.Spares after address.location := by
  have hbacks := Address.backs_backup hne day
  have htarget : (address.backup day).location ≠ [] := List.concat_ne_nil _ _
  rcases move_cases htarget hmove with ⟨-, rfl⟩ | ⟨text, htext, hnameable, hnode⟩
  · exact .refl _ _
  · have hnone : tree.node? (address.backup day).location = none := by
      rw [exists?, hnameable] at hfree
      simpa using hfree
    refine ⟨?_, ?_⟩
    · intro other hother hnot
      have hbackup : other ≠ (address.backup day).location := fun heq => hnot (heq ▸ hbacks)
      rw [text?, text?, hnode, if_neg hbackup, if_neg hother]
    · intro other
      rw [isDirectory, isDirectory, hnode]
      by_cases hbackup : other = (address.backup day).location
      · rw [if_pos hbackup, hbackup, hnone]
        rfl
      · rw [if_neg hbackup]
        by_cases hother : other = address.location
        · have hplace := isDirectory_of_text? htext
          rw [isDirectory] at hplace
          rw [if_pos hother, hother, hplace]
          rfl
        · rw [if_neg hother]

/-- A file that was moved is not there any more. -/
theorem text?_move_self (hne : address.location ≠ [])
    (hmove : tree.move address (address.backup day) = .ok after) : after.text? address.location = none := by
  have htarget : (address.backup day).location ≠ [] := List.concat_ne_nil _ _
  rcases move_cases htarget hmove with ⟨hnone, rfl⟩ | ⟨text, -, -, hnode⟩
  · exact hnone
  · have hother := (Address.backs_backup hne day).ne.symm
    rw [text?, hnode, if_neg hother, if_pos rfl]

variable {result : Except Refusal Unit × Tree}

theorem Rotation.spares (hne : address.location ≠ []) (hfree : tree.exists? (address.backup day) = false)
    (hrotation : tree.Rotation address day result) : tree.Spares result.2 address.location := by
  cases hrotation with
  | refused refusal _ => exact .refl _ _
  | interrupted refusal moved spent hmove hspent =>
    exact (spares_move hne hfree hmove).trans (spares_takeAwayAll hspent)
  | renewed moved fresh spent hmove hspent htouch =>
    exact ((spares_move hne hfree hmove).trans (spares_takeAwayAll hspent)).trans (spares_touchAt htouch)

/-- A file that was started anew is empty. -/
theorem text?_rotate_self (hne : address.location ≠ []) (hrotate : tree.rotate address day = (.ok (), after)) :
    after.text? address.location = some "" := by
  have hrotation := rotate_rotation tree address day
  rw [hrotate] at hrotation
  cases hrotation with
  | renewed moved _ spent hmove hspent htouch =>
    have hkept : ∀ taken ∈ spent, address.location ≠ taken.location := by
      intro taken htaken
      exact (hspent taken htaken).ne.symm
    have hgone : (moved.takeAwayAll spent).2.text? address.location = none := by
      have hmoved := text?_move_self hne hmove
      rw [text?] at hmoved ⊢
      rw [node?_takeAwayAll hkept]
      exact hmoved
    rw [text?_touchAt htouch, if_pos rfl, content, hgone]
    rfl

end Tree

end AccessScopes.Files
