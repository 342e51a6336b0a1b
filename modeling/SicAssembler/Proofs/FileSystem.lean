/-
This file proves what writing does to a file system. A write opens one file,
which its path leads to or which it makes, and changes nothing else. Nodes are
only ever added, and only where nothing stood, so a path that led somewhere
still does: to the same target, or to the file that was made where nothing was
found before. Different targets stay different.
-/

import SicAssembler.Command.FileSystem
import SicAssembler.Proofs.Statement

namespace SicAssembler

/-! ### Runs as options -/

theorem toOption_eq_some_iff {Cause Value : Type} {run : Except Cause Value} {value : Value} :
    run.toOption = some value ↔ run = .ok value := by
  cases run <;> simp [Except.toOption]

theorem toOption_bind {Cause First Second : Type} (step : Except Cause First)
    (next : First → Except Cause Second) :
    (step >>= next).toOption = step.toOption.bind fun value => (next value).toOption := by
  cases step <;> rfl

namespace FileSystem

variable {system before after : FileSystem} {place other : Place} {path : String}

/-! ### Growing file systems -/

theorem lt_of_nodeAt? {number : Nat} (found : system.nodeAt? place = some (.file number)) :
    number < system.files.length := by
  obtain ⟨front, back, split, -⟩ := List.lookup_eq_some_iff.mp found
  exact system.numbered place number (by rw [split]; simp)

/-- Files were added to a file system, at places where nothing stood, and under new numbers. -/
structure Grows (before after : FileSystem) : Prop where
  kept : ∀ place node, before.nodeAt? place = some node → after.nodeAt? place = some node
  added : ∀ place node, before.nodeAt? place = none → after.nodeAt? place = some node →
    ∃ number, node = .file number ∧ before.files.length ≤ number
  apart : ∀ place other number, before.nodeAt? place = none → before.nodeAt? other = none →
    after.nodeAt? place = some (.file number) → after.nodeAt? other = some (.file number) →
      place = other
  workingDirectory : after.workingDirectory = before.workingDirectory
  files : before.files.length ≤ after.files.length

/-- What a target is once files may have been added. -/
def settle (system : FileSystem) : Target → Target
  | .missing place =>
    match system.nodeAt? place with
    | some (.file number) => .file number
    | _ => .missing place
  | target => target

theorem settle_missing_cases (system : FileSystem) (place : Place) :
    system.settle (.missing place) = .missing place ∨
      ∃ number, system.settle (.missing place) = .file number := by
  rw [settle]
  split
  · next number _ => exact Or.inr ⟨number, rfl⟩
  · exact Or.inl rfl

/-- What a turn is once files may have been added. -/
def settleTurn (system : FileSystem) : Turn → Turn
  | .reach target => .reach (system.settle target)
  | .link path => .link path

namespace Grows

variable {later : FileSystem}

theorem refl (system : FileSystem) : Grows system system where
  kept _ _ found := found
  added _ _ nothing found := nomatch nothing.symm.trans found
  apart _ _ _ nothing _ found := nomatch nothing.symm.trans found
  workingDirectory := rfl
  files := Nat.le_refl _

/-- What stands at a place stood there before, or is a file that was made. -/
theorem nodeAt?_cases (grows : Grows before after) {node : Node}
    (found : after.nodeAt? place = some node) :
    before.nodeAt? place = some node ∨
      before.nodeAt? place = none ∧
        ∃ number, node = .file number ∧ before.files.length ≤ number := by
  cases known : before.nodeAt? place with
  | some earlier => exact Or.inl ((grows.kept place earlier known).symm.trans found)
  | none => exact Or.inr ⟨rfl, grows.added place node known found⟩

/-- A file is at one place if it was at one place before. -/
theorem place_eq (grows : Grows before after) {number : Nat}
    (found : after.nodeAt? place = some (.file number))
    (foundToo : after.nodeAt? other = some (.file number))
    (single : before.nodeAt? place = some (.file number) →
      before.nodeAt? other = some (.file number) → place = other) : place = other := by
  rcases grows.nodeAt?_cases found with known | ⟨nothing, same, isFile, new⟩ <;>
    rcases grows.nodeAt?_cases foundToo with knownToo | ⟨nothingToo, sameToo, isFileToo, newToo⟩
  · exact single known knownToo
  · cases isFileToo
    exact absurd (lt_of_nodeAt? known) (Nat.not_lt.mpr newToo)
  · cases isFile
    exact absurd (lt_of_nodeAt? knownToo) (Nat.not_lt.mpr new)
  · exact grows.apart place other number nothing nothingToo found foundToo

theorem trans (grows : Grows before after) (growsOn : Grows after later) : Grows before later where
  kept place node found := growsOn.kept place node (grows.kept place node found)
  added place node nothing found := by
    rcases growsOn.nodeAt?_cases found with between | ⟨-, number, isFile, new⟩
    · exact grows.added place node nothing between
    · exact ⟨number, isFile, Nat.le_trans grows.files new⟩
  apart place other number nothing nothingToo found foundToo :=
    growsOn.place_eq found foundToo fun between betweenToo =>
      grows.apart place other number nothing nothingToo between betweenToo
  workingDirectory := growsOn.workingDirectory.trans grows.workingDirectory
  files := Nat.le_trans grows.files growsOn.files

/-- Where nothing stood there is still nothing, or a file that was made. -/
theorem settle_missing (grows : Grows before after) (nothing : before.nodeAt? place = none) :
    (after.nodeAt? place = none ∧ after.settle (.missing place) = .missing place) ∨
      ∃ number, after.nodeAt? place = some (.file number) ∧
        after.settle (.missing place) = .file number := by
  cases found : after.nodeAt? place with
  | none => exact Or.inl ⟨rfl, by simp [settle, found]⟩
  | some node =>
    obtain ⟨number, rfl, -⟩ := grows.added place node nothing found
    exact Or.inr ⟨number, rfl, by simp [settle, found]⟩

theorem toOption_lookUp (grows : Grows before after) (directory : Place) (name : String) :
    (after.lookUp directory name).toOption =
      (before.lookUp directory name).toOption.map after.settleTurn := by
  unfold lookUp
  split
  · rfl
  split
  · rfl
  split
  · rfl
  cases found : before.nodeAt? (directory ++ [name]) with
  | some node =>
    rw [grows.kept _ node found]
    cases node <;> rfl
  | none =>
    rcases grows.settle_missing found with ⟨nothing, same⟩ | ⟨number, made, changed⟩
    · simp [nothing, settleTurn, same, Except.toOption]
    · simp [made, settleTurn, changed, Except.toOption]

/-- A name leads where it led, or to the file that was made there. -/
theorem toOption_step (grows : Grows before after) (place : Place) (name : String) :
    (after.step place name).toOption =
      (before.step place name).toOption.map after.settleTurn := by
  unfold step
  cases found : before.nodeAt? place with
  | none =>
    cases made : after.nodeAt? place with
    | none => rfl
    | some node =>
      obtain ⟨number, rfl, -⟩ := grows.added place node found made
      rfl
  | some node =>
    rw [grows.kept place node found]
    cases node with
    | file number => rfl
    | link target => rfl
    | directory searchable writable =>
      dsimp only
      split
      · rfl
      · split
        · exact grows.toOption_lookUp place name
        · rfl

theorem toOption_walk (grows : Grows before after)
    {jump jumpAfter : Place → String → List String → Except FileFailure Target}
    (jumps : ∀ place target rest, (jumpAfter place target rest).toOption =
      (jump place target rest).toOption.map after.settle)
    (place : Place) (names : List String) :
    (after.walk jumpAfter place names).toOption =
      (before.walk jump place names).toOption.map after.settle := by
  induction names generalizing place with
  | nil => rfl
  | cons name rest inductionHypothesis =>
    rw [walk, walk, toOption_bind, toOption_bind, grows.toOption_step, Option.map_bind,
      Option.bind_map]
    refine Option.bind_congr fun turn _ => ?_
    cases turn with
    | link target => exact jumps place target rest
    | reach target =>
      cases target with
      | directory next => exact inductionHypothesis next
      | file number =>
        simp only [Function.comp_apply, settleTurn, settle]
        split <;> rfl
      | missing next =>
        simp only [Function.comp_apply, settleTurn]
        rcases settle_missing_cases after next with same | ⟨number, changed⟩
        · by_cases last : rest = [] <;> simp [last, same, Except.toOption]
        · by_cases last : rest = [] <;> simp [last, changed, Except.toOption]

theorem toOption_follow (grows : Grows before after) (links : Nat) (place : Place)
    (names : List String) :
    (after.follow links place names).toOption =
      (before.follow links place names).toOption.map after.settle := by
  induction links generalizing place names with
  | zero => exact grows.toOption_walk (fun _ _ _ => rfl) place names
  | succ links inductionHypothesis =>
    exact grows.toOption_walk (fun place target rest => inductionHypothesis _ _) place names

/-- A path leads where it led, or to the file that was made there. -/
theorem resolve_eq_ok_iff (grows : Grows before after) {target : Target} :
    after.resolve path = .ok target ↔
      ∃ earlier, before.resolve path = .ok earlier ∧ after.settle earlier = target := by
  have options : (after.resolve path).toOption =
      (before.resolve path).toOption.map after.settle := by
    unfold resolve
    split
    · rfl
    · rw [grows.workingDirectory]
      exact grows.toOption_follow mostLinks _ _
  rw [← toOption_eq_some_iff, options, Option.map_eq_some_iff]
  simp only [toOption_eq_some_iff]

end Grows

/-! ### Targets -/

/-- A target is as the file system has it: a file stands somewhere, and nothing stands where
something is missing. -/
def Stands (system : FileSystem) : Target → Prop
  | .directory _ => True
  | .file number => ∃ place, system.nodeAt? place = some (.file number)
  | .missing place => system.nodeAt? place = none

theorem stands_of_lookUp {directory : Place} {name : String} {target : Target}
    (found : system.lookUp directory name = .ok (.reach target)) : system.Stands target := by
  unfold lookUp at found
  split at found
  · cases found
    trivial
  split at found
  · cases found
    trivial
  split at found
  · cases found
  split at found
  · next nothing => cases found; exact nothing
  · cases found
    trivial
  · next number there => cases found; exact ⟨_, there⟩
  · cases found

theorem stands_of_step {name : String} {target : Target}
    (stepped : system.step place name = .ok (.reach target)) : system.Stands target := by
  unfold step at stepped
  split at stepped
  · split at stepped
    · cases stepped
      trivial
    · split at stepped
      · exact stands_of_lookUp stepped
      · cases stepped
  · cases stepped
  · cases stepped

theorem stands_of_walk {jump : Place → String → List String → Except FileFailure Target}
    (jumps : ∀ place path rest target, jump place path rest = .ok target → system.Stands target)
    {names : List String} {target : Target} (walked : system.walk jump place names = .ok target) :
    system.Stands target := by
  induction names generalizing place with
  | nil =>
    cases walked
    trivial
  | cons name rest inductionHypothesis =>
    obtain ⟨turn, stepped, later⟩ := bind_eq_ok_iff.mp walked
    cases turn with
    | link path => exact jumps _ _ _ _ later
    | reach reached =>
      have stands := stands_of_step stepped
      cases reached with
      | directory next => exact inductionHypothesis later
      | file number =>
        dsimp only at later
        split at later
        · cases later
          exact stands
        · cases later
      | missing next =>
        dsimp only at later
        split at later
        · cases later
          exact stands
        · cases later

theorem stands_of_follow {links : Nat} {names : List String} {target : Target}
    (followed : system.follow links place names = .ok target) : system.Stands target := by
  induction links generalizing place names target with
  | zero =>
    refine stands_of_walk (fun place target rest reached failed => ?_) followed
    cases failed
  | succ links inductionHypothesis =>
    exact stands_of_walk (fun _ _ _ _ jumped => inductionHypothesis jumped) followed

/-- A path leads to what is there. -/
theorem stands_of_resolve {target : Target} (leads : system.resolve path = .ok target) :
    system.Stands target := by
  unfold resolve at leads
  split at leads
  · cases leads
  · exact stands_of_follow leads

/-- A file that was made has a number that no file had. -/
theorem Grows.settle_missing_ne (grows : Grows before after) {number : Nat}
    (known : number < before.files.length) (nothing : before.Stands (.missing place)) :
    after.settle (.missing place) ≠ .file number := by
  intro same
  rcases grows.settle_missing nothing with ⟨-, unchanged⟩ | ⟨new, made, changed⟩
  · cases unchanged.symm.trans same
  · cases changed.symm.trans same
    obtain ⟨again, isFile, fresh⟩ := grows.added place _ nothing made
    cases isFile
    exact Nat.not_lt.mpr fresh known

/-- A path that leads to nothing did so before. -/
theorem Grows.resolve_eq_missing (grows : Grows before after)
    (leads : after.resolve path = .ok (.missing place)) :
    before.resolve path = .ok (.missing place) := by
  obtain ⟨target, led, settled⟩ := grows.resolve_eq_ok_iff.mp leads
  cases target with
  | directory other => cases settled
  | file number => cases settled
  | missing other =>
    rcases settle_missing_cases after other with same | ⟨number, made⟩
    · cases same.symm.trans settled
      exact led
    · cases made.symm.trans settled

/-- A path that leads to a file that there was before did so before. -/
theorem Grows.resolve_eq_file (grows : Grows before after) {number : Nat}
    (known : number < before.files.length)
    (leads : after.resolve path = .ok (.file number)) :
    before.resolve path = .ok (.file number) := by
  obtain ⟨target, led, settled⟩ := grows.resolve_eq_ok_iff.mp leads
  cases target with
  | directory other => cases settled
  | file number =>
    cases settled
    exact led
  | missing other => exact absurd settled (grows.settle_missing_ne known (stands_of_resolve led))

/-- Different targets stay different. -/
theorem Grows.settle_injective (grows : Grows before after) {first second : Target}
    (stands : before.Stands first) (standsToo : before.Stands second)
    (same : after.settle first = after.settle second) : first = second := by
  cases first with
  | directory place =>
    cases second with
    | directory other => exact same
    | file number => cases same
    | missing other =>
      rcases settle_missing_cases after other with unchanged | ⟨number, changed⟩
      · cases same.trans unchanged
      · cases same.trans changed
  | file number =>
    cases second with
    | directory other => cases same
    | file other => exact same
    | missing other =>
      obtain ⟨there, found⟩ := stands
      exact absurd same.symm (grows.settle_missing_ne (lt_of_nodeAt? found) standsToo)
  | missing place =>
    cases second with
    | directory other =>
      rcases settle_missing_cases after place with unchanged | ⟨number, changed⟩
      · cases same.symm.trans unchanged
      · cases same.symm.trans changed
    | file number =>
      obtain ⟨there, found⟩ := standsToo
      exact absurd same (grows.settle_missing_ne (lt_of_nodeAt? found) stands)
    | missing other =>
      rcases grows.settle_missing stands with ⟨-, unchanged⟩ | ⟨number, made, changed⟩
      · rw [unchanged] at same
        rcases grows.settle_missing standsToo with ⟨-, alsoUnchanged⟩ | ⟨number, -, changed⟩
        · exact same.trans alsoUnchanged
        · cases same.trans changed
      · rw [changed] at same
        rcases grows.settle_missing standsToo with ⟨-, unchanged⟩ | ⟨again, madeToo, changedToo⟩
        · cases same.trans unchanged
        · cases same.trans changedToo
          rw [grows.apart place other number stands standsToo made madeToo]

/-! ### Opening and storing -/

/-- Opening a path for writing finds a file, or makes one. -/
inductive Opens (system : FileSystem) (path : String) : FileSystem → Nat → Prop where
  | existing {number : Nat} (leads : system.resolve path = .ok (.file number))
      (allowed : system.allows (.file number) = true) : Opens system path system number
  | new {place : Place} (leads : system.resolve path = .ok (.missing place))
      (allowed : system.allows (.missing place) = true) :
      Opens system path (system.create place) system.files.length

/-- A file can be written under a path. -/
def Writable (system : FileSystem) (path : String) : Prop :=
  ∃ target, system.resolve path = .ok target ∧ system.allows target = true

instance (system : FileSystem) (path : String) : Decidable (system.Writable path) :=
  decidable_of_iff ((system.resolve path).toOption.any system.allows = true) <| by
    simp only [Option.any_eq_true, toOption_eq_some_iff, Writable]

theorem Opens.writable {opened : FileSystem} {number : Nat}
    (opens : Opens system path opened number) : system.Writable path := by
  cases opens with
  | existing leads allowed => exact ⟨_, leads, allowed⟩
  | new leads allowed => exact ⟨_, leads, allowed⟩

/-- A write under a path that is not writable fails and leaves everything as it is. Any other
opens a file and stores the bytes there. -/
theorem writeBytes_cases (system : FileSystem) (path : String) (bytes : ByteArray) :
    (¬ system.Writable path ∧ ∃ failure, system.writeBytes path bytes = (system, some failure)) ∨
      ∃ opened number, Opens system path opened number ∧
        system.writeBytes path bytes = opened.store number bytes := by
  have refused {target : Target} (leads : system.resolve path = .ok target)
      (denied : ¬ system.allows target = true) : ¬ system.Writable path := by
    rintro ⟨other, leadsToo, allowed⟩
    cases leads.symm.trans leadsToo
    exact denied allowed
  unfold writeBytes
  split
  · next failure failed =>
    refine Or.inl ⟨?_, failure, rfl⟩
    rintro ⟨target, leads, -⟩
    cases failed.symm.trans leads
  · next place leads => exact Or.inl ⟨refused leads (by simp [allows]), .isDirectory, rfl⟩
  · next number leads =>
    split
    · next allowed => exact Or.inr ⟨system, number, .existing leads allowed, rfl⟩
    · next denied => exact Or.inl ⟨refused leads denied, .denied, rfl⟩
  · next place leads =>
    split
    · next allowed => exact Or.inr ⟨_, _, .new leads allowed, rfl⟩
    · next denied => exact Or.inl ⟨refused leads denied, .denied, rfl⟩

theorem nodeAt?_create (system : FileSystem) (place other : Place) :
    (system.create place).nodeAt? other =
      (system.nodeAt? other).or
        (if other = place then some (.file system.files.length) else none) := by
  have single (node : Node) :
      [(place, node)].lookup other = if other = place then some node else none := by
    by_cases same : other = place
    · rw [same, List.lookup_cons_self, if_pos rfl]
    · rw [List.lookup_cons, beq_false_of_ne same, if_neg same]
      rfl
  rw [nodeAt?, create, List.lookup_append, single]
  rfl

theorem grows_create (system : FileSystem) (place : Place) :
    Grows system (system.create place) where
  kept other node found := by rw [nodeAt?_create, found, Option.some_or]
  added other node nothing found := by
    rw [nodeAt?_create, nothing, Option.none_or] at found
    split at found
    · cases found
      exact ⟨_, rfl, Nat.le_refl _⟩
    · cases found
  apart other third number nothing nothingToo found foundToo := by
    rw [nodeAt?_create, nothing, Option.none_or] at found
    rw [nodeAt?_create, nothingToo, Option.none_or] at foundToo
    split at found
    · next first =>
      split at foundToo
      · next second => exact first.trans second.symm
      · cases foundToo
    · cases found
  workingDirectory := rfl
  files := by simp [create]

theorem grows_store (system : FileSystem) (number : Nat) (bytes : ByteArray) :
    Grows system (system.store number bytes).1 where
  kept _ _ found := found
  added _ _ nothing found := nomatch nothing.symm.trans found
  apart _ _ _ nothing _ found := nomatch nothing.symm.trans found
  workingDirectory := rfl
  files := by simp [store]

theorem Opens.grows {opened : FileSystem} {number : Nat} (opens : Opens system path opened number) :
    Grows system opened := by
  cases opens with
  | existing => exact .refl system
  | new => exact grows_create system _

/-- The path leads to the file that was opened. -/
theorem Opens.leads {opened : FileSystem} {number : Nat}
    (opens : Opens system path opened number) : opened.resolve path = .ok (.file number) := by
  cases opens with
  | existing leads => exact leads
  | @new place leads _ =>
    refine (grows_create system place).resolve_eq_ok_iff.mpr ⟨_, leads, ?_⟩
    have nothing : system.nodeAt? place = none := stands_of_resolve leads
    have made : (system.create place).nodeAt? place = some (.file system.files.length) := by
      rw [nodeAt?_create, nothing, Option.none_or, if_pos rfl]
    simp [settle, made]

/-- Writing adds a file at most. -/
theorem grows_writeBytes (system : FileSystem) (path : String) (bytes : ByteArray) :
    Grows system (system.writeBytes path bytes).1 := by
  rcases system.writeBytes_cases path bytes with
    ⟨-, failure, failed⟩ | ⟨opened, number, opens, wrote⟩
  · rw [failed]
    exact .refl system
  · rw [wrote]
    exact opens.grows.trans (grows_store opened number bytes)

end FileSystem

end SicAssembler
