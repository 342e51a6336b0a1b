/-
This file proves which environment a run of the command sees. It is the one that
the run is started with, and a settings file adds to it: the nearest one, in the
working directory or above it, if that can be read. What is set already stays as
it is. Looking for the settings file changes nothing.
-/

import SicAssembler.Command.Session
import SicAssembler.Proofs.Dictionary

namespace SicAssembler

/-! ### Runs on a world -/

theorem WorldRun.run_bind {First Second : Type} {step : WorldRun First}
    {next : First → WorldRun Second} {world after : World} {value : First}
    (ran : step.run world = (value, after)) :
    (step >>= next).run world = (next value).run after := by
  rw [StateT.run_bind, ran]
  rfl

theorem Host.run_readBytes (path : String) (world : World) :
    (Host.readBytes path : WorldRun _).run world = (world.system.readBytes path, world) := rfl

theorem Host.run_readText (path : String) (world : World) :
    (Host.readText path : WorldRun _).run world = (world.system.readText path, world) := rfl

theorem Host.run_workingDirectory? (world : World) :
    (Host.workingDirectory? : WorldRun _).run world =
      (world.system.presentDirectory?, world) := rfl

/-! ### The environment of a run -/

namespace Environment

/-- A settings file leaves every setting as it is that there is already. -/
theorem get?_addLines {environment : Environment} {lines : List (List Char)} {name value : String}
    (set : environment.get? name = some value) :
    (environment.addLines lines).get? name = some value := by
  induction lines generalizing environment with
  | nil => exact set
  | cons line rest inductionHypothesis =>
    rw [addLines]
    split
    · exact inductionHypothesis set
    · refine inductionHypothesis ?_
      rw [Dictionary.get?_insertIfNew, set, Option.some_or]
    · exact set

theorem addText_empty (environment : Environment) : environment.addText "" = environment := rfl

end Environment

/-- What the search for the first of several files comes to. Paths that lead to no file are
skipped, and a file that cannot be read ends the search. -/
inductive FileSystem.Finds (system : FileSystem) : List String → Option ByteArray → Prop where
  | nothing : Finds system [] none
  | first {path : String} {rest : List String} {content : ByteArray}
      (read : system.readBytes path = .ok content) : Finds system (path :: rest) (some content)
  | later {path : String} {rest : List String} {content? : Option ByteArray}
      (absent : system.readBytes path = .error .notFound ∨
        system.readBytes path = .error .isDirectory)
      (others : Finds system rest content?) : Finds system (path :: rest) content?
  | stopped {path : String} {rest : List String} {failure : FileFailure}
      (failed : system.readBytes path = .error failure)
      (present : failure ≠ .notFound ∧ failure ≠ .isDirectory) : Finds system (path :: rest) none

namespace Session

theorem run_findContent (paths : List String) (world : World) :
    ∃ content?, world.system.Finds paths content? ∧
      (findContent paths : WorldRun _).run world = (content?, world) := by
  induction paths with
  | nil => exact ⟨none, .nothing, rfl⟩
  | cons path rest inductionHypothesis =>
    obtain ⟨content?, finds, found⟩ := inductionHypothesis
    rw [findContent, WorldRun.run_bind (Host.run_readBytes path world)]
    cases read : world.system.readBytes path with
    | ok content => exact ⟨some content, .first read, rfl⟩
    | error failure =>
      cases failure with
      | notFound => exact ⟨content?, .later (Or.inl read) finds, found⟩
      | isDirectory => exact ⟨content?, .later (Or.inr read) finds, found⟩
      | _ => exact ⟨none, .stopped read ⟨nofun, nofun⟩, rfl⟩

/-- The environment that a run sees. -/
def environmentSeen (system : FileSystem) (started : Environment) : Environment :=
  ((fullEnvironment : WorldRun Environment).run ⟨system, started, "", ""⟩).1

/-- The environment that a run sees is the one that it is started with, and the settings file
that is nearest to the working directory, there or above it, adds to it. -/
structure EnvironmentLaw (system : FileSystem) (started seen : Environment) : Prop where
  kept : ∀ name value, started.get? name = some value → seen.get? name = some value
  nearest : ∀ place, system.presentDirectory? = some place →
    ∃ content?, system.Finds (Environment.settingsPaths place.reverse) content? ∧
      seen = content?.elim started fun content =>
        started.addText (Environment.leadingText content)
  nowhere : system.presentDirectory? = none → seen = started

theorem run_settingsText (world : World) :
    ∃ text, (settingsText : WorldRun _).run world = (text, world) ∧
      (world.system.presentDirectory? = none → text = "") ∧
      ∀ place, world.system.presentDirectory? = some place →
        ∃ content?, world.system.Finds (Environment.settingsPaths place.reverse) content? ∧
          text = content?.elim "" Environment.leadingText := by
  rw [settingsText, WorldRun.run_bind (Host.run_workingDirectory? world)]
  cases world.system.presentDirectory? with
  | none => exact ⟨"", rfl, fun _ => rfl, nofun⟩
  | some place =>
    obtain ⟨content?, finds, found⟩ :=
      run_findContent (Environment.settingsPaths place.reverse) world
    refine ⟨content?.elim "" Environment.leadingText, ?_, nofun, fun other same => ?_⟩
    · dsimp only
      rw [WorldRun.run_bind found]
      cases content? <;> rfl
    · cases same
      exact ⟨content?, finds, rfl⟩

/-- A run starts with a look at the settings file, which changes nothing. -/
theorem run_fullEnvironment (system : FileSystem) (started : Environment) :
    (fullEnvironment : WorldRun _).run ⟨system, started, "", ""⟩ =
        (environmentSeen system started, ⟨system, started, "", ""⟩) ∧
      EnvironmentLaw system started (environmentSeen system started) := by
  obtain ⟨text, found, nowhere, nearest⟩ := run_settingsText ⟨system, started, "", ""⟩
  have ran : (fullEnvironment : WorldRun _).run ⟨system, started, "", ""⟩ =
      (started.addText text, ⟨system, started, "", ""⟩) := by
    rw [fullEnvironment, WorldRun.run_bind found]
    rfl
  have seen : environmentSeen system started = started.addText text := by
    rw [environmentSeen, ran]
  rw [seen]
  refine ⟨ran, fun name value set => Environment.get?_addLines set, fun place there => ?_,
    fun missing => ?_⟩
  · obtain ⟨content?, finds, rfl⟩ := nearest place there
    refine ⟨content?, finds, ?_⟩
    cases content? <;> rfl
  · rw [nowhere missing, Environment.addText_empty]

end Session

end SicAssembler
