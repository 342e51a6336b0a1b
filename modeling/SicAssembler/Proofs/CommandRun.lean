/-
This file proves what a run of the command does to the files. A run that gets
no assembly fails and leaves the files as they are, and so does one that prints.
Any other run writes the object program, the listing and the sidecar to what its
three output paths lead to. Nothing else changes, whether or not all three can be
written; so a file that the run reads is safe unless an output path leads to it.
-/

import SicAssembler.Proofs.CommandEnvironment
import SicAssembler.Proofs.CommandSettings
import SicAssembler.Proofs.OutputPaths

namespace SicAssembler

/-! ### What a run comes to -/

namespace Settings

variable {settings : Settings} {system : FileSystem} {world : World}

/-- The opcode table of a run is the built-in one, or the one that a file is read as. -/
inductive HasTable (settings : Settings) (system : FileSystem) : OpcodeTable → Prop where
  | builtIn (unnamed : settings.table? = none) : HasTable settings system OpcodeTable.sicMachine
  | read {path text : String} {table : OpcodeTable} (named : settings.table? = some path)
      (read : system.readText path = .ok text) (parsed : OpcodeTable.read text = .ok table) :
      HasTable settings system table

/-- The opcode table and the source can be read, and the source is assembled with the options
of the run. -/
def Assembles (settings : Settings) (system : FileSystem) (source : String)
    (assembly : Assembly) : Prop :=
  ∃ table, settings.HasTable system table ∧ system.readText settings.source = .ok source ∧
    assemble table settings.options source = .ok assembly

/-- The table is loaded, or the run is to fail. -/
theorem run_loadTable (settings : Settings) (world : World) :
    (∃ table, settings.HasTable world.system table ∧
      (settings.loadTable : WorldRun _).run world = (.ok table, world)) ∨
    (∀ table, ¬ settings.HasTable world.system table) ∧ ∃ message cause?,
      (settings.loadTable : WorldRun _).run world = (.error (.failed message cause?), world) := by
  unfold loadTable
  cases named : settings.table? with
  | none => exact Or.inl ⟨_, .builtIn named, rfl⟩
  | some path =>
    dsimp only
    rw [WorldRun.run_bind (Host.run_readText path world)]
    cases read : world.system.readText path with
    | error failure =>
      refine Or.inr ⟨fun table has => ?_, _, _, rfl⟩
      cases has <;> simp_all
    | ok text =>
      dsimp only
      cases parsed : OpcodeTable.read text with
      | error error =>
        refine Or.inr ⟨fun table has => ?_, _, _, rfl⟩
        cases has <;> simp_all
      | ok table => exact Or.inl ⟨table, .read named read parsed, rfl⟩

theorem run_loadSource (settings : Settings) (world : World) :
    (∃ source, world.system.readText settings.source = .ok source ∧
      (settings.loadSource : WorldRun _).run world = (.ok source, world)) ∨
    (∀ source, world.system.readText settings.source ≠ .ok source) ∧ ∃ message cause?,
      (settings.loadSource : WorldRun _).run world = (.error (.failed message cause?), world) := by
  rw [loadSource, WorldRun.run_bind (Host.run_readText settings.source world)]
  cases read : world.system.readText settings.source with
  | error failure => exact Or.inr ⟨nofun, _, _, rfl⟩
  | ok source => exact Or.inl ⟨source, rfl, rfl⟩

theorem HasTable.unique {table other : OpcodeTable} (has : settings.HasTable system table)
    (hasToo : settings.HasTable system other) : table = other := by
  cases has <;> cases hasToo <;> simp_all

/-- What a run comes to is decided by reading alone: it has an assembly, or it is to fail. -/
theorem run_report (settings : Settings) (world : World) :
    (∃ source assembly log, settings.Assembles world.system source assembly ∧
      (settings.report : WorldRun _).run world =
        (⟨log, settings.conclude source (.ok assembly)⟩, world)) ∨
    (∀ source assembly, ¬ settings.Assembles world.system source assembly) ∧
      ∃ log message cause?, (settings.report : WorldRun _).run world =
        (⟨log, .failed message cause?⟩, world) := by
  unfold report
  rcases settings.run_loadTable world with
    ⟨table, has, loaded⟩ | ⟨missing, message, cause?, failed⟩
  · rw [WorldRun.run_bind loaded]
    dsimp only
    rcases settings.run_loadSource world with
      ⟨source, read, loadedToo⟩ | ⟨missing, message, cause?, failed⟩
    · rw [WorldRun.run_bind loadedToo]
      dsimp only
      cases assembled : assemble table settings.options source with
      | ok assembly =>
        exact Or.inl ⟨source, assembly, _, ⟨table, has, read, assembled⟩, rfl⟩
      | error error =>
        refine Or.inr ⟨?_, _, error.message, none, rfl⟩
        rintro other assembly ⟨again, hasToo, readToo, assembledToo⟩
        cases has.unique hasToo
        cases read.symm.trans readToo
        cases assembled.symm.trans assembledToo
    · refine Or.inr ⟨?_, [], message, cause?, by rw [WorldRun.run_bind failed]; rfl⟩
      rintro source assembly ⟨again, -, read, -⟩
      exact missing source read
  · refine Or.inr ⟨?_, [], message, cause?, by rw [WorldRun.run_bind failed]; rfl⟩
    rintro source assembly ⟨table, has, -, -⟩
    exact missing table has

theorem Assembles.unique {source other : String} {assembly another : Assembly}
    (assembles : settings.Assembles system source assembly)
    (assemblesToo : settings.Assembles system other another) :
    source = other ∧ assembly = another := by
  obtain ⟨table, has, read, assembled⟩ := assembles
  obtain ⟨again, hasToo, readToo, assembledToo⟩ := assemblesToo
  cases has.unique hasToo
  cases read.symm.trans readToo
  exact ⟨rfl, Except.ok.inj (assembled.symm.trans assembledToo)⟩

end Settings

/-! ### How a run ends -/

/-- The ways in which a run with given settings can end: it fails without an assembly, it prints,
or it writes the output files as far as they can be written. -/
inductive Outcome.Ends (settings : Settings) (system : FileSystem) : Outcome → Prop where
  | failed {errors : String}
      (missing : ∀ source assembly, ¬ settings.Assembles system source assembly) :
      Ends settings system ⟨1, "", errors, system⟩
  | printed {errors source : String} {assembly : Assembly}
      (assembles : settings.Assembles system source assembly) (prints : settings.print = true) :
      Ends settings system ⟨0, Settings.printedText assembly, errors, system⟩
  | wrote {errors source : String} {assembly : Assembly} {after : FileSystem}
      {failure? : Option FileFailure} (assembles : settings.Assembles system source assembly)
      (writes : settings.print = false)
      (result : system.writeAll (settings.outputFiles source assembly) = (after, failure?)) :
      Ends settings system ⟨if failure?.isNone then 0 else 1, "", errors, after⟩

namespace Outcome.Ends

variable {settings : Settings} {system : FileSystem} {outcome : Outcome} {source : String}
  {assembly : Assembly}

/-- Without an assembly a run fails and does nothing else. -/
theorem of_missing (ends : outcome.Ends settings system)
    (missing : ∀ source assembly, ¬ settings.Assembles system source assembly) :
    outcome.exitCode = 1 ∧ outcome.printed = "" ∧ outcome.system = system := by
  cases ends with
  | failed => exact ⟨rfl, rfl, rfl⟩
  | printed assembles => exact absurd assembles (missing _ _)
  | wrote assembles => exact absurd assembles (missing _ _)

/-- A run that is to print does so and does nothing else. -/
theorem of_prints (ends : outcome.Ends settings system)
    (assembles : settings.Assembles system source assembly) (prints : settings.print = true) :
    outcome.exitCode = 0 ∧ outcome.printed = Settings.printedText assembly ∧
      outcome.system = system := by
  cases ends with
  | failed missing => exact absurd assembles (missing _ _)
  | printed again =>
    obtain ⟨rfl, rfl⟩ := assembles.unique again
    exact ⟨rfl, rfl, rfl⟩
  | wrote _ writes => cases prints.symm.trans writes

/-- Any other run writes the output files, and succeeds exactly if all writes do. -/
theorem of_writes (ends : outcome.Ends settings system)
    (assembles : settings.Assembles system source assembly) (writes : settings.print = false) :
    ∃ failure?, system.writeAll (settings.outputFiles source assembly) =
        (outcome.system, failure?) ∧
      outcome.printed = "" ∧ outcome.exitCode = if failure?.isNone then 0 else 1 := by
  cases ends with
  | failed missing => exact absurd assembles (missing _ _)
  | printed _ prints => cases prints.symm.trans writes
  | wrote again _ result =>
    obtain ⟨rfl, rfl⟩ := assembles.unique again
    exact ⟨_, result, rfl, rfl⟩

theorem exitCode_of_writes (ends : outcome.Ends settings system)
    (assembles : settings.Assembles system source assembly) (writes : settings.print = false) :
    outcome.exitCode ≤ 1 ∧
      (outcome.exitCode = 0 ↔
        system.WritesAll (settings.outputFiles source assembly) outcome.system) ∧
      (outcome.exitCode = 0 ↔
        ∃ after, system.WritesAll (settings.outputFiles source assembly) after) := by
  obtain ⟨failure?, result, -, exit⟩ := ends.of_writes assembles writes
  simp only [← FileSystem.writeAll_eq_none_iff, result, exit]
  cases failure? <;> simp

/-- A run changes nothing, or has an assembly to write and changes only what the output paths lead
to. -/
theorem changes (ends : outcome.Ends settings system) :
    outcome.system = system ∨
      settings.print = false ∧ (∃ source assembly, settings.Assembles system source assembly) ∧
        system.ChangedOnlyAt outcome.system
          (Settings.outputExtensions.map settings.outputPath) := by
  cases ends with
  | failed missing => exact Or.inl rfl
  | printed assembles prints => exact Or.inl rfl
  | @wrote errors source assembly after failure? assembles writes result =>
    refine Or.inr ⟨writes, ⟨source, assembly, assembles⟩, ?_⟩
    have changed := system.changedOnlyAt_writeAll (settings.outputFiles source assembly)
    rwa [result, Settings.map_fst_outputFiles] at changed

theorem changedOnlyAt (ends : outcome.Ends settings system) :
    system.ChangedOnlyAt outcome.system (Settings.outputExtensions.map settings.outputPath) := by
  rcases ends.changes with same | ⟨-, -, changed⟩
  · rw [same]
    exact .refl system _
  · exact changed

end Outcome.Ends

namespace Session

variable {system : FileSystem} {started : Environment} {arguments : List String}
  {settings : Settings} {world : World}

/-- The writes of a run are a series of writes on its file system. -/
theorem run_writeAll (files : List (String × String)) (world : World) :
    (writeAll files : WorldRun _).run world =
      ((world.system.writeAll files).2,
        { world with system := (world.system.writeAll files).1 }) := by
  induction files generalizing world with
  | nil => rfl
  | cons output rest inductionHypothesis =>
    obtain ⟨path, text⟩ := output
    have wrote : (Host.writeBytes path text.toUTF8 : WorldRun _).run world =
        ((world.system.writeBytes path text.toUTF8).2,
          { world with system := (world.system.writeBytes path text.toUTF8).1 }) := rfl
    rw [writeAll, WorldRun.run_bind wrote, FileSystem.writeAll]
    rcases world.system.writeBytes path text.toUTF8 with ⟨written, _ | failure⟩
    · exact inductionHypothesis { world with system := written }
    · rfl

theorem run_finish_writing (settings : Settings) (log : List LogEntry)
    (files : List (String × String)) (success : LogEntry) (world : World) :
    ∃ errors, (finish settings ⟨log, .writing files success⟩ : WorldRun Nat).run world =
      (if (world.system.writeAll files).2.isNone then 0 else 1,
        { world with system := (world.system.writeAll files).1, errors := errors }) := by
  have logged : (Host.printError (settings.logText log) : WorldRun Unit).run world =
      ((), { world with errors := world.errors ++ settings.logText log }) := rfl
  rw [finish, WorldRun.run_bind logged]
  dsimp only
  rw [WorldRun.run_bind (run_writeAll files _)]
  dsimp only
  cases (world.system.writeAll files).2 with
  | none => exact ⟨_, rfl⟩
  | some failure => exact ⟨_, rfl⟩

theorem run_command
    (accepted : Session.settings (environmentSeen system started) arguments = .ok settings)
    {report : Report} (reports : (settings.report : WorldRun _).run ⟨system, started, "", ""⟩ =
      (report, ⟨system, started, "", ""⟩)) :
    (command arguments : WorldRun Nat).run ⟨system, started, "", ""⟩ =
      (finish settings report : WorldRun Nat).run ⟨system, started, "", ""⟩ := by
  rw [command, WorldRun.run_bind (run_fullEnvironment system started).1, accepted]
  dsimp only
  rw [WorldRun.run_bind reports]

theorem run_eq {exitCode : Nat}
    (ran : (command arguments : WorldRun Nat).run ⟨system, started, "", ""⟩ = (exitCode, world)) :
    run system started arguments = ⟨exitCode, world.printed, world.errors, world.system⟩ := by
  rw [run, ran]

/-- A run whose arguments are not accepted leaves the files as they are. -/
theorem run_of_interruption {interruption : Interruption}
    (refused : Session.settings (environmentSeen system started) arguments =
      .error interruption) :
    (run system started arguments).system = system := by
  have ran : (command arguments : WorldRun Nat).run ⟨system, started, "", ""⟩ =
      (interrupt interruption : WorldRun Nat).run ⟨system, started, "", ""⟩ := by
    rw [command, WorldRun.run_bind (run_fullEnvironment system started).1, refused]
  rw [run_eq (ran.trans rfl)]
  cases interruption <;> rfl

/-- A run whose arguments are accepted ends in one of the three ways. -/
theorem run_ends
    (accepted : Session.settings (environmentSeen system started) arguments = .ok settings) :
    Outcome.Ends settings system (run system started arguments) := by
  rcases settings.run_report ⟨system, started, "", ""⟩ with
    ⟨source, assembly, log, assembles, reports⟩ | ⟨missing, log, message, cause?, reports⟩
  · have ran := run_command accepted reports
    unfold Settings.conclude at ran
    dsimp only at ran
    cases print : settings.print with
    | true =>
      rw [if_pos print] at ran
      rw [run_eq ran]
      exact .printed assembles print
    | false =>
      rw [if_neg (by simp [print])] at ran
      obtain ⟨errors, finished⟩ := run_finish_writing settings log
        (settings.outputFiles source assembly) (settings.writtenEntry assembly)
        ⟨system, started, "", ""⟩
      rw [run_eq (ran.trans finished)]
      exact .wrote assembles print rfl
  · rw [run_eq (run_command accepted reports)]
    exact .failed missing

end Session

/-- What a run of the command prints and writes, once its arguments are accepted.

The settings of the run are the only ones that follow from the arguments and the environment. If
there is no assembly under them, the run fails, prints nothing and leaves the files as they are. If
there is one and the run is to print, it prints the listing and the object program and leaves the
files as they are. Otherwise it prints nothing and succeeds exactly if the three writes do, for
which without a limit it is enough that each output path is writable. Whether it succeeds or not,
nothing is made or changed but what the output paths lead to. If it succeeds and these lead apart,
as they do in any file system without links, they lead to the object program, the listing and the
sidecar of the one assembly. -/
theorem run_writes_outputs_only {system : FileSystem} {started : Environment}
    {arguments : List String} {settings : Settings}
    (accepted :
      Session.settings (Session.environmentSeen system started) arguments = .ok settings) :
    let seen := Session.environmentSeen system started
    let outcome := Session.run system started arguments
    Session.EnvironmentLaw system started seen ∧
    (∀ other : Settings,
      (∃ items, Spells arguments items ∧ other.Follows seen items) ↔ other = settings) ∧
    settings.BaseLaw ∧
    ((∀ source assembly, ¬ settings.Assembles system source assembly) →
      outcome.exitCode = 1 ∧ outcome.printed = "" ∧ outcome.system = system) ∧
    ∀ source assembly, settings.Assembles system source assembly →
      (settings.print = true →
        outcome.exitCode = 0 ∧
        outcome.printed = "Pass 1 Output:\n" ++ assembly.listing ++ "\nPass 2 Output:\n" ++
          assembly.objectText ++ "\n" ∧
        outcome.system = system) ∧
      (settings.print = false →
        outcome.printed = "" ∧ outcome.exitCode ≤ 1 ∧
        (outcome.exitCode = 0 ↔
          ∃ after, system.WritesAll (settings.outputFiles source assembly) after) ∧
        (system.capacity? = none →
          (outcome.exitCode = 0 ↔ ∀ extension ∈ Settings.outputExtensions,
            system.Writable (settings.outputPath extension))) ∧
        system.ChangedOnlyAt outcome.system
          (Settings.outputExtensions.map settings.outputPath) ∧
        (outcome.exitCode = 0 → settings.OutputsApart system →
          outcome.system.contentAt? (settings.outputPath "ebj") =
            some assembly.objectText.toUTF8 ∧
          outcome.system.contentAt? (settings.outputPath "lst") = some assembly.listing.toUTF8 ∧
          outcome.system.contentAt? (settings.outputPath "sdb") =
            some (assembly.sidecar source).text.toUTF8) ∧
        (system.LinkFree → settings.OutputsApart system)) := by
  intro seen outcome
  have ends : outcome.Ends settings system := Session.run_ends accepted
  refine ⟨(Session.run_fullEnvironment system started).2, fun other => ?_, settings.baseLaw,
    ends.of_missing, fun source assembly assembles => ⟨ends.of_prints assembles, fun writes => ?_⟩⟩
  · rw [← Session.settings_eq_ok_iff, accepted, Except.ok.injEq, eq_comm]
  · obtain ⟨failure?, -, printed, -⟩ := ends.of_writes assembles writes
    obtain ⟨atMostOne, all, some⟩ := ends.exitCode_of_writes assembles writes
    refine ⟨printed, atMostOne, some, fun unlimited => ?_, ends.changedOnlyAt,
      fun success apart => ?_, fun free => Settings.outputsApart free⟩
    · rw [some, Settings.exists_writesAll_outputFiles_iff unlimited]
    · have contents := (all.mp success).contentAt? (apart.pairwise source assembly)
      simpa only [Settings.outputFiles, List.forall_mem_cons, List.not_mem_nil, false_imp_iff,
        implies_true, and_true] using contents

/-- A settings file above the working directory asks for the compatible mode. The source is there
too, and the output goes to a directory that holds an earlier listing. -/
theorem run_writes_outputs_only_elsewhere :
    let source := " RSUB\n END\n"
    let objectText := "H^COPY^000000^000003\nT^000000^4C0000\nE^000000\n"
    let listing := "0\t-\tRSUB\t-\n3\t-\tEND\t-\n"
    let sidecar := "\x7b\"name\":\"COPY\",\"start\":0,\"length\":3,\"lines\":[" ++
      "\x7b\"address\":0,\"text\":\" RSUB\",\"line_number\":1\x7d," ++
      "\x7b\"address\":3,\"text\":\" END\",\"line_number\":2\x7d],\"labels\":\x7b\x7d\x7d"
    let system := FileSystem.ofFiles ["home", "work"]
      [("/home/.env", "SICASM_COMPAT=true\n".toUTF8), ("/home/copy.sic", source.toUTF8),
        ("/out/copy.lst", "earlier".toUTF8)] []
    let arguments := ["-o", "/out/copy", "../copy.sic"]
    let outcome := Session.run system .empty arguments
    Session.settings (Session.environmentSeen system .empty) arguments =
        .ok ⟨"../copy.sic", some "/out/copy", none, .compatible, false, some .warn⟩ ∧
      outcome.exitCode = 0 ∧ outcome.printed = "" ∧
      outcome.system.contentAt? "/out/copy.ebj" = some objectText.toUTF8 ∧
      outcome.system.contentAt? "/out/copy.lst" = some listing.toUTF8 ∧
      outcome.system.contentAt? "/out/copy.sdb" = some sidecar.toUTF8 ∧
      outcome.system.contentAt? "/home/copy.sic" = some source.toUTF8 := by
  intro source objectText listing sidecar system arguments outcome
  let settings : Settings :=
    ⟨"../copy.sic", some "/out/copy", none, .compatible, false, some .warn⟩
  have accepted : Session.settings (Session.environmentSeen system .empty) arguments =
      .ok settings := by
    decide +kernel
  have paths : settings.outputPath "ebj" = "/out/copy.ebj" ∧
      settings.outputPath "lst" = "/out/copy.lst" ∧
      settings.outputPath "sdb" = "/out/copy.sdb" := by
    decide +kernel
  obtain ⟨assembly, assembled, object, rows, json⟩ : ∃ assembly,
      assemble OpcodeTable.sicMachine .compatible source = .ok assembly ∧
      assembly.objectText = objectText ∧ assembly.listing = listing ∧
      (assembly.sidecar source).text = sidecar :=
    exists_ok_and (fun assembly => assembly.objectText = objectText ∧ assembly.listing = listing ∧
        (assembly.sidecar source).text = sidecar) (by decide +kernel)
      fun assembly _ texts => of_decide_eq_true texts
  obtain ⟨printed, -, -, succeeds, changed, contents, apart⟩ :=
    ((run_writes_outputs_only accepted).2.2.2.2 source assembly
      ⟨_, .builtIn rfl, by decide +kernel, assembled⟩).2 rfl
  have writable : ∀ extension ∈ Settings.outputExtensions,
      system.Writable (settings.outputPath extension) := by
    decide +kernel
  have success : outcome.exitCode = 0 := (succeeds (by decide +kernel)).mpr writable
  have written := contents success (apart (FileSystem.linkFree_ofFiles _ _))
  rw [paths.1, paths.2.1, paths.2.2, object, rows, json] at written
  obtain ⟨first, second, third⟩ := written
  refine ⟨accepted, success, printed, first, second, third, ?_⟩
  refine (changed.contentAt?_eq fun other member => FileSystem.leadApart_of_ne ?_).trans ?_
  · revert other
    decide +kernel
  · decide +kernel

-- Output paths that do not lead apart: the listing is linked to the object program, and what is
-- written last stays.
example :
    let system := FileSystem.ofFiles ["home"] [("copy.sic", " RSUB\n END\n".toUTF8)]
      [("copy.lst", "copy.ebj")]
    (Session.run system .empty ["copy.sic"]).system.contentAt? "copy.ebj" =
      some "0\t-\tRSUB\t-\n3\t-\tEND\t-\n".toUTF8 := by
  decide +kernel

/-- What a run of the command does to the files. If its arguments are not accepted it leaves them
as they are. Otherwise every path, that of the source and that of the opcode table among them,
leads to the content that it led to before, unless the run has an assembly to write and one of the
output paths leads to the same target. -/
theorem run_keeps_inputs_apart (system : FileSystem) (started : Environment)
    (arguments : List String) :
    let seen := Session.environmentSeen system started
    let outcome := Session.run system started arguments
    (∀ interruption, Session.settings seen arguments = .error interruption →
      outcome.system = system) ∧
    ∀ settings, Session.settings seen arguments = .ok settings →
      (∃ items, Spells arguments items ∧ settings.Follows seen items) ∧
      ∀ path, outcome.system.contentAt? path = system.contentAt? path ∨
        settings.print = false ∧ (∃ source assembly, settings.Assembles system source assembly) ∧
          ∃ extension ∈ Settings.outputExtensions, ∃ target,
            system.resolve path = .ok target ∧
            system.resolve (settings.outputPath extension) = .ok target := by
  intro seen outcome
  refine ⟨fun interruption refused => Session.run_of_interruption refused,
    fun settings accepted => ⟨Session.settings_eq_ok_iff.mp accepted, fun path => ?_⟩⟩
  have ends : outcome.Ends settings system := Session.run_ends accepted
  rcases ends.changes with same | ⟨writes, assembles, changed⟩
  · exact Or.inl (by rw [same])
  by_cases apart : ∀ other ∈ Settings.outputExtensions.map settings.outputPath,
      system.LeadApart path other
  · exact Or.inl (changed.contentAt?_eq apart)
  · refine Or.inr ⟨writes, assembles, ?_⟩
    simpa [FileSystem.LeadApart] using apart

/-- The output goes beside the opcode table, which is named in another way, and replaces it. The
source is safe. -/
theorem run_keeps_source_and_replaces_table :
    let source := " RSUB\n END\n"
    let system := FileSystem.ofFiles ["home", "work"]
      [("copy.sic", source.toUTF8), ("codes.lst", "RSUB 4C\n".toUTF8)] []
    let arguments := ["--optab", "codes.lst", "-o", "../work/codes", "copy.sic"]
    let outcome := Session.run system .empty arguments
    outcome.system.contentAt? "copy.sic" = some source.toUTF8 ∧
      outcome.system.contentAt? "codes.lst" =
        some "0\t-\tRSUB\t-\n3\t-\tEND\t-\n".toUTF8 := by
  intro source system arguments outcome
  have accepted : Session.settings (Session.environmentSeen system .empty) arguments =
      .ok ⟨"copy.sic", some "../work/codes", some "codes.lst", {}, false, some .warn⟩ := by
    decide +kernel
  have before : system.contentAt? "copy.sic" = some source.toUTF8 := by decide +kernel
  refine ⟨?_, by decide +kernel⟩
  obtain kept | ⟨-, -, extension, member, target, leads, leadsToo⟩ :=
    ((run_keeps_inputs_apart system .empty arguments).2 _ accepted).2 "copy.sic"
  · exact kept.trans before
  · have apart : ∀ extension ∈ Settings.outputExtensions,
        system.resolve "copy.sic" ≠ system.resolve ("../work/codes" ++ "." ++ extension) := by
      decide +kernel
    exact absurd (leads.trans leadsToo.symm) (apart extension member)

/-- A source whose name has the extension of an output file does not outlive the run. -/
theorem run_overwrites_source :
    let system := FileSystem.ofFiles ["home", "work"] [("copy.ebj", " RSUB\n END\n".toUTF8)] []
    let outcome := Session.run system .empty ["copy.ebj"]
    Session.settings (Session.environmentSeen system .empty) ["copy.ebj"] =
        .ok ⟨"copy.ebj", none, none, {}, false, some .warn⟩ ∧
      outcome.exitCode = 0 ∧
      system.contentAt? "copy.ebj" = some " RSUB\n END\n".toUTF8 ∧
      outcome.system.contentAt? "copy.ebj" =
        some "H^COPY^000000^000003\nT^000000^4C0000\nE^000000\n".toUTF8 := by
  decide +kernel

end SicAssembler
