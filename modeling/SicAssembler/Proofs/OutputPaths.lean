/-
This file proves what the output paths of a run are and where they lead. They
share a base, which is the one that is given or the path of the source without
its last extension, and differ in their extensions. So their last names differ.

In a file system without links, a path leads to a place of the path's own last
name. The output paths then lead to three different targets, whatever the base
is: through how many directories they go does not matter.
-/

import SicAssembler.Command.Report
import SicAssembler.Proofs.FileWrites
import SicAssembler.Proofs.ObjectText
import SicAssembler.Proofs.TrailingLayout

namespace SicAssembler

/-! ### The last component of a path -/

/-- A text ends in a name that nothing or a slash stands in front of. -/
structure LastComponent (name text : List Char) : Prop where
  plain : '/' ∉ name
  ends : text = name ∨ ∃ before, text = before ++ '/' :: name

namespace LastComponent

variable {name text added : List Char}

theorem append (last : LastComponent name text) (plain : '/' ∉ added) :
    LastComponent (name ++ added) (text ++ added) where
  plain := by
    rw [List.mem_append]
    exact not_or.mpr ⟨last.plain, plain⟩
  ends := by
    rcases last.ends with rfl | ⟨before, rfl⟩
    · exact Or.inl rfl
    · exact Or.inr ⟨before, by rw [List.append_assoc, List.cons_append]⟩

theorem exists_of (text : List Char) : ∃ name, LastComponent name text := by
  induction text with
  | nil => exact ⟨[], by simp, Or.inl rfl⟩
  | cons character text inductionHypothesis =>
    obtain ⟨name, plain, rfl | ⟨before, rfl⟩⟩ := inductionHypothesis
    · by_cases slash : character = '/'
      · exact ⟨text, plain, Or.inr ⟨[], by rw [slash, List.nil_append]⟩⟩
      · exact ⟨character :: text, by simp [plain, Ne.symm slash], Or.inl rfl⟩
    · exact ⟨name, plain, Or.inr ⟨character :: before, rfl⟩⟩

theorem isSuffix (last : LastComponent name text) : name <:+ text := by
  rcases last.ends with rfl | ⟨before, rfl⟩
  · exact List.suffix_rfl
  · exact ⟨before ++ ['/'], by rw [List.append_assoc, List.singleton_append]⟩

theorem pieces_eq (last : LastComponent name text) :
    ∃ front, pieces (· = '/') text = front ++ [name] := by
  have alone : pieces (· = '/') name = [name] := pieces_of_refused (refused_of_not_mem last.plain)
  rcases last.ends with rfl | ⟨before, rfl⟩
  · exact ⟨[], alone⟩
  · exact ⟨pieces (· = '/') before, by rw [pieces_append_cons (by simp), alone]⟩

end LastComponent

namespace FileSystem

variable {system : FileSystem} {place : Place} {path : String}

/-! ### File systems without links -/

/-- No path is linked to another, and no file stands at two places. -/
structure LinkFree (system : FileSystem) : Prop where
  direct : ∀ place target, system.nodeAt? place ≠ some (.link target)
  single : ∀ place other number, system.nodeAt? place = some (.file number) →
    system.nodeAt? other = some (.file number) → place = other

/-- A target is at a place. -/
def StandsAt (system : FileSystem) (place : Place) : Target → Prop
  | .directory other => other = place
  | .file number => system.nodeAt? place = some (.file number)
  | .missing other => other = place

namespace LinkFree

theorem step_ne_link (free : system.LinkFree) {name target : String} :
    system.step place name ≠ .ok (.link target) := by
  intro stepped
  unfold step lookUp at stepped
  repeat' split at stepped
  all_goals cases stepped
  next found => exact free.direct _ _ found

/-- A name that is looked up leads to the place of that name. -/
theorem standsAt_of_step {name : String} {target : Target}
    (proper : name ≠ "" ∧ name ≠ "." ∧ name ≠ "..")
    (stepped : system.step place name = .ok (.reach target)) :
    system.StandsAt (place ++ [name]) target := by
  obtain ⟨nonempty, notPeriod, notPeriods⟩ := proper
  unfold step lookUp at stepped
  simp only [nonempty, notPeriod, notPeriods, if_false] at stepped
  repeat' split at stepped
  all_goals cases stepped
  · rfl
  · rfl
  · next found => exact found

/-- The last name of a path is the name of the place that the path leads to. -/
theorem standsAt_of_walk (free : system.LinkFree)
    {jump : Place → String → List String → Except FileFailure Target} {front : List String}
    {name : String} (proper : name ≠ "" ∧ name ≠ "." ∧ name ≠ "..") {target : Target}
    (walked : system.walk jump place (front ++ [name]) = .ok target) :
    ∃ directory, system.StandsAt (directory ++ [name]) target := by
  induction front generalizing place with
  | nil =>
    obtain ⟨turn, stepped, later⟩ := bind_eq_ok_iff.mp walked
    cases turn with
    | link path => exact absurd stepped free.step_ne_link
    | reach reached =>
      have stands := standsAt_of_step proper stepped
      refine ⟨place, ?_⟩
      cases reached <;> cases later <;> exact stands
  | cons first front inductionHypothesis =>
    obtain ⟨turn, stepped, later⟩ := bind_eq_ok_iff.mp walked
    cases turn with
    | link path => exact absurd stepped free.step_ne_link
    | reach reached =>
      cases reached with
      | directory next => exact inductionHypothesis later
      | file number => simp at later
      | missing next => simp at later

theorem standsAt_of_follow (free : system.LinkFree) {links : Nat} {front : List String}
    {name : String} (proper : name ≠ "" ∧ name ≠ "." ∧ name ≠ "..") {target : Target}
    (followed : system.follow links place (front ++ [name]) = .ok target) :
    ∃ directory, system.StandsAt (directory ++ [name]) target := by
  cases links with
  | zero => exact free.standsAt_of_walk proper followed
  | succ links => exact free.standsAt_of_walk proper followed

theorem standsAt_of_resolve (free : system.LinkFree) {name : List Char}
    (last : LastComponent name path.toList)
    (proper : String.ofList name ≠ "" ∧ String.ofList name ≠ "." ∧ String.ofList name ≠ "..")
    {target : Target} (leads : system.resolve path = .ok target) :
    ∃ directory, system.StandsAt (directory ++ [String.ofList name]) target := by
  obtain ⟨front, cut⟩ := last.pieces_eq
  have names : namesOf path = front.map String.ofList ++ [String.ofList name] := by
    rw [namesOf, cut, List.map_append, List.map_singleton]
  unfold resolve at leads
  split at leads
  · cases leads
  · rw [names] at leads
    exact free.standsAt_of_follow proper leads

/-- Without links, a target is at one place. -/
theorem place_eq_of_standsAt (free : system.LinkFree) {place other : Place} {target : Target}
    (stands : system.StandsAt place target) (standsToo : system.StandsAt other target) :
    place = other := by
  cases target with
  | directory there => exact stands.symm.trans standsToo
  | file number => exact free.single place other number stands standsToo
  | missing there => exact stands.symm.trans standsToo

/-- A write makes no link, and a file that it makes is at one place. -/
theorem writeBytes (free : system.LinkFree) (path : String) (bytes : ByteArray) :
    (system.writeBytes path bytes).1.LinkFree := by
  have grows := system.grows_writeBytes path bytes
  refine ⟨fun place target found => ?_, fun place other number found foundToo => ?_⟩
  · rcases grows.nodeAt?_cases found with known | ⟨-, number, isFile, -⟩
    · exact free.direct place target known
    · cases isFile
  · exact grows.place_eq found foundToo (free.single place other number)

end LinkFree

/-- The file system of given files has no links. -/
theorem linkFree_ofFiles (workingDirectory : Place) (files : List (String × ByteArray)) :
    (ofFiles workingDirectory files []).LinkFree := by
  unfold ofFiles
  -- The nodes that there are before the first file is written are directories.
  refine List.foldlRecOn files _ ⟨fun place target found => ?_, fun place other number found => ?_⟩
    fun system free file _ => free.writeBytes file.1 file.2
  all_goals
    obtain ⟨front, back, split, -⟩ := List.lookup_eq_some_iff.mp found
    have member : (place, _) ∈ _ := split ▸ List.mem_append_right front List.mem_cons_self
    simp at member

end FileSystem

/-! ### Output paths -/

theorem LastComponent.takeWhile_reverse {name text : List Char} (last : LastComponent name text) :
    text.reverse.takeWhile (· != '/') = name.reverse := by
  have passed (rest : List Char) : (name.reverse ++ rest).takeWhile (· != '/') =
      name.reverse ++ rest.takeWhile (· != '/') := by
    refine List.takeWhile_append_of_pos fun character member => bne_iff_ne.mpr ?_
    rintro rfl
    exact last.plain (List.mem_reverse.mp member)
  rcases last.ends with rfl | ⟨before, rfl⟩
  · simpa using passed []
  · simpa using passed ('/' :: before.reverse)

namespace Settings

variable {settings : Settings}

/-- A path is a base with an extension: a period stands between the two, the extension holds
neither a period nor a slash, and the base ends in a name that is more than a period. -/
structure IsExtended (path base extension : List Char) : Prop where
  split : path = base ++ '.' :: extension
  plain : '.' ∉ extension ∧ '/' ∉ extension
  named : ∀ name, LastComponent name base → name ≠ [] ∧ name ≠ ['.']

theorem toList_dropExtension {path : String} {name : List Char}
    (last : LastComponent name path.toList) {directory : List Char}
    (split : path.toList = directory ++ name) :
    (dropExtension path).toList = directory ++ withoutExtension name := by
  unfold dropExtension
  rw [last.takeWhile_reverse, List.reverse_reverse, split]
  simp

theorem dropWhile_reverse_append {extension : List Char} (plain : '.' ∉ extension)
    (stem : List Char) :
    (stem ++ extension).reverse.dropWhile (· != '.') = stem.reverse.dropWhile (· != '.') := by
  rw [List.reverse_append]
  refine List.dropWhile_append_of_pos fun character member => bne_iff_ne.mpr ?_
  rintro rfl
  exact plain (List.mem_reverse.mp member)

theorem withoutExtension_append {stem extension : List Char} (plain : '.' ∉ extension)
    (nonempty : stem ≠ []) (named : stem ≠ ['.']) :
    withoutExtension (stem ++ '.' :: extension) = stem := by
  have stops : (stem ++ '.' :: extension).reverse.dropWhile (· != '.') = '.' :: stem.reverse := by
    rw [← List.singleton_append, ← List.append_assoc, dropWhile_reverse_append plain]
    simp
  rw [withoutExtension, stops]
  simp [nonempty, named]

theorem withoutExtension_eq_self {name : List Char} (plain : '.' ∉ name.tail) :
    withoutExtension name = name := by
  cases name with
  | nil => rfl
  | cons first rest =>
    have stops : (first :: rest).reverse.dropWhile (· != '.') = [first].dropWhile (· != '.') :=
      dropWhile_reverse_append plain [first]
    have nothing : ([first].dropWhile (· != '.')).drop 1 = [] := by
      by_cases period : first = '.' <;> simp [period]
    rw [withoutExtension, stops, nothing]
    rfl

/-- The base of the output paths is the one that is given, or the path of the source without the
last extension of its name. A period that a name starts with is not before an extension. -/
structure BaseLaw (settings : Settings) : Prop where
  given : ∀ base, settings.output? = some base → settings.outputBase = base
  extended : settings.output? = none → ∀ base extension,
    IsExtended settings.source.toList base extension → settings.outputBase.toList = base
  plain : settings.output? = none → ∀ name, LastComponent name settings.source.toList →
    '.' ∉ name.tail → settings.outputBase = settings.source

theorem baseLaw (settings : Settings) : settings.BaseLaw where
  given base output := by rw [outputBase, output, Option.getD_some]
  extended output base extension extended := by
    obtain ⟨split, ⟨noPeriod, noSlash⟩, named⟩ := extended
    obtain ⟨name, last⟩ := LastComponent.exists_of base
    obtain ⟨directory, whole⟩ := last.isSuffix
    have lastOfPath : LastComponent (name ++ '.' :: extension) settings.source.toList := by
      rw [split]
      exact last.append (by simp [noSlash])
    have splitPath : settings.source.toList = directory ++ (name ++ '.' :: extension) := by
      rw [split, ← List.append_assoc, whole]
    rw [outputBase, output, Option.getD_none, toList_dropExtension lastOfPath splitPath,
      withoutExtension_append noPeriod (named name last).1 (named name last).2, whole]
  plain output name last noExtension := by
    obtain ⟨directory, whole⟩ := last.isSuffix
    rw [outputBase, output, Option.getD_none, ← String.toList_inj,
      toList_dropExtension last whole.symm, withoutExtension_eq_self noExtension, whole]

/-! ### Output files -/

/-- The extensions of the output files. -/
def outputExtensions : List String := ["ebj", "lst", "sdb"]

theorem plain_of_mem_outputExtensions {extension : String} (member : extension ∈ outputExtensions) :
    '/' ∉ '.' :: extension.toList := by
  simp only [outputExtensions, List.mem_cons, List.not_mem_nil, or_false] at member
  rcases member with rfl | rfl | rfl <;> decide

theorem proper_of_mem_outputExtensions (base : List Char) {extension : String}
    (member : extension ∈ outputExtensions) :
    String.ofList (base ++ '.' :: extension.toList) ≠ "" ∧
      String.ofList (base ++ '.' :: extension.toList) ≠ "." ∧
      String.ofList (base ++ '.' :: extension.toList) ≠ ".." := by
  have long : 3 ≤ extension.toList.length := by
    simp only [outputExtensions, List.mem_cons, List.not_mem_nil, or_false] at member
    rcases member with rfl | rfl | rfl <;> decide
  have apart (short : String) (bound : short.toList.length ≤ 2) :
      String.ofList (base ++ '.' :: extension.toList) ≠ short := by
    rintro rfl
    rw [String.toList_ofList, List.length_append, List.length_cons] at bound
    omega
  exact ⟨apart _ (by decide), apart _ (by decide), apart _ (by decide)⟩

theorem lastComponent_outputPath {base : List Char} {extension : String}
    (last : LastComponent base settings.outputBase.toList)
    (member : extension ∈ outputExtensions) :
    LastComponent (base ++ '.' :: extension.toList) (settings.outputPath extension).toList := by
  rw [outputPath, String.toList_append, String.toList_append, List.append_assoc]
  exact last.append (plain_of_mem_outputExtensions member)

/-- Without links, the output paths lead to different targets. -/
theorem leadApart_outputPath {system : FileSystem} (free : system.LinkFree)
    {extension other : String} (member : extension ∈ outputExtensions)
    (among : other ∈ outputExtensions) (differ : extension ≠ other) :
    system.LeadApart (settings.outputPath extension) (settings.outputPath other) := by
  intro target leads leadsToo
  obtain ⟨base, last⟩ := LastComponent.exists_of settings.outputBase.toList
  obtain ⟨directory, stands⟩ := free.standsAt_of_resolve (lastComponent_outputPath last member)
    (proper_of_mem_outputExtensions base member) leads
  obtain ⟨directoryToo, standsToo⟩ := free.standsAt_of_resolve (lastComponent_outputPath last among)
    (proper_of_mem_outputExtensions base among) leadsToo
  have names := (List.append_singleton_inj.mp (free.place_eq_of_standsAt stands standsToo)).2
  have equal := List.append_cancel_left (String.ofList_injective names)
  exact differ (String.toList_inj.mp (List.cons.inj equal).2)

/-- No two output paths lead to the same target. -/
def OutputsApart (settings : Settings) (system : FileSystem) : Prop :=
  outputExtensions.Pairwise fun extension other =>
    system.LeadApart (settings.outputPath extension) (settings.outputPath other)

theorem outputsApart {system : FileSystem} (free : system.LinkFree) :
    settings.OutputsApart system := by
  have distinct : outputExtensions.Nodup := by decide
  exact distinct.imp_of_mem fun member among differ => leadApart_outputPath free member among differ

theorem map_fst_outputFiles (settings : Settings) (source : String) (assembly : Assembly) :
    (settings.outputFiles source assembly).map Prod.fst =
      outputExtensions.map settings.outputPath := rfl

theorem OutputsApart.pairwise {system : FileSystem} (apart : settings.OutputsApart system)
    (source : String) (assembly : Assembly) :
    (settings.outputFiles source assembly).Pairwise fun first second =>
      system.LeadApart first.1 second.1 := by
  have paths : (outputExtensions.map settings.outputPath).Pairwise system.LeadApart :=
    List.pairwise_map.mpr apart
  rw [← map_fst_outputFiles settings source assembly] at paths
  exact List.pairwise_map.mp paths

/-- Without a limit, the output files can be written exactly if each of their paths is writable. -/
theorem exists_writesAll_outputFiles_iff {system : FileSystem} (unlimited : system.capacity? = none)
    (source : String) (assembly : Assembly) :
    (∃ after, system.WritesAll (settings.outputFiles source assembly) after) ↔
      ∀ extension ∈ outputExtensions, system.Writable (settings.outputPath extension) := by
  rw [FileSystem.exists_writesAll_iff unlimited, ← List.forall_mem_map, map_fst_outputFiles,
    List.forall_mem_map]

end Settings

end SicAssembler
