/-
This file proves what a series of writes does to a file system. It changes
nothing but what its paths lead to, however far it gets. Without a limit it
succeeds exactly if each path is writable at the start, since no write takes a
permission away. If all writes succeed and no two of the paths lead to the same
target, every path leads to its own text in the end.
-/

import SicAssembler.Proofs.FileSystem

namespace SicAssembler

namespace FileSystem

variable {system before after : FileSystem} {place : Place} {path : String}

/-! ### What a write changes -/

theorem files_store (system : FileSystem) (number : Nat) (bytes : ByteArray) :
    (system.store number bytes).1.files =
      system.files.modify number fun file =>
        { file with content := system.fitting number bytes } := rfl

theorem store_snd (system : FileSystem) (number : Nat) (bytes : ByteArray) :
    (system.store number bytes).2 =
      if (system.fitting number bytes).size < bytes.size then some .noRoom else none := rfl

theorem getElem?_files_store (system : FileSystem) {number other : Nat} (differ : other ≠ number)
    (bytes : ByteArray) : (system.store number bytes).1.files[other]? = system.files[other]? := by
  rw [files_store, List.getElem?_modify]
  simp [differ.symm]

theorem getElem?_files_create (system : FileSystem) (place : Place) {number : Nat}
    (known : number < system.files.length) :
    (system.create place).files[number]? = system.files[number]? :=
  List.getElem?_append_left known

/-- Only what the given paths lead to was made or changed. -/
structure ChangedOnlyAt (before after : FileSystem) (paths : List String) : Prop where
  grows : Grows before after
  /-- Where something stands that did not, a path led to nothing. -/
  nodes : ∀ place, after.nodeAt? place ≠ before.nodeAt? place →
    ∃ path ∈ paths, before.resolve path = .ok (.missing place)
  /-- Where a file is not as it was, a path led to it. -/
  files : ∀ number < before.files.length, after.files[number]? ≠ before.files[number]? →
    ∃ path ∈ paths, before.resolve path = .ok (.file number)

theorem ChangedOnlyAt.refl (system : FileSystem) (paths : List String) :
    ChangedOnlyAt system system paths where
  grows := .refl system
  nodes _ changed := absurd rfl changed
  files _ _ changed := absurd rfl changed

theorem changedOnlyAt_writeBytes (system : FileSystem) (path : String) (bytes : ByteArray) :
    ChangedOnlyAt system (system.writeBytes path bytes).1 [path] := by
  refine ⟨system.grows_writeBytes path bytes, ?_, ?_⟩ <;>
    rcases system.writeBytes_cases path bytes with
      ⟨-, failure, failed⟩ | ⟨opened, number, opens, wrote⟩
  · rw [failed]
    exact fun place changed => absurd rfl changed
  · intro place changed
    rw [wrote] at changed
    cases opens with
    | existing => exact absurd rfl changed
    | @new made leads _ =>
      -- Storing leaves the nodes alone, and creating adds a node where the path led.
      have created := system.nodeAt?_create made place
      by_cases same : place = made
      · rw [same]
        exact ⟨path, List.mem_singleton_self path, leads⟩
      · rw [if_neg same, Option.or_none] at created
        exact absurd created changed
  · rw [failed]
    exact fun other _ changed => absurd rfl changed
  · intro other known changed
    rw [wrote] at changed
    cases opens with
    | existing leads =>
      by_cases same : other = number
      · rw [same]
        exact ⟨path, List.mem_singleton_self path, leads⟩
      · exact absurd (system.getElem?_files_store same bytes) changed
    | @new made leads _ =>
      have unchanged := (system.create made).getElem?_files_store (Nat.ne_of_lt known) bytes
      exact absurd (unchanged.trans (system.getElem?_files_create made known)) changed

/-- Changes at some paths and then at others are changes at all of them. -/
theorem ChangedOnlyAt.trans {later : FileSystem} {paths others : List String}
    (changed : ChangedOnlyAt before after paths) (changedOn : ChangedOnlyAt after later others) :
    ChangedOnlyAt before later (paths ++ others) where
  grows := changed.grows.trans changedOn.grows
  nodes place differs := by
    by_cases unchanged : after.nodeAt? place = before.nodeAt? place
    · rw [← unchanged] at differs
      obtain ⟨path, member, leads⟩ := changedOn.nodes place differs
      exact ⟨path, List.mem_append_right _ member, changed.grows.resolve_eq_missing leads⟩
    · obtain ⟨path, member, leads⟩ := changed.nodes place unchanged
      exact ⟨path, List.mem_append_left _ member, leads⟩
  files number known differs := by
    by_cases unchanged : after.files[number]? = before.files[number]?
    · rw [← unchanged] at differs
      obtain ⟨path, member, leads⟩ :=
        changedOn.files number (Nat.lt_of_lt_of_le known changed.grows.files) differs
      exact ⟨path, List.mem_append_right _ member, changed.grows.resolve_eq_file known leads⟩
    · obtain ⟨path, member, leads⟩ := changed.files number known unchanged
      exact ⟨path, List.mem_append_left _ member, leads⟩

/-! ### Contents -/

/-- The content of the file that a path leads to. -/
def contentAt? (system : FileSystem) (path : String) : Option ByteArray :=
  match system.resolve path with
  | .ok (.file number) => system.files[number]?.map StoredFile.content
  | _ => none

theorem contentAt?_of_leads {number : Nat} (leads : system.resolve path = .ok (.file number)) :
    system.contentAt? path = system.files[number]?.map StoredFile.content := by
  rw [contentAt?, leads]

/-- A path that led to a file does so still, and finds the content that it has there. -/
theorem Grows.contentAt?_eq (grows : Grows before after) {number : Nat}
    (leads : before.resolve path = .ok (.file number)) :
    after.contentAt? path = after.files[number]?.map StoredFile.content :=
  contentAt?_of_leads (grows.resolve_eq_ok_iff.mpr ⟨_, leads, rfl⟩)

theorem fitting_eq_self {number : Nat} {bytes : ByteArray}
    (fits : bytes.size ≤ (system.fitting number bytes).size) :
    system.fitting number bytes = bytes := by
  unfold fitting at fits ⊢
  split
  · rfl
  · next capacity limit =>
    simp only [limit, ByteArray.size_extract] at fits
    refine ByteArray.ext ?_
    rw [ByteArray.data_extract, Array.extract_eq_self_of_le]
    exact Nat.le_trans fits (by omega)

/-- After a write that succeeds, the path leads to the bytes that were written. -/
theorem contentAt?_writeBytes {bytes : ByteArray} {written : FileSystem}
    (wrote : system.writeBytes path bytes = (written, none)) :
    written.contentAt? path = some bytes := by
  rcases system.writeBytes_cases path bytes with
    ⟨-, failure, failed⟩ | ⟨opened, number, opens, stored⟩
  · cases failed.symm.trans wrote
  · have result : opened.store number bytes = (written, none) := stored.symm.trans wrote
    have success : (opened.store number bytes).2 = none := congrArg Prod.snd result
    have whole : opened.fitting number bytes = bytes := by
      refine fitting_eq_self (Nat.le_of_not_lt fun less => ?_)
      rw [store_snd, if_pos less] at success
      cases success
    obtain ⟨place, there⟩ := stands_of_resolve opens.leads
    have known := List.getElem?_eq_getElem (lt_of_nodeAt? there)
    have content := (opened.grows_store number bytes).contentAt?_eq opens.leads
    rw [files_store, List.getElem?_modify_eq, known, whole, result] at content
    exact content

/-- Two paths do not lead to the same target. -/
def LeadApart (system : FileSystem) (path other : String) : Prop :=
  ∀ target, system.resolve path = .ok target → system.resolve other ≠ .ok target

theorem leadApart_of_ne {other : String} (differ : system.resolve path ≠ system.resolve other) :
    system.LeadApart path other :=
  fun _ leads leadsToo => differ (leads.trans leadsToo.symm)

/-- A path leads to the content that it led to, unless one of the paths of a change leads to the
same target. -/
theorem ChangedOnlyAt.contentAt?_eq {paths : List String}
    (changed : ChangedOnlyAt before after paths)
    (apart : ∀ other ∈ paths, before.LeadApart path other) :
    after.contentAt? path = before.contentAt? path := by
  have now (target : Target) : after.resolve path = .ok target ↔
      ∃ earlier, before.resolve path = .ok earlier ∧ after.settle earlier = target :=
    changed.grows.resolve_eq_ok_iff
  cases led : before.resolve path with
  | error failure =>
    cases leads : after.resolve path with
    | error failure => simp only [contentAt?, led, leads]
    | ok target =>
      obtain ⟨earlier, ledToo, -⟩ := (now target).mp leads
      cases led.symm.trans ledToo
  | ok target =>
    cases target with
    | directory place =>
      have leads := (now _).mpr ⟨_, led, rfl⟩
      simp only [contentAt?, led, leads, settle]
    | file number =>
      obtain ⟨place, there⟩ := stands_of_resolve led
      rw [changed.grows.contentAt?_eq led, contentAt?_of_leads led]
      refine congrArg _ (Classical.not_not.mp fun differs => ?_)
      obtain ⟨other, member, ledToo⟩ := changed.files number (lt_of_nodeAt? there) differs
      exact apart other member _ led ledToo
    | missing place =>
      have nothing : before.nodeAt? place = none := stands_of_resolve led
      have still : after.nodeAt? place = none := by
        refine (Classical.not_not.mp fun differs => ?_ : after.nodeAt? place = _).trans nothing
        obtain ⟨other, member, ledToo⟩ := changed.nodes place differs
        exact apart other member _ led ledToo
      have leads := (now _).mpr ⟨_, led, rfl⟩
      simp only [contentAt?, led, leads, settle, still]

/-! ### Permissions -/

theorem Opens.capacity? {opened : FileSystem} {number : Nat}
    (opens : Opens system path opened number) : opened.capacity? = system.capacity? := by
  cases opens <;> rfl

/-- Without a limit, a write succeeds exactly if the path is writable. -/
theorem writeBytes_eq_none_iff (unlimited : system.capacity? = none) (bytes : ByteArray) :
    (system.writeBytes path bytes).2 = none ↔ system.Writable path := by
  rcases system.writeBytes_cases path bytes with
    ⟨refused, failure, failed⟩ | ⟨opened, number, opens, wrote⟩
  · rw [failed]
    exact ⟨fun success => (nomatch success), fun writable => absurd writable refused⟩
  · have whole : opened.fitting number bytes = bytes := by
      rw [fitting, opens.capacity?, unlimited]
    rw [wrote, store_snd, whole]
    simp [opens.writable]

theorem capacity?_writeBytes {bytes : ByteArray} {result : FileSystem × Option FileFailure}
    (wrote : system.writeBytes path bytes = result) : result.1.capacity? = system.capacity? := by
  rcases system.writeBytes_cases path bytes with
    ⟨-, failure, failed⟩ | ⟨opened, number, opens, stored⟩
  · rw [← wrote, failed]
  · rw [← wrote, stored]
    exact opens.capacity?

theorem allows_store (system : FileSystem) (number : Nat) (bytes : ByteArray) (target : Target) :
    (system.store number bytes).1.allows target = system.allows target := by
  cases target with
  | directory place => rfl
  | missing place => rfl
  | file other =>
    rw [allows, allows, files_store, List.getElem?_modify]
    cases system.files[other]? with
    | none => rfl
    | some file => by_cases same : number = other <;> simp [same]

theorem settle_self {target : Target} (stands : system.Stands target) :
    system.settle target = target := by
  cases target with
  | directory place => rfl
  | file number => rfl
  | missing place =>
    have nothing : system.nodeAt? place = none := stands
    simp [settle, nothing]

/-- What the command may write does not depend on what it has written. -/
theorem Opens.allows_settle {opened : FileSystem} {number : Nat}
    (opens : Opens system path opened number) {target : Target} (stands : system.Stands target) :
    opened.allows (opened.settle target) = system.allows target := by
  cases opens with
  | existing => rw [settle_self stands]
  | @new made leads allowed =>
    cases target with
    | directory place => rfl
    | file other =>
      obtain ⟨place, there⟩ := stands
      rw [settle, allows, allows, system.getElem?_files_create made (lt_of_nodeAt? there)]
      simp
    | missing place =>
      have nothing : system.nodeAt? place = none := stands
      have created := system.nodeAt?_create made
      by_cases same : place = made
      · have there : (system.create made).nodeAt? place = some (.file system.files.length) := by
          rw [created, nothing, Option.none_or, if_pos same]
        rw [same] at there ⊢
        rw [allowed, settle, there]
        simp [allows, create]
      · have still : (system.create made).nodeAt? place = none := by
          rw [created, nothing, Option.none_or, if_neg same]
        rw [settle, still, allows, allows, created]
        cases system.nodeAt? place.dropLast with
        | some node => rw [Option.some_or]
        | none => by_cases parent : place.dropLast = made <;> simp [parent]

theorem writable_writeBytes_iff {written : FileSystem} {bytes : ByteArray} {other : String}
    (wrote : system.writeBytes path bytes = (written, none)) :
    written.Writable other ↔ system.Writable other := by
  rcases system.writeBytes_cases path bytes with
    ⟨-, failure, failed⟩ | ⟨opened, number, opens, stored⟩
  · cases failed.symm.trans wrote
  have result : (opened.store number bytes).1 = written :=
    congrArg Prod.fst (stored.symm.trans wrote)
  have grows : Grows system written := result ▸ opens.grows.trans (grows_store opened number bytes)
  have allowed {target : Target} (stands : system.Stands target) :
      written.allows (written.settle target) = system.allows target := by
    rw [← result, allows_store]
    exact opens.allows_settle stands
  constructor
  · rintro ⟨target, leads, permitted⟩
    obtain ⟨earlier, led, rfl⟩ := grows.resolve_eq_ok_iff.mp leads
    exact ⟨earlier, led, allowed (stands_of_resolve led) ▸ permitted⟩
  · rintro ⟨target, led, permitted⟩
    refine ⟨_, grows.resolve_eq_ok_iff.mpr ⟨target, led, rfl⟩, ?_⟩
    rw [allowed (stands_of_resolve led), permitted]

/-! ### A series of writes -/

/-- Write files one after the other, up to the first that cannot be written. -/
def writeAll (system : FileSystem) : List (String × String) → FileSystem × Option FileFailure
  | [] => (system, none)
  | (path, text) :: rest =>
    match system.writeBytes path text.toUTF8 with
    | (written, none) => written.writeAll rest
    | (written, some failure) => (written, some failure)

/-- A series of writes changes nothing but what its paths lead to, however far it gets. -/
theorem changedOnlyAt_writeAll (system : FileSystem) (files : List (String × String)) :
    ChangedOnlyAt system (system.writeAll files).1 (files.map Prod.fst) := by
  induction files generalizing system with
  | nil => exact .refl system []
  | cons output rest inductionHypothesis =>
    obtain ⟨path, text⟩ := output
    have first := system.changedOnlyAt_writeBytes path text.toUTF8
    rw [writeAll]
    split
    · next written wrote =>
      rw [wrote] at first
      exact first.trans (inductionHypothesis written)
    · next written failure wrote =>
      rw [wrote] at first
      exact first.trans (.refl written _)

/-- All writes of a series succeed. -/
inductive WritesAll : FileSystem → List (String × String) → FileSystem → Prop where
  | nil (system : FileSystem) : WritesAll system [] system
  | cons {system written after : FileSystem} {path text : String} {rest : List (String × String)}
      (wrote : system.writeBytes path text.toUTF8 = (written, none))
      (later : WritesAll written rest after) : WritesAll system ((path, text) :: rest) after

theorem writeAll_eq_none_iff {files : List (String × String)} :
    system.writeAll files = (after, none) ↔ WritesAll system files after := by
  induction files generalizing system with
  | nil =>
    constructor
    · intro all
      cases all
      exact .nil _
    · intro all
      cases all
      rfl
  | cons output rest inductionHypothesis =>
    obtain ⟨path, text⟩ := output
    rw [writeAll]
    constructor
    · intro all
      split at all
      · next written wrote => exact .cons wrote (inductionHypothesis.mp all)
      · cases all
    · intro all
      cases all with
      | cons wrote later =>
        rw [wrote]
        exact inductionHypothesis.mpr later

/-- Without a limit, all writes of a series succeed exactly if each path is writable. -/
theorem exists_writesAll_iff (unlimited : system.capacity? = none)
    {files : List (String × String)} :
    (∃ after, WritesAll system files after) ↔ ∀ output ∈ files, system.Writable output.1 := by
  induction files generalizing system with
  | nil => simpa using ⟨system, .nil system⟩
  | cons output rest inductionHypothesis =>
    obtain ⟨path, text⟩ := output
    rw [List.forall_mem_cons, ← writeBytes_eq_none_iff unlimited text.toUTF8]
    have later {written : FileSystem}
        (wrote : system.writeBytes path text.toUTF8 = (written, none)) :
        (∃ after, WritesAll written rest after) ↔ ∀ output ∈ rest, system.Writable output.1 := by
      rw [inductionHypothesis (capacity?_writeBytes wrote ▸ unlimited)]
      simp only [writable_writeBytes_iff wrote]
    constructor
    · rintro ⟨after, all⟩
      cases all with
      | cons wrote others => exact ⟨congrArg Prod.snd wrote, (later wrote).mp ⟨after, others⟩⟩
    · rintro ⟨first, others⟩
      have wrote : system.writeBytes path text.toUTF8 =
          ((system.writeBytes path text.toUTF8).1, none) := Prod.ext rfl first
      obtain ⟨after, all⟩ := (later wrote).mpr others
      exact ⟨after, .cons wrote all⟩

theorem Grows.leadApart (grows : Grows before after) {path other : String}
    (apart : before.LeadApart path other) : after.LeadApart path other := by
  intro target leads leadsToo
  obtain ⟨first, led, settled⟩ := grows.resolve_eq_ok_iff.mp leads
  obtain ⟨second, ledToo, settledToo⟩ := grows.resolve_eq_ok_iff.mp leadsToo
  have same := grows.settle_injective (stands_of_resolve led) (stands_of_resolve ledToo)
    (settled.trans settledToo.symm)
  rw [same] at led
  exact apart second led ledToo

/-- After writes that all succeed, to paths that lead apart, each path leads to its text. -/
theorem WritesAll.contentAt? {files : List (String × String)} (all : WritesAll system files after)
    (apart : files.Pairwise fun first second => system.LeadApart first.1 second.1) :
    ∀ output ∈ files, after.contentAt? output.1 = some output.2.toUTF8 := by
  induction all with
  | nil => simp
  | @cons system written after path text rest wrote later inductionHypothesis =>
    obtain ⟨fromFirst, others⟩ := List.pairwise_cons.mp apart
    have grows : Grows system written := by
      have grown := system.grows_writeBytes path text.toUTF8
      rwa [wrote] at grown
    have content := contentAt?_writeBytes wrote
    rw [List.forall_mem_cons]
    constructor
    · -- The later writes go to other files.
      have keeps : ChangedOnlyAt written after (rest.map Prod.fst) := by
        have changed := written.changedOnlyAt_writeAll rest
        rwa [writeAll_eq_none_iff.mpr later] at changed
      rw [keeps.contentAt?_eq, content]
      intro other member
      obtain ⟨output, inRest, rfl⟩ := List.mem_map.mp member
      exact grows.leadApart (fromFirst output inRest)
    · exact inductionHypothesis (others.imp fun apart => grows.leadApart apart)

end FileSystem

end SicAssembler
