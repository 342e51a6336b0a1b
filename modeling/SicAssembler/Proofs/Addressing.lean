/-
This file proves that the two ways of addressing text records carry the same
program. They differ in where a record ends, in the address it is given and in
whether a long constant is cut, so their records do not correspond one to one.
What they share is the emissions: both pack the same fragments in the same
order, and the pieces of a constant that was cut join up to the constant again.
Whether a program can be built does not depend on the addressing at all.
-/

import Mathlib.Data.List.Forall2
import SicAssembler.Proofs.Emission

namespace SicAssembler

/-! ### Pieces of a fragment -/

/-- The fragments that a fragment is cut into: it stays whole if a record can hold it, and else
loses full pieces until the rest fits. -/
inductive CutInto : Fragment → List Fragment → Prop where
  | whole (content : Fragment) (fits : content.size ≤ recordCapacity) : CutInto content [content]
  | piece (first rest : List UInt8) (pieces : List Fragment) (full : first.length = recordCapacity)
      (more : rest ≠ []) (later : CutInto (.bytes rest) pieces) :
      CutInto (.bytes (first ++ rest)) (.bytes first :: pieces)

/-- The pieces of a fragment have its bytes. -/
theorem CutInto.flatMap_toBytes {content : Fragment} {pieces : List Fragment}
    (cut : CutInto content pieces) : pieces.flatMap Fragment.toBytes = content.toBytes := by
  induction cut with
  | whole content fits => exact List.flatMap_singleton _ _
  | piece first rest pieces full more later inductionHypothesis =>
    rw [List.flatMap_cons, inductionHypothesis]
    rfl

/-- The bound on the number of pieces is no restriction. -/
theorem cutInto_cutBytes {address bound : Nat} {data : List UInt8} (enough : data.length ≤ bound) :
    CutInto (.bytes data) ((cutBytes address bound data).filterMap Emission.content?) := by
  induction bound generalizing address data with
  | zero => exact .whole _ (Nat.le_trans enough (Nat.zero_le _))
  | succ bound inductionHypothesis =>
    rw [cutBytes]
    split
    · next short => exact .whole _ short
    · next long =>
      have remaining : (data.drop recordCapacity).length = data.length - recordCapacity :=
        List.length_drop
      have positive : 0 < recordCapacity := by decide
      have more : data.drop recordCapacity ≠ [] := by
        rw [← List.length_pos_iff]
        omega
      have later : CutInto (.bytes (data.drop recordCapacity))
          ((cutBytes ((address + recordCapacity) % addressWrap) bound
            (data.drop recordCapacity)).filterMap Emission.content?) :=
        inductionHypothesis (by omega)
      have pieces := CutInto.piece _ _ _ (length_take_of_long long) more later
      rw [List.take_append_drop] at pieces
      exact pieces

theorem cutInto_cut (address : Nat) (content : Fragment) :
    CutInto content ((Emission.fragment address content).cut.filterMap Emission.content?) := by
  cases content with
  | bytes data => exact cutInto_cutBytes (Nat.le_refl _)
  | word value => exact .whole _ (show 3 ≤ recordCapacity by decide)
  | instruction opcode target => exact .whole _ (show 3 ≤ recordCapacity by decide)

/-- The fragments of emissions that are cut are, one by one, the pieces of the fragments of the
emissions. -/
theorem exists_groups (emissions : List Emission) :
    ∃ groups, (emissions.flatMap Emission.cut).filterMap Emission.content? = groups.flatten ∧
      List.Forall₂ CutInto (emissions.filterMap Emission.content?) groups := by
  induction emissions with
  | nil => exact ⟨[], rfl, .nil⟩
  | cons emission rest inductionHypothesis =>
    obtain ⟨groups, same, cut⟩ := inductionHypothesis
    rw [List.flatMap_cons, List.filterMap_append, same]
    cases emission with
    | gap => exact ⟨groups, rfl, cut⟩
    | fragment address content =>
      exact ⟨_ :: groups, rfl, .cons (cutInto_cut address content) cut⟩

theorem flatMap_toBytes_of_forall₂ {contents : List Fragment} {groups : List (List Fragment)}
    (cut : List.Forall₂ CutInto contents groups) :
    groups.flatten.flatMap Fragment.toBytes = contents.flatMap Fragment.toBytes := by
  induction cut with
  | nil => rfl
  | cons first rest inductionHypothesis =>
    rw [List.flatten_cons, List.flatMap_append, first.flatMap_toBytes, inductionHypothesis,
      List.flatMap_cons]

/-! ### Fragments of records -/

theorem flatMap_fragments_packTracked (emissions : List Emission) :
    (packTracked emissions).flatMap TextRecord.fragments =
      (emissions.flatMap Emission.cut).filterMap Emission.content? :=
  flatMap_fragments_pack none _

theorem filterMap_content?_filter (emissions : List Emission) :
    (emissions.filter Emission.isFragment).filterMap Emission.content? =
      emissions.filterMap Emission.content? := by
  rw [List.filterMap_filter]
  refine List.filterMap_congr fun emission _ => ?_
  cases emission <;> rfl

/-- The addresses of records have no bearing on their fragments. -/
theorem flatMap_fragments_packFixed (start : Nat) (emissions : List Emission) :
    (packFixed start emissions).flatMap TextRecord.fragments =
      emissions.filterMap Emission.content? := by
  have unplaced (records : List TextRecord) (place : Nat → Nat) :
      (records.mapIdx fun index record =>
        { record with address := place index }).flatMap TextRecord.fragments =
          records.flatMap TextRecord.fragments := by
    induction records generalizing place with
    | nil => rfl
    | cons record rest inductionHypothesis =>
      rw [List.mapIdx_cons, List.flatMap_cons, List.flatMap_cons, inductionHypothesis]
  rw [packFixed, unplaced, flatMap_fragments_pack, filterMap_content?_filter]
  rfl

theorem flatMap_toBytes (texts : List TextRecord) :
    texts.flatMap TextRecord.toBytes =
      (texts.flatMap TextRecord.fragments).flatMap Fragment.toBytes := by
  rw [List.flatMap_assoc]
  rfl

/-! ### Both ways of addressing -/

/-- Whether a program can be built, and from which emissions, does not depend on the
addressing. -/
theorem ObjectProgram.ofLayout_cases (table : OpcodeTable) (options : Options) (layout : Layout) :
    (∃ cause, ∀ addressing,
      ofLayout table { options with addressing := addressing } layout = .error cause) ∨
    ∃ emissions, ∀ addressing,
      ofLayout table { options with addressing := addressing } layout =
        .ok (.header layout.program.name layout.program.start layout.program.length ::
          (textRecords addressing layout.program.start emissions).map .text ++
            [.finish layout.program.start]) := by
  unfold ofLayout ofStatements
  by_cases empty : table.isEmpty = true
  · exact Or.inl ⟨.emptyOpcodeTable, fun _ => if_pos empty⟩
  · simp only [if_neg empty]
    cases (beforeFinish layout.statements).mapM fun statement : Statement =>
      statement.emission table layout.symbols options.undefinedSymbols with
    | error cause => exact Or.inl ⟨cause, fun _ => rfl⟩
    | ok emissions => exact Or.inr ⟨emissions, fun _ => rfl⟩

/-- Under the two ways of addressing a program either stops with the same cause, or has the same
header, the same end record and text records with the same bytes. The fragments differ only in
that those which no record can hold are cut under tracked addresses. -/
theorem ObjectProgram.addressing_agree (table : OpcodeTable) (options : Options)
    (layout : Layout) :
    (∃ cause, ofLayout table { options with addressing := .tracked } layout = .error cause ∧
      ofLayout table { options with addressing := .fixedIncrement } layout = .error cause) ∨
    ∃ (name : String) (start length finish : Nat) (tracked fixed : List TextRecord),
      ofLayout table { options with addressing := .tracked } layout =
        .ok (.header name start length :: tracked.map ObjectRecord.text ++ [.finish finish]) ∧
      ofLayout table { options with addressing := .fixedIncrement } layout =
        .ok (.header name start length :: fixed.map ObjectRecord.text ++ [.finish finish]) ∧
      tracked.flatMap TextRecord.toBytes = fixed.flatMap TextRecord.toBytes ∧
      ∃ groups, tracked.flatMap TextRecord.fragments = groups.flatten ∧
        List.Forall₂ CutInto (fixed.flatMap TextRecord.fragments) groups := by
  rcases ofLayout_cases table options layout with ⟨cause, stopped⟩ | ⟨emissions, built⟩
  · exact Or.inl ⟨cause, stopped _, stopped _⟩
  · refine Or.inr ⟨_, _, _, _, packTracked emissions, packFixed layout.program.start emissions,
      built .tracked, built .fixedIncrement, ?_, ?_⟩
    · obtain ⟨groups, same, cut⟩ := exists_groups emissions
      rw [flatMap_toBytes, flatMap_toBytes, flatMap_fragments_packTracked,
        flatMap_fragments_packFixed, same, flatMap_toBytes_of_forall₂ cut]
    · rw [flatMap_fragments_packTracked, flatMap_fragments_packFixed]
      exact exists_groups emissions

/-- The text records of a program are told by its records. -/
theorem ObjectProgram.texts_eq_of_records_eq {texts others : List TextRecord}
    {header header' finish finish' : ObjectRecord}
    (same : header :: texts.map ObjectRecord.text ++ [finish] =
      header' :: others.map ObjectRecord.text ++ [finish']) : texts = others := by
  have inner := List.append_inj_left' (List.cons.inj same).2 rfl
  exact List.map_injective_iff.mpr (fun _ _ => ObjectRecord.text.inj) inner

/-- A constant of 31 bytes is cut under tracked addresses, and a gap closes the record behind it;
under fixed increments the constant is whole, and what follows shares its record. -/
theorem ObjectProgram.addressing_agree_on_cut_constant :
    let front := "ABCDEFGHIJKLMNOPQRSTUVWXYZ0123".toUTF8.data.toList
    let lines := ["P START 10", " BYTE C'ABCDEFGHIJKLMNOPQRSTUVWXYZ01234'", " RESB 1", " RSUB"]
    let tracked : List TextRecord := [⟨0x10, [.bytes front]⟩, ⟨0x2E, [.bytes [0x34]]⟩,
      ⟨0x30, [.instruction 0x4C 0x0000]⟩]
    let fixed : List TextRecord := [⟨0x10, [.bytes (front ++ [0x34])]⟩,
      ⟨0x13, [.instruction 0x4C 0x0000]⟩]
    ∃ layout, Layout.ofLines .sicMachine {} lines = .ok layout ∧
      ofLayout .sicMachine { addressing := .tracked } layout =
        .ok (.header "COPY" 0x10 35 :: tracked.map ObjectRecord.text ++ [.finish 0x10]) ∧
      ofLayout .sicMachine { addressing := .fixedIncrement } layout =
        .ok (.header "COPY" 0x10 35 :: fixed.map ObjectRecord.text ++ [.finish 0x10]) ∧
      tracked.flatMap TextRecord.toBytes = fixed.flatMap TextRecord.toBytes ∧
      ∃ groups, tracked.flatMap TextRecord.fragments = groups.flatten ∧
        List.Forall₂ CutInto (fixed.flatMap TextRecord.fragments) groups := by
  intro front lines tracked fixed
  refine exists_ok_and
    (fun layout => ofLayout .sicMachine { addressing := .tracked } layout =
        .ok (.header "COPY" 0x10 35 :: tracked.map ObjectRecord.text ++ [.finish 0x10]) ∧
      ofLayout .sicMachine { addressing := .fixedIncrement } layout =
        .ok (.header "COPY" 0x10 35 :: fixed.map ObjectRecord.text ++ [.finish 0x10]))
    (by decide +kernel) fun layout laidOut checked => ?_
  obtain ⟨asTracked, asFixed⟩ := of_decide_eq_true checked
  refine ⟨asTracked, asFixed, ?_⟩
  rcases addressing_agree .sicMachine {} layout with
    ⟨cause, stopped, -⟩ | ⟨name, start, length, finish, texts, others, built, builtToo, agree⟩
  · cases asTracked.symm.trans stopped
  · rw [texts_eq_of_records_eq (Except.ok.inj (asTracked.symm.trans built)),
      texts_eq_of_records_eq (Except.ok.inj (asFixed.symm.trans builtToo))]
    exact agree

end SicAssembler
