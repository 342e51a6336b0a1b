/-
This file proves that the text records of a program with tracked addresses tile
it: they are not empty, each lies behind the one before it, all of them lie
within the extent that the header states, and they leave out exactly the bytes
that are reserved. A start directive may move the counter back, so this is
asked only of programs that have none, or none but the first statement.

The records hold the bytes of the emissions at their own addresses, so it is
enough to follow the addresses of the emissions along the walk, where the
counter never goes back. How they are packed does not matter any more.
-/

import SicAssembler.Proofs.LocationCounter
import SicAssembler.Proofs.MemoryImage

namespace SicAssembler

/-! ### Ascending addresses -/

/-- Addresses that ascend from a first one on and stay before a last one. -/
structure Ascending (first last : Nat) (addresses : List Nat) : Prop where
  ordered : first ≤ last
  ascends : addresses.Pairwise (· < ·)
  within : ∀ address ∈ addresses, first ≤ address ∧ address < last

theorem Ascending.nil {first last : Nat} (ordered : first ≤ last) : Ascending first last [] :=
  ⟨ordered, .nil, fun _ member => nomatch member⟩

theorem Ascending.range' (first count : Nat) :
    Ascending first (first + count) (List.range' first count) :=
  ⟨Nat.le_add_right _ _, List.pairwise_lt_range', fun _ member => List.mem_range'_1.mp member⟩

theorem Ascending.append {first middle last : Nat} {lower upper : List Nat}
    (low : Ascending first middle lower) (high : Ascending middle last upper) :
    Ascending first last (lower ++ upper) := by
  refine ⟨Nat.le_trans low.ordered high.ordered, ?_, fun address member => ?_⟩
  · refine List.pairwise_append.mpr ⟨low.ascends, high.ascends, fun below inLow above inHigh => ?_⟩
    exact Nat.lt_of_lt_of_le (low.within below inLow).2 (high.within above inHigh).1
  · rcases List.mem_append.mp member with inLow | inHigh
    · have bounds := low.within address inLow
      exact ⟨bounds.1, Nat.lt_of_lt_of_le bounds.2 high.ordered⟩
    · have bounds := high.within address inHigh
      exact ⟨Nat.le_trans low.ordered bounds.1, bounds.2⟩

/-! ### The addresses of a walk -/

theorem Emission.map_fst_image_fragment (address : Nat) (content : Fragment) :
    (Emission.fragment address content).image.map Prod.fst =
      List.range' address content.size := by
  rw [Emission.image, map_fst_placedAt, content.length_toBytes]

namespace Emitting

variable {table : OpcodeTable} {symbols : SymbolTable} {policy : Strictness}
  {cursor last : Cursor} {statements : List Statement} {emissions : List Emission}

/-- Without a start directive the bytes of a walk ascend from its first counter to its last. -/
theorem ascending (emitting : Emitting table symbols policy cursor statements last emissions)
    (ordinary : ∀ statement ∈ statements, statement.operation ≠ .start) :
    Ascending cursor.counter last.counter
      ((emissions.flatMap Emission.image).map Prod.fst) := by
  induction emitting with
  | exhausted cursor => exact .nil (Nat.le_refl _)
  | closed closes => exact .nil (Nat.le_refl _)
  | @step cursor moved last statement rest emission emissions moves emitted later
      inductionHypothesis =>
    have behind := inductionHypothesis fun other member =>
      ordinary other (List.mem_cons_of_mem _ member)
    rw [List.flatMap_cons, List.map_append]
    refine Ascending.append ?_ behind
    cases moves with
    | restart begins _ _ => exact absurd begins (ordinary statement List.mem_cons_self)
    | advance _ _ here _ _ =>
      cases Statement.emission_emits emitted with
      | gap whole => exact .nil (Nat.le_add_right _ _)
      | fragment content notStart size filled unreserved =>
        rw [Emission.map_fst_image_fragment, here, size]
        exact .range' _ _

/-- The bytes of a walk and the bytes it reserves make up the extents of its statements. -/
theorem length_image_add_reserved
    (emitting : Emitting table symbols policy cursor statements last emissions) :
    (emissions.flatMap Emission.image).length + (statements.map Statement.reserved).sum =
      (statements.map Statement.extent).sum := by
  induction emitting with
  | exhausted cursor => rfl
  | closed closes =>
    simp [Statement.reserved, Statement.extent, closes.finishes]
  | @step cursor moved last statement rest emission emissions moves emitted later
      inductionHypothesis =>
    have first : emission.image.length + statement.reserved = statement.extent := by
      cases Statement.emission_emits emitted with
      | gap whole => exact (Nat.zero_add _).trans whole
      | fragment content ordinary size filled unreserved =>
        rw [unreserved, ← size, Emission.image, length_placedAt, content.length_toBytes,
          Nat.add_zero]
    simp only [List.flatMap_cons, List.length_append, List.map_cons, List.sum_cons]
    omega

/-- With no start directive but the first statement, the bytes of a walk ascend from the start of
the program to its end, and the program is as long as its statements. -/
theorem ascending_of_tail (emitting : Emitting table symbols policy {} statements last emissions)
    (single : ∀ statement ∈ statements.tail, statement.operation ≠ .start) :
    Ascending last.start last.counter ((emissions.flatMap Emission.image).map Prod.fst) ∧
      last.start + (statements.map Statement.extent).sum = last.counter := by
  obtain ⟨terminated, traces⟩ := emitting.traces
  by_cases ordinary : ∀ statement ∈ statements, statement.operation ≠ .start
  · obtain ⟨start, counter⟩ := traces.of_no_start ordinary
    rw [start]
    exact ⟨emitting.ascending ordinary, counter.symm⟩
  · -- Some statement is a start directive, so it is the first one.
    cases emitting with
    | exhausted => exact absurd (fun _ member => nomatch member) ordinary
    | closed closes =>
      refine absurd (fun statement member => ?_) ordinary
      rw [List.mem_singleton.mp member, closes.finishes]
      exact Operation.noConfusion
    | @step _ moved _ statement rest emission others moves emitted later =>
      rw [List.tail_cons] at single
      have begins : statement.operation = .start := by
        by_contra notStart
        refine ordinary fun other member => ?_
        rcases List.mem_cons.mp member with rfl | inRest
        · exact notStart
        · exact single other inRest
      have whole : Traces {} ([] ++ statement :: rest) last terminated := traces
      obtain ⟨start, counter⟩ := whole.of_last_start begins single
      have nothing : emission = .gap := by
        cases Statement.emission_emits emitted with
        | gap whole => rfl
        | fragment content ordinary size filled unreserved => exact absurd begins ordinary
      have behind := later.ascending single
      cases moves with
      | advance notStart _ _ _ _ => exact absurd begins notStart
      | restart _ _ _ =>
        subst nothing
        rw [start, counter]
        refine ⟨counter ▸ behind, ?_⟩
        simp [Statement.extent, begins]

end Emitting

/-! ### Records -/

/-- Whether an address is in the range of a text record. -/
def TextRecord.Covers (record : TextRecord) (address : Nat) : Prop :=
  record.address ≤ address ∧ address < record.address + record.size

/-- Whether text records tile a program of the given extent, but for the reserved bytes. -/
structure Tiles (texts : List TextRecord) (start length reserved : Nat) : Prop where
  nonempty : ∀ record ∈ texts, 0 < record.size
  ascending : texts.Pairwise fun earlier later => earlier.address < later.address
  disjoint : texts.Pairwise fun earlier later =>
    ∀ address, ¬ (earlier.Covers address ∧ later.Covers address)
  within : ∀ record ∈ texts, ∀ address, record.Covers address →
    start ≤ address ∧ address < start + length
  total : (texts.map TextRecord.size).sum + reserved = length

theorem map_fst_flatMap_image (texts : List TextRecord) :
    (texts.flatMap TextRecord.image).map Prod.fst =
      texts.flatMap fun record => List.range' record.address record.size := by
  rw [List.map_flatMap]
  refine congrArg (fun addresses => texts.flatMap addresses) (funext fun record => ?_)
  rw [TextRecord.image, map_fst_placedAt, record.length_toBytes]

theorem length_flatMap_image (texts : List TextRecord) :
    (texts.flatMap TextRecord.image).length = (texts.map TextRecord.size).sum := by
  rw [List.length_flatMap]
  refine congrArg List.sum (List.map_congr_left fun record _ => record.length_image)

/-- If the bytes of records that are not empty ascend, each record ends before the next begins. -/
theorem pairwise_limit_le {texts : List TextRecord} {first last : Nat}
    (nonempty : ∀ record ∈ texts, 0 < record.size)
    (ascending : Ascending first last ((texts.flatMap TextRecord.image).map Prod.fst)) :
    texts.Pairwise fun earlier later => earlier.limit ≤ later.address := by
  have ascends := ascending.ascends
  rw [map_fst_flatMap_image, List.pairwise_flatMap] at ascends
  refine ascends.2.imp_of_mem fun {earlier later} inTexts alsoInTexts before => ?_
  have positive := nonempty earlier inTexts
  have alsoPositive := nonempty later alsoInTexts
  have lastByte := before (earlier.limit - 1)
    (by rw [List.mem_range'_1, TextRecord.limit]; omega) later.address
    (by rw [List.mem_range'_1]; omega)
  omega

/-- The text records of a program with tracked addresses tile the extent that its header states,
if no start directive comes behind another statement. -/
theorem assemble_tiles (table : OpcodeTable) (options : Options) (source : String)
    (assembly : Assembly) (tracked : options.addressing = .tracked)
    (assembled : assemble table options source = .ok assembly)
    (single : ∀ statement ∈ assembly.layout.statements.tail, statement.operation ≠ .start) :
    ∃ name start length texts finish,
      assembly.records =
        .header name start length :: texts.map ObjectRecord.text ++ [.finish finish] ∧
      Tiles texts start length (assembly.layout.statements.map Statement.reserved).sum := by
  obtain ⟨emissions, last, emitting, start, length, records⟩ := assemble_tracked tracked assembled
  refine ⟨_, _, _, packTracked emissions, _, records, ?_⟩
  obtain ⟨ascending, reached⟩ := emitting.ascending_of_tail single
  have packed := flatMap_image_packTracked (emitting.contiguous fun _ absent => nomatch absent)
  have nonempty := size_pos_of_mem_packTracked emitting.filled
  rw [← packed] at ascending
  have apart := pairwise_limit_le nonempty ascending
  have whole : last.start + assembly.layout.program.length = last.counter := by
    rw [length]
    exact Nat.add_sub_cancel' ascending.ordered
  constructor
  case nonempty => exact nonempty
  case ascending =>
    refine apart.imp_of_mem fun {earlier later} inTexts _ before => ?_
    have positive := nonempty earlier inTexts
    rw [TextRecord.limit] at before
    omega
  case disjoint =>
    refine apart.imp fun {earlier later} before address both => ?_
    obtain ⟨⟨-, inEarlier⟩, ⟨inLater, -⟩⟩ := both
    rw [TextRecord.limit] at before
    omega
  case within =>
    intro record member address covered
    have inside : address ∈ (packTracked emissions).flatMap fun record =>
        List.range' record.address record.size :=
      List.mem_flatMap.mpr ⟨record, member, List.mem_range'_1.mpr covered⟩
    rw [← map_fst_flatMap_image] at inside
    rw [start, whole]
    exact ascending.within address inside
  case total =>
    have bytes := emitting.length_image_add_reserved
    rw [← packed, length_flatMap_image] at bytes
    omega

/-- The records of a program that reserves bytes, or none, and cuts a constant: 37 bytes in four
records, and six that are reserved. -/
theorem assemble_tiles_of_reservations :
    let first := "ABCDEFGHIJKLMNOPQRSTUVWXYZ0123"
    let texts : List TextRecord := [⟨0x10, [.instruction 0x00 0x0000]⟩,
      ⟨0x13, [.instruction 0x00 0x0000]⟩, ⟨0x1C, [.bytes first.toUTF8.data.toList]⟩,
      ⟨0x3A, [.bytes [0x34]]⟩]
    ∃ assembly, assemble .sicMachine {} ("P START 10\n LDA P\n RESB 0\n LDA\n RESW 2\n" ++
        " BYTE C'" ++ first ++ "4'\n END\n") = .ok assembly ∧
      (∀ statement ∈ assembly.layout.statements.tail, statement.operation ≠ .start) ∧
      (∃ name start length texts finish,
        assembly.records =
          .header name start length :: texts.map ObjectRecord.text ++ [.finish finish] ∧
        Tiles texts start length (assembly.layout.statements.map Statement.reserved).sum) ∧
      assembly.records =
        .header "COPY" 0x10 0x2B :: texts.map ObjectRecord.text ++ [.finish 0x10] ∧
      (assembly.layout.statements.map Statement.reserved).sum = 6 := by
  intro first texts
  refine exists_ok_and
    (fun assembly =>
      (∀ statement ∈ assembly.layout.statements.tail, statement.operation ≠ .start) ∧
      assembly.records =
        .header "COPY" 0x10 0x2B :: texts.map ObjectRecord.text ++ [.finish 0x10] ∧
      (assembly.layout.statements.map Statement.reserved).sum = 6)
    (by decide +kernel) fun assembly assembled checked => ?_
  obtain ⟨single, values⟩ := of_decide_eq_true checked
  exact ⟨single, assemble_tiles .sicMachine {} _ assembly rfl assembled single, values⟩

end SicAssembler
