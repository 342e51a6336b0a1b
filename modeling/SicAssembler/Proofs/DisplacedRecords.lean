/-
This file carries a displacement from statements to text records. A statement
at a displaced address emits the same fragment there, except that an
instruction whose operand is defined names the displaced address of that
operand. Packing looks at the sizes of fragments and at gaps, and neither
changes, so the records correspond one to one.

Addresses are reduced modulo the values of a machine word, and a displacement
does not survive that. It never happens: the pieces of a constant stay below the
bound because the constant does, and records in fixed steps stay below it
because each of them holds a byte of a program that fits into memory.
-/

import SicAssembler.Proofs.Addressing
import SicAssembler.Proofs.Displacement
import SicAssembler.Proofs.LocationCounter

namespace SicAssembler

/-! ### Fragments and emissions -/

/-- Whether a fragment is another one, or the same instruction with a displaced address. -/
inductive Fragment.Displaced (offset : Int) : Fragment → Fragment → Prop where
  | same (content : Fragment) : Displaced offset content content
  | target (opcode : UInt8) (address other : UInt16)
      (displaced : SicAssembler.Displaced offset address.toNat other.toNat) :
      Displaced offset (.instruction opcode address) (.instruction opcode other)

theorem Fragment.Displaced.size_eq {offset : Int} {content other : Fragment}
    (displaced : content.Displaced offset other) : other.size = content.size := by
  cases displaced <;> rfl

/-- Whether an emission is another one at a displaced address. -/
inductive Emission.Displaced (offset : Int) : Emission → Emission → Prop where
  | gap : Displaced offset .gap .gap
  | fragment {address other : Nat} {content otherContent : Fragment}
      (here : SicAssembler.Displaced offset address other)
      (contents : content.Displaced offset otherContent) :
      Displaced offset (.fragment address content) (.fragment other otherContent)

/-! ### What statements emit -/

namespace Statement

/-- Whether the operand of a statement is a symbol that is defined. -/
def NamesSymbol (statement : Statement) (symbols : SymbolTable) : Prop :=
  ∃ symbol, statement.operand? = some symbol ∧ symbols.contains symbol = true

/-- The addresses in an instruction before and after its symbols are displaced: an address that
comes from a symbol moves along with it, and any other address is kept. -/
inductive Retargets (statement : Statement) (offset : Int) (symbols : SymbolTable) :
    UInt16 → UInt16 → Prop where
  | moved {address other : UInt16} (defined : statement.NamesSymbol symbols)
      (displaced : SicAssembler.Displaced offset address.toNat other.toNat) :
      Retargets statement offset symbols address other
  | kept (address : UInt16) (undefined : ¬ statement.NamesSymbol symbols) :
      Retargets statement offset symbols address address

end Statement

namespace Statement.Displaced

variable {offset : Int} {statement other : Statement} {symbols otherSymbols : SymbolTable}

theorem targetAddress (displaced : statement.Displaced offset other)
    (tables : symbols.Displaced offset otherSymbols) (policy : Strictness)
    (notStart : statement.operation ≠ .start) :
    Follows (statement.Retargets offset symbols)
      (statement.targetAddress symbols policy) (other.targetAddress otherSymbols policy) := by
  unfold Statement.targetAddress
  rw [displaced.operand? notStart, displaced.line]
  cases operand : statement.operand? with
  | none =>
    refine .of_ok (.kept 0 ?_)
    rintro ⟨symbol, present, -⟩
    rw [operand] at present
    cases present
  | some symbol =>
    rcases tables.get?_cases symbol with ⟨absent, absentThere⟩ | ⟨address, otherAddress, found,
      foundThere, there⟩
    · simp only [absent, absentThere]
      cases policy with
      | lenient =>
        refine .of_ok (.kept 0 ?_)
        rintro ⟨_, present, known⟩
        rw [operand] at present
        cases present
        rw [← Dictionary.isSome_get?, absent] at known
        cases known
      | strict => exact .of_error
    · have defined : statement.NamesSymbol symbols := by
        refine ⟨symbol, operand, ?_⟩
        rw [← Dictionary.isSome_get?, found, Option.isSome_some]
      simp only [found, foundThere]
      by_cases near : address < targetCount
      · rw [if_pos near]
        by_cases nearThere : otherAddress < targetCount
        · rw [if_pos nearThere]
          refine .of_ok (.moved defined ?_)
          rw [UInt16.toNat_ofNat_of_lt' near, UInt16.toNat_ofNat_of_lt' nearThere]
          exact there
        · rw [if_neg nearThere]
          exact .of_outOfRange _ _
      · rw [if_neg near]
        exact .of_error

theorem word_eq (displaced : statement.Displaced offset other)
    (notStart : statement.operation ≠ .start) : other.word = statement.word := by
  unfold Statement.word operandFor malformed
  rw [displaced.operand? notStart, displaced.line]

theorem constant_eq (displaced : statement.Displaced offset other)
    (notStart : statement.operation ≠ .start) : other.constant = statement.constant := by
  unfold Statement.constant
  rw [displaced.operand? notStart, displaced.line]

theorem emission (displaced : statement.Displaced offset other)
    (tables : symbols.Displaced offset otherSymbols) (table : OpcodeTable) (policy : Strictness) :
    Follows (Emission.Displaced offset) (statement.emission table symbols policy)
      (other.emission table otherSymbols policy) := by
  unfold Statement.emission
  rw [displaced.operation]
  cases operation : statement.operation
  case start | finish | reserveWords | reserveBytes => exact .of_ok .gap
  -- No other operation is a start directive, so the operands are the same.
  all_goals
    have notStart : statement.operation ≠ .start := by
      rw [operation]
      exact Operation.noConfusion
  case word =>
    dsimp only
    rw [displaced.word_eq notStart]
    refine Follows.refl.bind ?_
    rintro value _ rfl
    exact .of_ok (.fragment displaced.address (.same _))
  case byte =>
    dsimp only
    rw [displaced.constant_eq notStart]
    refine Follows.refl.bind ?_
    rintro constant _ rfl
    exact .of_ok (.fragment displaced.address (.same _))
  case instruction =>
    have contents : Follows (Fragment.Displaced offset)
        (statement.instruction table symbols policy)
        (other.instruction table otherSymbols policy) := by
      unfold Statement.instruction
      rw [displaced.mnemonic, displaced.line]
      cases table.get? statement.mnemonic with
      | none => exact .of_error
      | some opcode =>
        refine (displaced.targetAddress tables policy notStart).bind ?_
        rintro address otherAddress (⟨-, there⟩ | -)
        · exact .of_ok (.target opcode address otherAddress there)
        · exact .of_ok (.same _)
    refine contents.bind fun content otherContent there => ?_
    exact .of_ok (.fragment displaced.address there)

end Statement.Displaced

/-! ### Packing -/

/-- Whether a text record is another one at a displaced address. -/
structure TextRecord.Displaced (offset : Int) (record other : TextRecord) : Prop where
  address : SicAssembler.Displaced offset record.address other.address
  fragments : List.Forall₂ (Fragment.Displaced offset) record.fragments other.fragments

namespace TextRecord.Displaced

variable {offset : Int} {record other : TextRecord}

theorem single {address otherAddress : Nat} {content otherContent : Fragment}
    (here : SicAssembler.Displaced offset address otherAddress)
    (contents : content.Displaced offset otherContent) :
    (TextRecord.single address content).Displaced offset
      (TextRecord.single otherAddress otherContent) :=
  ⟨here, .cons contents .nil⟩

theorem push {content otherContent : Fragment} (displaced : record.Displaced offset other)
    (contents : content.Displaced offset otherContent) :
    (record.push content).Displaced offset (other.push otherContent) :=
  ⟨displaced.address, List.rel_append displaced.fragments (.cons contents .nil)⟩

theorem size_eq (displaced : record.Displaced offset other) : other.size = record.size := by
  have fragments := displaced.fragments
  unfold TextRecord.size
  generalize record.fragments = contents at fragments ⊢
  generalize other.fragments = otherContents at fragments ⊢
  induction fragments with
  | nil => rfl
  | cons first rest inductionHypothesis =>
    rw [List.foldr_cons, List.foldr_cons, first.size_eq, inductionHypothesis]

theorem hasRoom_eq {content otherContent : Fragment} (displaced : record.Displaced offset other)
    (contents : content.Displaced offset otherContent) :
    other.hasRoom otherContent = record.hasRoom content := by
  unfold TextRecord.hasRoom
  rw [displaced.size_eq, contents.size_eq]

end TextRecord.Displaced

/-- Displaced emissions are packed into displaced records. -/
theorem pack_displaced {offset : Int} {pending otherPending : Option TextRecord}
    {emissions others : List Emission}
    (begun : Option.Rel (TextRecord.Displaced offset) pending otherPending)
    (displaced : List.Forall₂ (Emission.Displaced offset) emissions others) :
    List.Forall₂ (TextRecord.Displaced offset) (pack pending emissions)
      (pack otherPending others) := by
  have closed {pending otherPending : Option TextRecord}
      (begun : Option.Rel (TextRecord.Displaced offset) pending otherPending) :
      List.Forall₂ (TextRecord.Displaced offset) pending.toList otherPending.toList := by
    cases begun with
    | none => exact .nil
    | some holds => exact .cons holds .nil
  induction displaced generalizing pending otherPending with
  | nil =>
    rw [pack, pack]
    exact closed begun
  | cons first rest inductionHypothesis =>
    cases first with
    | gap =>
      rw [pack, pack]
      exact List.rel_append (closed begun) (inductionHypothesis .none)
    | fragment here contents =>
      cases begun with
      | none =>
        rw [pack, pack]
        exact inductionHypothesis (.some (.single here contents))
      | @some record other holds =>
        rw [pack, pack, holds.hasRoom_eq contents]
        split
        · exact inductionHypothesis (.some (holds.push contents))
        · exact .cons holds (inductionHypothesis (.some (.single here contents)))

/-! ### Tracked addresses -/

/-- Whether an emission ends below the number of values of a machine word. -/
def Emission.InRange : Emission → Prop
  | .fragment address content => address + content.size < addressWrap
  | .gap => True

theorem Contiguous.inRange {reached : Option Nat} {emissions : List Emission}
    (contiguous : Contiguous reached emissions) : ∀ emission ∈ emissions, emission.InRange := by
  induction emissions generalizing reached with
  | nil => exact List.forall_mem_nil _
  | cons emission rest inductionHypothesis =>
    obtain ⟨next, joined⟩ := contiguous.tail
    refine List.forall_mem_cons.mpr ⟨?_, inductionHypothesis joined⟩
    cases emission with
    | gap => trivial
    | fragment address content => exact contiguous.2.1

theorem cutBytes_displaced {offset : Int} {address other : Nat} (bound : Nat) {data : List UInt8}
    (displaced : Displaced offset address other) (inRange : address + data.length < addressWrap)
    (otherInRange : other + data.length < addressWrap) :
    List.Forall₂ (Emission.Displaced offset) (cutBytes address bound data)
      (cutBytes other bound data) := by
  induction bound generalizing address other data with
  | zero => exact .cons (.fragment displaced (.same _)) .nil
  | succ bound inductionHypothesis =>
    by_cases short : data.length ≤ recordCapacity
    · rw [cutBytes, cutBytes, if_pos short, if_pos short]
      exact .cons (.fragment displaced (.same _)) .nil
    · have remaining : (data.drop recordCapacity).length = data.length - recordCapacity :=
        List.length_drop
      have behind : Displaced offset (address + recordCapacity) (other + recordCapacity) := by
        unfold Displaced at displaced ⊢
        omega
      rw [cutBytes_of_long bound short inRange, cutBytes_of_long bound short otherInRange]
      exact .cons (.fragment displaced (.same _))
        (inductionHypothesis behind (by omega) (by omega))

theorem Emission.Displaced.cut {offset : Int} {emission other : Emission}
    (displaced : emission.Displaced offset other) (inRange : emission.InRange)
    (otherInRange : other.InRange) :
    List.Forall₂ (Emission.Displaced offset) emission.cut other.cut := by
  cases displaced with
  | gap => exact .cons .gap .nil
  | @fragment address other content _ here contents =>
    cases contents with
    | target opcode target otherTarget there =>
      exact .cons (.fragment here (.target opcode target otherTarget there)) .nil
    | same =>
      cases content with
      | bytes data => exact cutBytes_displaced data.length here inRange otherInRange
      | word value => exact .cons (.fragment here (.same _)) .nil
      | instruction opcode target => exact .cons (.fragment here (.same _)) .nil

theorem packTracked_displaced {offset : Int} {emissions others : List Emission}
    (displaced : List.Forall₂ (Emission.Displaced offset) emissions others)
    (inRange : ∀ emission ∈ emissions, emission.InRange)
    (othersInRange : ∀ other ∈ others, other.InRange) :
    List.Forall₂ (TextRecord.Displaced offset) (packTracked emissions) (packTracked others) := by
  refine pack_displaced .none ?_
  induction displaced with
  | nil => exact .nil
  | cons first rest inductionHypothesis =>
    obtain ⟨firstInRange, restInRange⟩ := List.forall_mem_cons.mp inRange
    obtain ⟨otherInRange, othersRest⟩ := List.forall_mem_cons.mp othersInRange
    rw [List.flatMap_cons, List.flatMap_cons]
    exact List.rel_append (first.cut firstInRange otherInRange)
      (inductionHypothesis restInRange othersRest)

/-! ### Addresses in fixed steps -/

/-- There are at most as many records as fragments. -/
theorem length_pack_le (pending : Option TextRecord) (emissions : List Emission) :
    (pack pending emissions).length ≤
      pending.toList.length + (emissions.filterMap Emission.content?).length := by
  fun_induction pack pending emissions with
  | case1 pending => exact Nat.le_add_right _ _
  | case2 pending rest inductionHypothesis =>
    have later : (pack none rest).length ≤ (rest.filterMap Emission.content?).length := by
      simpa using inductionHypothesis
    rw [List.length_append]
    exact Nat.add_le_add_left later _
  | case3 address content rest inductionHypothesis =>
    refine Nat.le_trans inductionHypothesis ?_
    show 1 + (rest.filterMap Emission.content?).length ≤
      0 + ((rest.filterMap Emission.content?).length + 1)
    omega
  | case4 record address content rest room inductionHypothesis =>
    refine Nat.le_trans inductionHypothesis ?_
    show 1 + (rest.filterMap Emission.content?).length ≤
      1 + ((rest.filterMap Emission.content?).length + 1)
    omega
  | case5 record address content rest full inductionHypothesis =>
    rw [List.length_cons]
    refine Nat.le_trans (Nat.succ_le_succ inductionHypothesis) ?_
    show 1 + (rest.filterMap Emission.content?).length + 1 ≤
      1 + ((rest.filterMap Emission.content?).length + 1)
    omega

theorem forall₂_mapIdx {First Second Third Fourth : Type} {related : First → Second → Prop}
    {after : Third → Fourth → Prop} {items : List First} {others : List Second}
    {change : Nat → First → Third} {otherChange : Nat → Second → Fourth}
    (items_related : List.Forall₂ related items others)
    (goesOn : ∀ index item other, index < items.length → related item other →
      after (change index item) (otherChange index other)) :
    List.Forall₂ after (items.mapIdx change) (others.mapIdx otherChange) := by
  induction items_related generalizing change otherChange with
  | nil => exact .nil
  | cons first rest inductionHypothesis =>
    rw [List.mapIdx_cons, List.mapIdx_cons]
    refine .cons (goesOn 0 _ _ (Nat.zero_lt_succ _) first) (inductionHypothesis ?_)
    exact fun index item other inside holds =>
      goesOn (index + 1) item other (Nat.succ_lt_succ inside) holds

theorem packFixed_displaced {offset : Int} {start otherStart : Nat}
    {emissions others : List Emission} (displaced : Displaced offset start otherStart)
    (emitted : List.Forall₂ (Emission.Displaced offset) emissions others)
    (inRange : start < addressCount) (otherInRange : otherStart < addressCount)
    (few : (emissions.filterMap Emission.content?).length ≤ addressCount) :
    List.Forall₂ (TextRecord.Displaced offset) (packFixed start emissions)
      (packFixed otherStart others) := by
  have fragments : List.Forall₂ (Emission.Displaced offset)
      (emissions.filter Emission.isFragment) (others.filter Emission.isFragment) := by
    refine List.rel_filter ?_ emitted
    intro emission other there
    cases there <;> exact Iff.rfl
  refine forall₂_mapIdx (pack_displaced .none fragments) fun index record other inside there => ?_
  have count := length_pack_le none (emissions.filter Emission.isFragment)
  rw [filterMap_content?_filter, Option.toList_none, List.length_nil, Nat.zero_add] at count
  have early : index < addressCount := Nat.lt_of_lt_of_le inside (Nat.le_trans count few)
  -- Even the last record of a full memory lies far below the values of a machine word.
  have noWrap {first : Nat} (low : first < addressCount) :
      (first + recordStep * index) % addressWrap = first + recordStep * index := by
    refine Nat.mod_eq_of_lt ?_
    unfold recordStep addressWrap
    unfold addressCount at early low
    omega
  refine ⟨?_, there.fragments⟩
  show Displaced offset ((start + recordStep * index) % addressWrap)
    ((otherStart + recordStep * index) % addressWrap)
  rw [noWrap inRange, noWrap otherInRange]
  unfold Displaced at displaced ⊢
  omega

end SicAssembler
