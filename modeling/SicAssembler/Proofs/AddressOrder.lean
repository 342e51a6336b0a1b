/-
This file says when the addresses of a layout are in order: when they never
decrease from one statement to the next, and when all of them lie within the
extent of the program. Between start directives both are so, because the
counter only ever moves on. A start directive may name any address, though,
and the program then begins there, so whatever stands before it is left behind.

Hence the order of a whole layout hangs on the statements that some start
directive follows: addresses are in order exactly if all of these stand where
the program begins. One direction needs the last start directive, which lies
at the start of the program; if addresses never decrease, no other start
directive can lie beyond it.
-/

import SicAssembler.Proofs.LocationCounter

namespace SicAssembler

/-! ### One step -/

/-- A statement stands at the start of the program or behind it, as far as its step knows. -/
theorem Cursor.Moves.start_le_address {cursor moved : Cursor} {statement : Statement}
    (moves : cursor.Moves statement moved) (ordered : cursor.start ≤ cursor.counter) :
    moved.start ≤ statement.address := by
  cases moves with
  | restart begins named inRange => exact Nat.le_refl _
  | advance ordinary continues here measured inRange =>
    rw [here]
    exact ordered

/-! ### Whole walks -/

namespace Traces

variable {cursor last : Cursor} {statements : List Statement} {terminated : Bool}

/-- Addresses go back at start directives only. -/
theorem isChain_address_le (traces : Traces cursor statements last terminated) :
    statements.IsChain fun previous statement =>
      statement.operation ≠ .start → previous.address ≤ statement.address := by
  refine traces.isChain.imp fun previous statement behind ordinary => ?_
  rw [behind ordinary]
  exact Nat.le_add_right _ _

/-- A statement that no start directive follows lies between the start and the last counter. -/
theorem address_within (traces : Traces cursor statements last terminated)
    (ordered : cursor.start ≤ cursor.counter) {before after : List Statement}
    {statement : Statement} (parts : statements = before ++ statement :: after)
    (ordinary : ∀ later ∈ after, later.operation ≠ .start) :
    last.start ≤ statement.address ∧ statement.address ≤ last.counter := by
  induction traces generalizing before with
  | exhausted cursor => cases before <;> cases parts
  | @closed cursor closing closes =>
    obtain ⟨rfl, rfl, rfl⟩ : before = [] ∧ closing = statement ∧ after = [] := by
      cases before with
      | nil =>
        cases parts
        exact ⟨rfl, rfl, rfl⟩
      | cons head rest => cases rest <;> cases parts
    rw [closes.here]
    exact ⟨ordered, Nat.le_refl _⟩
  | @step cursor moved last head rest terminated moves later inductionHypothesis =>
    cases before with
    | nil =>
      cases parts
      obtain ⟨start, counter⟩ := later.of_no_start ordinary
      rw [start, counter, moves.counter_eq, Nat.add_assoc]
      exact ⟨moves.start_le_address ordered, Nat.le_add_right _ _⟩
    | cons first others =>
      cases parts
      exact inductionHypothesis (moves.start_le_counter ordered) rfl

/-- If addresses never decrease, no start directive lies beyond the start of the program. -/
theorem start_address_le (traces : Traces cursor statements last terminated)
    (ascends : statements.Pairwise fun earlier later => earlier.address ≤ later.address) :
    ∀ statement ∈ statements, statement.operation = .start → statement.address ≤ last.start := by
  induction traces with
  | exhausted cursor => exact List.forall_mem_nil _
  | closed closes =>
    refine List.forall_mem_singleton.mpr fun begins => ?_
    rw [closes.finishes] at begins
    cases begins
  | @step cursor moved last head rest terminated moves later inductionHypothesis =>
    obtain ⟨first, behind⟩ := List.pairwise_cons.mp ascends
    refine List.forall_mem_cons.mpr ⟨fun begins => ?_, inductionHypothesis behind⟩
    by_cases ordinary : ∀ other ∈ rest, other.operation ≠ .start
    · -- This is the last start directive, so the program begins here.
      rw [(later.of_no_start ordinary).1]
      cases moves with
      | restart _ _ _ => exact Nat.le_refl _
      | advance notStart _ _ _ _ => exact absurd begins notStart
    · simp only [not_forall, not_not] at ordinary
      obtain ⟨other, inRest, otherBegins⟩ := ordinary
      exact Nat.le_trans (first other inRest) (inductionHypothesis behind other inRest otherBegins)

end Traces

/-! ### The law -/

namespace Layout

/-- Whether addresses never decrease from one statement to the next. -/
def AddressesAscend (layout : Layout) : Prop :=
  layout.statements.IsChain fun previous statement => previous.address ≤ statement.address

/-- Whether every statement lies between the start of the program and its end. -/
def CoversStatements (layout : Layout) : Prop :=
  ∀ statement ∈ layout.statements, layout.program.start ≤ statement.address ∧
    statement.address ≤ layout.program.start + layout.program.length

/-- Whether every statement that a start directive follows stands where the program begins. -/
def StartsInPlace (layout : Layout) : Prop :=
  layout.statements.Pairwise fun earlier later =>
    later.operation = .start → earlier.address = layout.program.start

instance : DecidablePred AddressesAscend := fun layout =>
  inferInstanceAs (Decidable (layout.statements.IsChain _))

instance : DecidablePred CoversStatements := fun layout =>
  inferInstanceAs (Decidable (∀ statement ∈ layout.statements, _))

instance : DecidablePred StartsInPlace := fun layout =>
  inferInstanceAs (Decidable (layout.statements.Pairwise _))

/-- The law of the order of addresses. -/
structure OrderLaw (layout : Layout) : Prop where
  /-- Addresses go back at start directives only. -/
  back_at_start : layout.statements.IsChain fun previous statement =>
    statement.operation ≠ .start → previous.address ≤ statement.address
  /-- From the last start directive on, every statement is within the program. -/
  covered : ∀ before statement after, layout.statements = before ++ statement :: after →
    (∀ later ∈ after, later.operation ≠ .start) →
      layout.program.start ≤ statement.address ∧
        statement.address ≤ layout.program.start + layout.program.length
  /-- All addresses are in order exactly if the start directives are in place. -/
  ordered_iff : layout.AddressesAscend ∧ layout.CoversStatements ↔ layout.StartsInPlace

variable {table : OpcodeTable} {options : Options} {lines : List String} {layout : Layout}

/-- A program reaches as far as the counter of its walk got. -/
theorem ofLines_reaches (laidOut : ofLines table options lines = .ok layout) :
    ∃ last terminated, Traces {} layout.statements last terminated ∧
      layout.program.start = last.start ∧
      layout.program.start + layout.program.length = last.counter := by
  obtain ⟨found, walks, rfl⟩ := ofLines_eq_ok laidOut
  have traces := walk_traces walks
  exact ⟨_, _, traces, rfl, Nat.add_sub_cancel' (traces.start_le_counter (Nat.le_refl 0))⟩

theorem covered_of_no_later_start (laidOut : ofLines table options lines = .ok layout)
    {before after : List Statement} {statement : Statement}
    (parts : layout.statements = before ++ statement :: after)
    (ordinary : ∀ later ∈ after, later.operation ≠ .start) :
    layout.program.start ≤ statement.address ∧
      statement.address ≤ layout.program.start + layout.program.length := by
  obtain ⟨last, terminated, traces, start, reached⟩ := ofLines_reaches laidOut
  rw [start] at reached ⊢
  rw [reached]
  exact traces.address_within (Nat.le_refl 0) parts ordinary

theorem coversStatements_of_startsInPlace (laidOut : ofLines table options lines = .ok layout)
    (inPlace : layout.StartsInPlace) : layout.CoversStatements := by
  intro statement member
  obtain ⟨before, after, parts⟩ := List.append_of_mem member
  by_cases ordinary : ∀ later ∈ after, later.operation ≠ .start
  · exact covered_of_no_later_start laidOut parts ordinary
  · simp only [not_forall, not_not] at ordinary
    obtain ⟨later, inAfter, begins⟩ := ordinary
    unfold StartsInPlace at inPlace
    rw [parts, List.pairwise_append, List.pairwise_cons] at inPlace
    rw [inPlace.2.1.1 later inAfter begins]
    exact ⟨Nat.le_refl _, Nat.le_add_right _ _⟩

theorem addressesAscend_of_startsInPlace (laidOut : ofLines table options lines = .ok layout)
    (inPlace : layout.StartsInPlace) : layout.AddressesAscend := by
  obtain ⟨last, terminated, traces, -, -⟩ := ofLines_reaches laidOut
  have covers := coversStatements_of_startsInPlace laidOut inPlace
  refine List.isChain_iff_getElem.mpr fun index inside => ?_
  by_cases begins : layout.statements[index + 1].operation = .start
  · rw [inPlace.isChain.getElem index inside begins]
    exact (covers _ (List.getElem_mem inside)).1
  · exact traces.isChain_address_le.getElem index inside begins

theorem startsInPlace_of_addressesAscend (laidOut : ofLines table options lines = .ok layout)
    (ascends : layout.AddressesAscend) (covers : layout.CoversStatements) :
    layout.StartsInPlace := by
  obtain ⟨last, terminated, traces, start, -⟩ := ofLines_reaches laidOut
  have chain : (layout.statements.map Statement.address).IsChain (· ≤ ·) :=
    (List.isChain_map _).mpr ascends
  have pairs : layout.statements.Pairwise fun earlier later =>
      earlier.address ≤ later.address := List.pairwise_map.mp chain.pairwise
  refine pairs.imp_of_mem fun {earlier later} inLayout alsoInLayout before begins => ?_
  refine Nat.le_antisymm ?_ (covers earlier inLayout).1
  rw [start]
  exact Nat.le_trans before (traces.start_address_le pairs later alsoInLayout begins)

/-- Every layout obeys the law: addresses go back at start directives only, the statements from
the last one on are within the program, and all statements are in order exactly if each one that
a start directive follows stands where the program begins. -/
theorem ofLines_orderLaw (table : OpcodeTable) (options : Options) (lines : List String)
    (layout : Layout) (laidOut : ofLines table options lines = .ok layout) :
    layout.OrderLaw := by
  constructor
  case back_at_start =>
    obtain ⟨last, terminated, traces, -, -⟩ := ofLines_reaches laidOut
    exact traces.isChain_address_le
  case covered =>
    intro before statement after parts ordinary
    exact covered_of_no_later_start laidOut parts ordinary
  case ordered_iff =>
    constructor
    · rintro ⟨ascends, covers⟩
      exact startsInPlace_of_addressesAscend laidOut ascends covers
    · intro inPlace
      exact ⟨addressesAscend_of_startsInPlace laidOut inPlace,
        coversStatements_of_startsInPlace laidOut inPlace⟩

/-- The law for a program whose second start directive names the address that was reached. -/
theorem orderLaw_of_start_in_place :
    ∃ layout, ofLines .sicMachine {}
        ["P START 1000", " RESB 0", "Q START 1000", "A LDA A", " END"] = .ok layout ∧
      layout.StartsInPlace ∧ layout.AddressesAscend ∧ layout.CoversStatements := by
  refine exists_ok_and (fun layout => decide layout.StartsInPlace) (by decide +kernel)
    fun layout laidOut checked => ?_
  have inPlace : layout.StartsInPlace := of_decide_eq_true checked
  have law := ofLines_orderLaw .sicMachine {} _ layout laidOut
  exact ⟨inPlace, law.ordered_iff.mpr inPlace⟩

/-- A start directive that goes back: addresses decrease, and the statements before it lie beyond
the end of the program. -/
theorem addresses_decrease_at_start :
    ∃ layout, ofLines .sicMachine {} ["P START 1000", " RSUB", "Q START 0", " RSUB", " END"] =
        .ok layout ∧
      ¬ layout.AddressesAscend ∧ ¬ layout.CoversStatements := by
  refine exists_ok_and
    (fun layout => decide (¬ layout.AddressesAscend ∧ ¬ layout.CoversStatements))
    (by decide +kernel) fun layout _ checked => of_decide_eq_true checked

end Layout

end SicAssembler
