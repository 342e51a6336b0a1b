/-
This file proves that text records are packed greedily. No record is empty, and
none holds more than thirty bytes unless it holds a single fragment, which
happens only where nothing is cut. A record ends for one of two reasons: the
next fragment does not fit into it, or, under tracked addresses, a statement
that leaves a gap comes next.

The second reason is about statements, of which the records show nothing. It is
stated by cutting the program in two at such a statement: what is before it
contributes exactly the fragments up to the end of the record, and what is
behind it exactly those from the next record on. Packing splits at a gap in the
same way, and the emissions of a program correspond to its statements one by
one, so the cut of the one is a cut of the other.
-/

import SicAssembler.Proofs.Addressing

namespace SicAssembler

/-! ### What becomes of a fragment -/

/-- The fragments of the text records that one fragment of the program becomes. -/
inductive Divided : RecordAddressing → Fragment → List Fragment → Prop where
  /-- A fragment that a record can hold stays whole, and under fixed steps all others do too. -/
  | whole {addressing : RecordAddressing} {content : Fragment}
      (fits : addressing = .tracked → content.size ≤ 30) : Divided addressing content [content]
  /-- A longer constant is cut into full pieces and a last one, which is not empty. -/
  | cut {data : List UInt8} (long : 30 < data.length) (full : List (List UInt8))
      (last : List UInt8) (parts : full.flatten ++ last = data)
      (filled : ∀ piece ∈ full, piece.length = 30) (begun : 1 ≤ last.length)
      (fits : last.length ≤ 30) :
      Divided .tracked (.bytes data) (full.map .bytes ++ [.bytes last])

/-- Cutting one full piece after the other gives full pieces and a last one. -/
theorem CutInto.divided {content : Fragment} {pieces : List Fragment}
    (cut : CutInto content pieces) : Divided .tracked content pieces := by
  induction cut with
  | whole content fits => exact .whole fun _ => fits
  | piece first rest pieces full more later inductionHypothesis =>
    have positive : 0 < rest.length := List.length_pos_iff.mpr more
    have long : 30 < (first ++ rest).length := by
      rw [List.length_append, full, recordCapacity]
      omega
    cases inductionHypothesis with
    | whole fits =>
      exact .cut long [first] rest (by simp) (List.forall_mem_singleton.mpr full) positive
        (fits rfl)
    | cut _ others last parts filled begun fits =>
      refine .cut long (first :: others) last ?_ (List.forall_mem_cons.mpr ⟨full, filled⟩) begun
        fits
      rw [List.flatten_cons, List.append_assoc, parts]

theorem CutInto.size_le {content : Fragment} {pieces : List Fragment}
    (cut : CutInto content pieces) : ∀ piece ∈ pieces, piece.size ≤ recordCapacity := by
  induction cut with
  | whole content fits => exact List.forall_mem_singleton.mpr fits
  | piece first rest pieces full more later inductionHypothesis =>
    exact List.forall_mem_cons.mpr ⟨Nat.le_of_eq full, inductionHypothesis⟩

/-- The fragments that statements contribute to the text records of a program. -/
inductive Contributed (table : OpcodeTable) (symbols : SymbolTable) (policy : Strictness)
    (addressing : RecordAddressing) : List Statement → List Fragment → Prop where
  | nil : Contributed table symbols policy addressing [] []
  | silent {statement : Statement} {rest : List Statement} {fragments : List Fragment}
      (emitted : statement.emission table symbols policy = .ok .gap)
      (later : Contributed table symbols policy addressing rest fragments) :
      Contributed table symbols policy addressing (statement :: rest) fragments
  | placed {statement : Statement} {rest : List Statement} {address : Nat} {content : Fragment}
      {pieces fragments : List Fragment}
      (emitted : statement.emission table symbols policy = .ok (.fragment address content))
      (divided : Divided addressing content pieces)
      (later : Contributed table symbols policy addressing rest fragments) :
      Contributed table symbols policy addressing (statement :: rest) (pieces ++ fragments)

/-! ### Two records in a row -/

/-- The open record begins the first record that is packed. -/
theorem fragments_prefix_of_pack {record first : TextRecord} {emissions : List Emission}
    {rest : List TextRecord} (packed : pack (some record) emissions = first :: rest) :
    record.fragments <+: first.fragments := by
  induction emissions generalizing record with
  | nil =>
    cases packed
    exact List.prefix_rfl
  | cons emission later inductionHypothesis =>
    cases emission with
    | gap =>
      cases packed
      exact List.prefix_rfl
    | fragment address content =>
      rw [pack] at packed
      split at packed
      · exact (List.prefix_append _ _).trans (inductionHypothesis packed)
      · cases packed
        exact List.prefix_rfl

/-- A record ends before a fragment that it has no room for, or at a gap. At a gap the packing
falls into two: one of what is before the gap, and one of what is behind it. -/
theorem pack_eq_append {pending : Option TextRecord} {emissions : List Emission}
    {before after : List TextRecord} {first second : TextRecord}
    (packed : pack pending emissions = before ++ first :: second :: after) :
    (∃ content, second.fragments.head? = some content ∧ first.hasRoom content = false) ∨
    ∃ front back, emissions = front ++ .gap :: back ∧
      pack pending front = before ++ [first] ∧ pack none back = second :: after := by
  fun_induction pack pending emissions generalizing before with
  | case1 pending =>
    have lengths := congrArg List.length packed
    cases pending <;> simp at lengths
    omega
  | case2 pending rest inductionHypothesis =>
    cases pending with
    | none =>
      refine (inductionHypothesis packed).imp_right ?_
      rintro ⟨front, back, rfl, ends, begins⟩
      exact ⟨.gap :: front, back, rfl, ends, begins⟩
    | some record =>
      cases before with
      | nil =>
        obtain ⟨rfl, begins⟩ := List.cons.inj packed
        exact Or.inr ⟨[], rest, rfl, rfl, begins⟩
      | cons head others =>
        obtain ⟨rfl, behind⟩ := List.cons.inj packed
        refine (inductionHypothesis behind).imp_right ?_
        rintro ⟨front, back, rfl, ends, begins⟩
        exact ⟨.gap :: front, back, rfl, congrArg (record :: ·) ends, begins⟩
  | case3 address content rest inductionHypothesis =>
    refine (inductionHypothesis packed).imp_right ?_
    rintro ⟨front, back, rfl, ends, begins⟩
    exact ⟨.fragment address content :: front, back, rfl, ends, begins⟩
  | case4 record address content rest room inductionHypothesis =>
    refine (inductionHypothesis packed).imp_right ?_
    rintro ⟨front, back, rfl, ends, begins⟩
    refine ⟨.fragment address content :: front, back, rfl, ?_, begins⟩
    rw [pack, if_pos room, ends]
  | case5 record address content rest full inductionHypothesis =>
    cases before with
    | nil =>
      -- The record is complete, and the fragment that did not fit opens the next one.
      obtain ⟨rfl, begins⟩ := List.cons.inj packed
      obtain ⟨more, same⟩ := fragments_prefix_of_pack begins
      refine Or.inl ⟨content, ?_, Bool.eq_false_iff.mpr full⟩
      rw [← same]
      rfl
    | cons head others =>
      obtain ⟨rfl, behind⟩ := List.cons.inj packed
      refine (inductionHypothesis behind).imp_right ?_
      rintro ⟨front, back, rfl, ends, begins⟩
      refine ⟨.fragment address content :: front, back, rfl, ?_, begins⟩
      rw [pack, if_neg full, ends]
      rfl

theorem lt_size_of_hasRoom {record : TextRecord} {content : Fragment}
    (full : record.hasRoom content = false) : 30 < record.size + content.size :=
  Nat.lt_of_not_le (of_decide_eq_false full)

/-! ### Gaps between emissions -/

theorem gap_not_mem_cutBytes (address bound : Nat) (data : List UInt8) :
    Emission.gap ∉ cutBytes address bound data := by
  induction bound generalizing address data with
  | zero => simp [cutBytes]
  | succ bound inductionHypothesis =>
    rw [cutBytes]
    split
    · simp
    · simp [inductionHypothesis]

/-- A fragment is cut without gaps between its pieces. -/
theorem gap_not_mem_cut (address : Nat) (content : Fragment) :
    Emission.gap ∉ (Emission.fragment address content).cut := by
  cases content with
  | bytes data => exact gap_not_mem_cutBytes address data.length data
  | word value => simp [Emission.cut]
  | instruction opcode target => simp [Emission.cut]

/-- A gap between the pieces of emissions is a gap between the emissions. -/
theorem exists_append_of_flatMap_cut {emissions front back : List Emission}
    (parts : emissions.flatMap Emission.cut = front ++ .gap :: back) :
    ∃ before after, emissions = before ++ .gap :: after ∧
      before.flatMap Emission.cut = front ∧ after.flatMap Emission.cut = back := by
  induction emissions generalizing front with
  | nil => simp at parts
  | cons emission rest inductionHypothesis =>
    rw [List.flatMap_cons] at parts
    cases emission with
    | gap =>
      cases front with
      | nil => exact ⟨[], rest, rfl, rfl, (List.cons.inj parts).2⟩
      | cons head others =>
        obtain ⟨rfl, behind⟩ := List.cons.inj parts
        obtain ⟨before, after, rfl, rfl, rfl⟩ := inductionHypothesis behind
        exact ⟨.gap :: before, after, rfl, rfl, rfl⟩
    | fragment address content =>
      rcases List.append_eq_append_iff.mp parts with ⟨more, rfl, behind⟩ | ⟨more, same, behind⟩
      · obtain ⟨before, after, rfl, rfl, rfl⟩ := inductionHypothesis behind
        exact ⟨.fragment address content :: before, after, rfl, rfl, rfl⟩
      · -- The gap would be one of the pieces, or right behind them.
        cases more with
        | nil =>
          have next : rest.flatMap Emission.cut = [] ++ .gap :: back := behind.symm
          obtain ⟨before, after, rfl, empty, rfl⟩ := inductionHypothesis next
          refine ⟨.fragment address content :: before, after, rfl, ?_, rfl⟩
          rw [List.flatMap_cons, empty, List.append_nil, same, List.append_nil]
        | cons piece others =>
          obtain ⟨rfl, -⟩ := List.cons.inj behind
          refine absurd ?_ (gap_not_mem_cut address content)
          rw [same]
          exact List.mem_append_right _ List.mem_cons_self

/-! ### What statements contribute -/

/-- The fragments of emissions as they come into records. -/
def piecesOf : RecordAddressing → List Emission → List Fragment
  | .tracked, emissions => (emissions.flatMap Emission.cut).filterMap Emission.content?
  | .fixedIncrement, emissions => emissions.filterMap Emission.content?

@[simp]
theorem piecesOf_nil (addressing : RecordAddressing) : piecesOf addressing [] = [] := by
  cases addressing <;> rfl

@[simp]
theorem piecesOf_gap (addressing : RecordAddressing) (emissions : List Emission) :
    piecesOf addressing (.gap :: emissions) = piecesOf addressing emissions := by
  cases addressing <;> rfl

theorem flatMap_fragments_textRecords (addressing : RecordAddressing) (start : Nat)
    (emissions : List Emission) :
    (ObjectProgram.textRecords addressing start emissions).flatMap TextRecord.fragments =
      piecesOf addressing emissions := by
  cases addressing with
  | tracked => exact flatMap_fragments_packTracked emissions
  | fixedIncrement => exact flatMap_fragments_packFixed start emissions

section

variable {table : OpcodeTable} {symbols : SymbolTable} {policy : Strictness}
  {addressing : RecordAddressing}

/-- A statement contributes the pieces of its emission, in front of what the others contribute. -/
theorem Contributed.cons {statement : Statement} {rest : List Statement} {emission : Emission}
    {emissions : List Emission} (emitted : statement.emission table symbols policy = .ok emission)
    (later : Contributed table symbols policy addressing rest (piecesOf addressing emissions)) :
    Contributed table symbols policy addressing (statement :: rest)
      (piecesOf addressing (emission :: emissions)) := by
  cases emission with
  | gap =>
    rw [piecesOf_gap]
    exact .silent emitted later
  | fragment address content =>
    cases addressing with
    | tracked =>
      rw [piecesOf, List.flatMap_cons, List.filterMap_append]
      exact .placed emitted (cutInto_cut address content).divided later
    | fixedIncrement =>
      have kept : Divided .fixedIncrement content [content] := .whole nofun
      exact .placed emitted kept later

/-- Whether a statement puts a gap between what comes before it and what comes behind it. -/
def Statement.DividesRecords (statement : Statement) : Prop :=
  statement.operation = .start ∨ statement.operation = .reserveWords ∨
    statement.operation = .reserveBytes

theorem Statement.dividesRecords_of_emission {statement : Statement}
    (continues : statement.operation ≠ .finish)
    (emitted : statement.emission table symbols policy = .ok .gap) :
    statement.DividesRecords := by
  unfold Statement.emission at emitted
  unfold Statement.DividesRecords
  cases operation : statement.operation <;> simp only [operation] at emitted ⊢
  case start | reserveWords | reserveBytes => decide
  case finish => exact absurd operation continues
  case word | byte | instruction =>
    obtain ⟨content, -, result⟩ := bind_eq_ok_iff.mp emitted
    cases result

namespace Emitting

variable {cursor last : Cursor} {statements : List Statement} {emissions : List Emission}

/-- The statements of a walk contribute the pieces of their emissions. -/
theorem contributed (emitting : Emitting table symbols policy cursor statements last emissions) :
    Contributed table symbols policy addressing statements (piecesOf addressing emissions) := by
  induction emitting with
  | exhausted cursor =>
    rw [piecesOf_nil]
    exact .nil
  | closed closes =>
    rw [piecesOf_nil]
    exact .silent (by simp only [Statement.emission, closes.finishes]) .nil
  | step moves emitted later inductionHypothesis => exact .cons emitted inductionHypothesis

/-- A gap between the emissions of a walk is left by a statement that divides the records, and the
emissions before and behind it are those of the statements before and behind that one. -/
theorem exists_append (addressing : RecordAddressing)
    (emitting : Emitting table symbols policy cursor statements last emissions)
    {front back : List Emission} (parts : emissions = front ++ .gap :: back) :
    ∃ before statement after, statements = before ++ statement :: after ∧
      statement.DividesRecords ∧
      Contributed table symbols policy addressing before (piecesOf addressing front) ∧
      Contributed table symbols policy addressing after (piecesOf addressing back) := by
  induction emitting generalizing front with
  | exhausted cursor => simp at parts
  | closed closes => simp at parts
  | @step cursor moved last statement rest emission emissions moves emitted later
      inductionHypothesis =>
    cases front with
    | nil =>
      obtain ⟨rfl, rfl⟩ := List.cons.inj parts
      refine ⟨[], statement, rest, rfl, ?_, ?_, later.contributed⟩
      · exact Statement.dividesRecords_of_emission moves.continues emitted
      · rw [piecesOf_nil]
        exact .nil
    | cons head others =>
      obtain ⟨rfl, behind⟩ := List.cons.inj parts
      obtain ⟨before, dividing, after, rfl, divides, first, second⟩ := inductionHypothesis behind
      exact ⟨statement :: before, dividing, after, rfl, divides, .cons emitted first, second⟩

end Emitting

end

/-! ### Bounds -/

/-- Fragments that a record can hold are packed into records that hold no more. -/
theorem size_le_of_mem_pack {emissions : List Emission}
    (fits : ∀ emission ∈ emissions, ∀ content ∈ emission.content?, content.size ≤ 30) :
    ∀ record ∈ pack none emissions, record.size ≤ 30 := by
  refine forall_mem_pack (fun address content fits => ?_)
    (fun record address content _ room _ => ?_) (fun _ absent => nomatch absent) fits
  · rw [TextRecord.size_single]
    exact fits content rfl
  · rw [TextRecord.size_push]
    exact of_decide_eq_true room

/-- A record holds more only if it holds nothing but one fragment. -/
theorem size_le_or_single_of_mem_pack (emissions : List Emission) :
    ∀ record ∈ pack none emissions,
      record.size ≤ 30 ∨ ∃ content, record.fragments = [content] := by
  have accepted : ∀ emission ∈ emissions, True := fun _ _ => trivial
  refine forall_mem_pack (fun address content _ => Or.inr ⟨content, rfl⟩)
    (fun record address content _ room _ => Or.inl ?_) (fun _ absent => nomatch absent) accepted
  rw [TextRecord.size_push]
  exact of_decide_eq_true room

theorem size_le_of_mem_packTracked (emissions : List Emission) :
    ∀ record ∈ packTracked emissions, record.size ≤ 30 := by
  refine size_le_of_mem_pack fun piece member content found => ?_
  obtain ⟨emission, -, inPieces⟩ := List.mem_flatMap.mp member
  cases emission with
  | gap =>
    rw [List.mem_singleton.mp inPieces] at found
    cases found
  | fragment address whole =>
    exact (cutInto_cut address whole).size_le content
      (List.mem_filterMap.mpr ⟨piece, inPieces, found⟩)

/-- A record with an address in fixed steps holds the fragments of a packed record. -/
theorem exists_of_mem_packFixed {start : Nat} {emissions : List Emission} {record : TextRecord}
    (member : record ∈ packFixed start emissions) :
    ∃ packed ∈ pack none (emissions.filter Emission.isFragment),
      record.fragments = packed.fragments ∧ record.size = packed.size := by
  obtain ⟨index, bounded, rfl⟩ := List.mem_mapIdx.mp member
  exact ⟨_, List.getElem_mem bounded, rfl, rfl⟩

theorem size_pos_of_mem_textRecords {addressing : RecordAddressing} {start : Nat}
    {emissions : List Emission} (filled : ∀ emission ∈ emissions, emission.Filled) :
    ∀ record ∈ ObjectProgram.textRecords addressing start emissions, 0 < record.size := by
  cases addressing with
  | tracked => exact size_pos_of_mem_packTracked filled
  | fixedIncrement =>
    intro record member
    obtain ⟨packed, inPacked, -, size⟩ := exists_of_mem_packFixed member
    have positive : ∀ record ∈ pack none (emissions.filter Emission.isFragment), 0 < record.size :=
      size_pos_of_mem_pack (fun _ absent => nomatch absent) fun emission member =>
        filled emission (List.mem_of_mem_filter member)
    rw [size]
    exact positive packed inPacked

/-! ### Both ways of addressing -/

/-- Under tracked addresses a record ends before a fragment that does not fit, or at a gap between
the emissions. -/
theorem packTracked_eq_append {emissions : List Emission} {before after : List TextRecord}
    {first second : TextRecord}
    (packed : packTracked emissions = before ++ first :: second :: after) :
    (∃ content, second.fragments.head? = some content ∧ 30 < first.size + content.size) ∨
    ∃ front back, emissions = front ++ .gap :: back ∧
      piecesOf .tracked front = (before ++ [first]).flatMap TextRecord.fragments ∧
      piecesOf .tracked back = (second :: after).flatMap TextRecord.fragments := by
  rcases pack_eq_append packed with ⟨content, found, full⟩ | ⟨front, back, parts, ends, begins⟩
  · exact Or.inl ⟨content, found, lt_size_of_hasRoom full⟩
  · obtain ⟨leading, trailing, rfl, rfl, rfl⟩ := exists_append_of_flatMap_cut parts
    refine Or.inr ⟨leading, trailing, rfl, ?_, ?_⟩
    · rw [← ends, flatMap_fragments_pack]
      rfl
    · rw [← begins, flatMap_fragments_pack]
      rfl

/-- Under fixed steps a record ends only before a fragment that does not fit. -/
theorem packFixed_eq_append {start : Nat} {emissions : List Emission}
    {before after : List TextRecord} {first second : TextRecord}
    (packed : packFixed start emissions = before ++ first :: second :: after) :
    ∃ content, second.fragments.head? = some content ∧ 30 < first.size + content.size := by
  obtain ⟨leading, trailing, parts, -, fromFirst⟩ := List.mapIdx_eq_append_iff.mp packed
  obtain ⟨one, rest, rfl, rfl, fromSecond⟩ := List.mapIdx_eq_cons_iff.mp fromFirst
  obtain ⟨two, later, rfl, rfl, -⟩ := List.mapIdx_eq_cons_iff.mp fromSecond
  rcases pack_eq_append parts with ⟨content, found, full⟩ | ⟨front, back, gaps, -, -⟩
  · exact ⟨content, found, lt_size_of_hasRoom full⟩
  · have gap : Emission.gap ∈ emissions.filter Emission.isFragment := by
      rw [gaps]
      exact List.mem_append_right _ List.mem_cons_self
    exact absurd (List.mem_filter.mp gap).2 Bool.false_ne_true

theorem address_of_getElem?_packFixed {start index : Nat} {emissions : List Emission}
    {record : TextRecord} (found : (packFixed start emissions)[index]? = some record)
    (below : start + 3 * index < 0x100000000) : record.address = start + 3 * index := by
  rw [packFixed, List.getElem?_mapIdx] at found
  obtain ⟨packed, -, rfl⟩ := Option.map_eq_some_iff.mp found
  exact Nat.mod_eq_of_lt below

namespace ObjectProgram

/-- The law of packing, for the text records of a program that is laid out. -/
structure PackingLaw (table : OpcodeTable) (options : Options) (layout : Layout)
    (texts : List TextRecord) : Prop where
  /-- The records hold what the statements contribute, in order. -/
  contributed : Contributed table layout.symbols options.undefinedSymbols options.addressing
    layout.statements (texts.flatMap TextRecord.fragments)
  /-- No record is empty. -/
  nonempty : ∀ record ∈ texts, record.fragments ≠ [] ∧ 1 ≤ record.size
  /-- Tracked records hold at most thirty bytes. -/
  tracked_bound : options.addressing = .tracked → ∀ record ∈ texts, record.size ≤ 30
  /-- Under fixed steps a record holds more only if it holds a single fragment. -/
  fixed_bound : options.addressing = .fixedIncrement → ∀ record ∈ texts,
    record.size ≤ 30 ∨ ∃ content, record.fragments = [content]
  /-- The first fragment of a record would not have fitted into the record before it, unless
  records have tracked addresses and a statement between the two divides them. -/
  greedy : ∀ before first second after, texts = before ++ first :: second :: after →
    (∃ content, second.fragments.head? = some content ∧ 30 < first.size + content.size) ∨
    options.addressing = .tracked ∧ ∃ front statement back,
      layout.statements = front ++ statement :: back ∧ statement.DividesRecords ∧
      Contributed table layout.symbols options.undefinedSymbols options.addressing front
        ((before ++ [first]).flatMap TextRecord.fragments) ∧
      Contributed table layout.symbols options.undefinedSymbols options.addressing back
        ((second :: after).flatMap TextRecord.fragments)
  /-- Under fixed steps each record lies three behind the one before it. -/
  fixed_address : options.addressing = .fixedIncrement → ∀ index record,
    texts[index]? = some record → layout.program.start + 3 * index < 0x100000000 →
      record.address = layout.program.start + 3 * index

/-- Every object program of a layout is packed greedily, under whichever table and options it is
built. -/
theorem ofLayout_packingLaw (table other : OpcodeTable) (options others : Options)
    (lines : List String) (layout : Layout) (records : ObjectProgram)
    (laidOut : Layout.ofLines table options lines = .ok layout)
    (built : ofLayout other others layout = .ok records) :
    ∃ texts, records =
        .header layout.program.name layout.program.start layout.program.length ::
          texts.map ObjectRecord.text ++ [.finish layout.program.start] ∧
      PackingLaw other others layout texts := by
  obtain ⟨found, walks, rfl⟩ := Layout.ofLines_eq_ok laidOut
  obtain ⟨emissions, emitted, rfl⟩ := ofStatements_eq_ok built
  have emitting := (walk_traces walks).emitting emitted
  refine ⟨textRecords others.addressing found.cursor.start emissions, rfl, ?_⟩
  constructor
  case contributed =>
    rw [flatMap_fragments_textRecords]
    exact emitting.contributed
  case nonempty =>
    intro record member
    have positive := size_pos_of_mem_textRecords emitting.filled record member
    exact ⟨TextRecord.fragments_ne_nil_of_size_pos positive, positive⟩
  case tracked_bound =>
    intro tracked
    rw [tracked]
    exact size_le_of_mem_packTracked emissions
  case fixed_bound =>
    intro fixed record member
    rw [fixed] at member
    obtain ⟨packed, inPacked, fragments, size⟩ := exists_of_mem_packFixed member
    rw [fragments, size]
    exact size_le_or_single_of_mem_pack _ packed inPacked
  case greedy =>
    intro before first second after parts
    cases addressing : others.addressing with
    | tracked =>
      rw [addressing] at parts
      refine (packTracked_eq_append parts).imp_right ?_
      rintro ⟨front, back, gap, ends, begins⟩
      obtain ⟨leading, statement, trailing, cut, divides, first, second⟩ :=
        emitting.exists_append .tracked gap
      rw [ends] at first
      rw [begins] at second
      exact ⟨rfl, leading, statement, trailing, cut, divides, first, second⟩
    | fixedIncrement =>
      rw [addressing] at parts
      exact Or.inl (packFixed_eq_append parts)
  case fixed_address =>
    intro fixed index record inTexts below
    rw [fixed] at inTexts
    exact address_of_getElem?_packFixed inTexts below

/-- The law, in both ways, for a program with a full record, a reservation of no bytes that ends a
record with room, a constant that fills two records and begins a third, and what comes behind it. -/
theorem packingLaw_of_cut_constant :
    ∃ layout, Layout.ofLines .sicMachine {}
        ["P START 10", " BYTE C'ABCDEFGHIJKLMNOPQRSTUVWXYZ0123'", " BYTE X'00'", " RESB 0", " LDA",
          " BYTE C'ABCDEFGHIJKLMNOPQRSTUVWXYZ0123ABCDEFGHIJKLMNOPQRSTUVWXYZ01234'", " RSUB",
          " END"] = .ok layout ∧
      (∃ records, ofLayout .sicMachine {} layout = .ok records ∧
        ∃ texts, records =
            .header layout.program.name layout.program.start layout.program.length ::
              texts.map ObjectRecord.text ++ [.finish layout.program.start] ∧
          PackingLaw .sicMachine {} layout texts) ∧
      ∃ records, ofLayout .sicMachine .compatible layout = .ok records ∧
        ∃ texts, records =
            .header layout.program.name layout.program.start layout.program.length ::
              texts.map ObjectRecord.text ++ [.finish layout.program.start] ∧
          PackingLaw .sicMachine .compatible layout texts := by
  refine exists_ok_and
    (fun layout => (ofLayout .sicMachine {} layout).toOption.isSome &&
      (ofLayout .sicMachine .compatible layout).toOption.isSome)
    (by decide +kernel) fun layout laidOut checked => ?_
  obtain ⟨tracked, fixed⟩ := Bool.and_eq_true_iff.mp checked
  constructor
  · exact exists_ok_and (fun _ => true) (by simpa using tracked) fun records built _ =>
      ofLayout_packingLaw .sicMachine .sicMachine {} {} _ layout records laidOut built
  · exact exists_ok_and (fun _ => true) (by simpa using fixed) fun records built _ =>
      ofLayout_packingLaw .sicMachine .sicMachine {} .compatible _ layout records laidOut built

end ObjectProgram

end SicAssembler
