/-
This file proves that packing loses nothing, adds nothing and moves nothing. A
text record gives an address to its first fragment only; the others lie where
the lengths of those before them put them. So the bytes of the records are at
the addresses of the emissions only if the emissions join up: where no gap
divides two fragments, the second begins where the first ends. That condition
is `Contiguous`, and cutting a long constant preserves it.
-/

import SicAssembler.Packing

namespace SicAssembler

/-! ### Bytes at addresses -/

/-- Bytes that lie one behind the other from an address on, each with its own address. -/
def placedAt (address : Nat) (bytes : List UInt8) : List (Nat × UInt8) :=
  bytes.mapIdx fun index byte => (address + index, byte)

theorem placedAt_append (address : Nat) (first second : List UInt8) :
    placedAt address (first ++ second) =
      placedAt address first ++ placedAt (address + first.length) second := by
  unfold placedAt
  rw [List.mapIdx_append]
  refine congrArg _ (congrArg (fun place => List.mapIdx place second) ?_)
  funext index byte
  rw [Nat.add_assoc, Nat.add_comm index]

theorem length_placedAt (address : Nat) (bytes : List UInt8) :
    (placedAt address bytes).length = bytes.length := by
  rw [placedAt, List.length_mapIdx]

/-- The addresses of placed bytes are consecutive. -/
theorem map_fst_placedAt (address : Nat) (bytes : List UInt8) :
    (placedAt address bytes).map Prod.fst = List.range' address bytes.length := by
  refine List.ext_getElem (by simp [length_placedAt]) fun index _ _ => ?_
  simp [placedAt]

/-- The bytes that an emission stands for, each with its address. -/
def Emission.image : Emission → List (Nat × UInt8)
  | .fragment address content => placedAt address content.toBytes
  | .gap => []

namespace TextRecord

/-- The bytes of a text record, each with its address. -/
def image (record : TextRecord) : List (Nat × UInt8) := placedAt record.address record.toBytes

/-- The address right behind a text record. -/
def limit (record : TextRecord) : Nat := record.address + record.size

theorem length_toBytes (record : TextRecord) : record.toBytes.length = record.size := by
  unfold toBytes size
  induction record.fragments with
  | nil => rfl
  | cons content rest inductionHypothesis =>
    rw [List.flatMap_cons, List.length_append, inductionHypothesis, content.length_toBytes,
      List.foldr_cons]

theorem length_image (record : TextRecord) : record.image.length = record.size := by
  rw [image, length_placedAt, length_toBytes]

theorem toBytes_single (address : Nat) (content : Fragment) :
    (single address content).toBytes = content.toBytes :=
  List.flatMap_singleton _ _

theorem toBytes_push (record : TextRecord) (content : Fragment) :
    (record.push content).toBytes = record.toBytes ++ content.toBytes := by
  unfold toBytes push
  rw [List.flatMap_append, List.flatMap_singleton]

theorem limit_single (address : Nat) (content : Fragment) :
    (single address content).limit = address + content.size := by
  rw [limit, ← length_toBytes, toBytes_single, content.length_toBytes]
  rfl

theorem limit_push (record : TextRecord) (content : Fragment) :
    (record.push content).limit = record.limit + content.size := by
  rw [limit, ← length_toBytes, toBytes_push, List.length_append, length_toBytes,
    content.length_toBytes, limit, Nat.add_assoc]
  rfl

theorem image_single (address : Nat) (content : Fragment) :
    (single address content).image = placedAt address content.toBytes := by
  rw [image, toBytes_single]
  rfl

/-- A fragment that is pushed lies at the end of the record. -/
theorem image_push (record : TextRecord) (content : Fragment) :
    (record.push content).image = record.image ++ placedAt record.limit content.toBytes := by
  rw [image, toBytes_push, placedAt_append, length_toBytes]
  rfl

end TextRecord

/-! ### Fragments that join up -/

/-- Whether fragments that no gap divides lie one behind the other, below the number of
addresses of a machine word. The first argument is where the open record ends, if one is open. -/
def Contiguous : Option Nat → List Emission → Prop
  | _, [] => True
  | _, .gap :: rest => Contiguous none rest
  | reached, .fragment address content :: rest =>
    (∀ limit ∈ reached, address = limit) ∧ address + content.size < addressWrap ∧
      Contiguous (some (address + content.size)) rest

/-- The records of emissions that join up hold the bytes of the emissions, in the same order and
at the same addresses. -/
theorem flatMap_image_pack (pending : Option TextRecord) (emissions : List Emission)
    (contiguous : Contiguous (pending.map TextRecord.limit) emissions) :
    (pack pending emissions).flatMap TextRecord.image =
      pending.toList.flatMap TextRecord.image ++ emissions.flatMap Emission.image := by
  fun_induction pack pending emissions with
  | case1 pending => simp
  | case2 pending rest inductionHypothesis =>
    rw [List.flatMap_append, inductionHypothesis contiguous]
    rfl
  | case3 address content rest inductionHypothesis =>
    obtain ⟨-, -, joined⟩ := contiguous
    rw [← TextRecord.limit_single] at joined
    rw [inductionHypothesis joined]
    simp [TextRecord.image_single, Emission.image]
  | case4 record address content rest room inductionHypothesis =>
    -- The record has room, so only its length says where the fragment lies.
    obtain ⟨here, -, joined⟩ := contiguous
    obtain rfl : address = record.limit := here _ rfl
    rw [← TextRecord.limit_push] at joined
    rw [inductionHypothesis joined]
    simp [TextRecord.image_push, Emission.image]
  | case5 record address content rest full inductionHypothesis =>
    obtain ⟨-, -, joined⟩ := contiguous
    rw [← TextRecord.limit_single] at joined
    rw [List.flatMap_cons, inductionHypothesis joined]
    simp [TextRecord.image_single, Emission.image]

/-! ### Constants that are cut -/

/-- A constant that no record can hold loses a full piece; its address does not wrap around. -/
theorem cutBytes_of_long {address : Nat} {data : List UInt8} (bound : Nat)
    (long : ¬ data.length ≤ recordCapacity) (inRange : address + data.length < addressWrap) :
    cutBytes address (bound + 1) data =
      .fragment address (.bytes (data.take recordCapacity)) ::
        cutBytes (address + recordCapacity) bound (data.drop recordCapacity) := by
  rw [cutBytes, if_neg long, Nat.mod_eq_of_lt (by omega)]

theorem length_take_of_long {data : List UInt8} (long : ¬ data.length ≤ recordCapacity) :
    (data.take recordCapacity).length = recordCapacity :=
  List.length_take_of_le (Nat.le_of_not_le long)

/-- The pieces of a constant hold its bytes, at the addresses they had. -/
theorem flatMap_image_cutBytes (address bound : Nat) (data : List UInt8)
    (inRange : address + data.length < addressWrap) :
    (cutBytes address bound data).flatMap Emission.image = placedAt address data := by
  induction bound generalizing address data with
  | zero => exact List.flatMap_singleton _ _
  | succ bound inductionHypothesis =>
    by_cases short : data.length ≤ recordCapacity
    · rw [cutBytes, if_pos short]
      exact List.flatMap_singleton _ _
    · have remaining : address + recordCapacity + (data.drop recordCapacity).length =
          address + data.length := by
        rw [List.length_drop]
        omega
      rw [cutBytes_of_long bound short inRange, List.flatMap_cons,
        inductionHypothesis _ _ (by omega)]
      calc placedAt address (data.take recordCapacity) ++
            placedAt (address + recordCapacity) (data.drop recordCapacity)
          = placedAt address (data.take recordCapacity ++ data.drop recordCapacity) := by
            rw [placedAt_append, length_take_of_long short]
        _ = placedAt address data := by rw [List.take_append_drop]

/-- What joined up with a constant joins up with its pieces. -/
theorem contiguous_cutBytes_append {reached : Option Nat} {address bound : Nat}
    {data : List UInt8} {rest : List Emission} (here : ∀ limit ∈ reached, address = limit)
    (inRange : address + data.length < addressWrap)
    (joined : Contiguous (some (address + data.length)) rest) :
    Contiguous reached (cutBytes address bound data ++ rest) := by
  induction bound generalizing reached address data with
  | zero => exact ⟨here, inRange, joined⟩
  | succ bound inductionHypothesis =>
    by_cases short : data.length ≤ recordCapacity
    · rw [cutBytes, if_pos short]
      exact ⟨here, inRange, joined⟩
    · have remaining : address + recordCapacity + (data.drop recordCapacity).length =
          address + data.length := by
        rw [List.length_drop]
        omega
      have piece : Fragment.size (.bytes (data.take recordCapacity)) = recordCapacity :=
        length_take_of_long short
      rw [cutBytes_of_long bound short inRange, List.cons_append]
      refine ⟨here, by omega, inductionHypothesis ?_ (by omega) (by rw [remaining]; exact joined)⟩
      rintro limit ⟨⟩
      rw [piece]

/-- Only constants are ever cut. -/
theorem Emission.cut_cases (emission : Emission) :
    emission.cut = [emission] ∨ ∃ address data, emission = .fragment address (.bytes data) := by
  match emission with
  | .gap => exact Or.inl rfl
  | .fragment address (.bytes data) => exact Or.inr ⟨address, data, rfl⟩
  | .fragment address (.word value) => exact Or.inl rfl
  | .fragment address (.instruction opcode target) => exact Or.inl rfl

theorem Contiguous.tail {reached : Option Nat} {emission : Emission} {rest : List Emission}
    (contiguous : Contiguous reached (emission :: rest)) : ∃ next, Contiguous next rest := by
  cases emission with
  | gap => exact ⟨none, contiguous⟩
  | fragment address content => exact ⟨_, contiguous.2.2⟩

theorem Contiguous.replace_tail {reached : Option Nat} {emission : Emission}
    {rest others : List Emission} (contiguous : Contiguous reached (emission :: rest))
    (keeps : ∀ next, Contiguous next rest → Contiguous next others) :
    Contiguous reached (emission :: others) := by
  cases emission with
  | gap => exact keeps none contiguous
  | fragment address content =>
    obtain ⟨here, inRange, joined⟩ := contiguous
    exact ⟨here, inRange, keeps _ joined⟩

/-- Emissions that join up still do so when those that no record can hold are cut. -/
theorem contiguous_flatMap_cut {reached : Option Nat} {emissions : List Emission}
    (contiguous : Contiguous reached emissions) :
    Contiguous reached (emissions.flatMap Emission.cut) := by
  induction emissions generalizing reached with
  | nil => exact contiguous
  | cons emission rest inductionHypothesis =>
    rw [List.flatMap_cons]
    rcases emission.cut_cases with uncut | ⟨address, data, rfl⟩
    · rw [uncut]
      exact contiguous.replace_tail fun _ => inductionHypothesis
    · obtain ⟨here, inRange, joined⟩ := contiguous
      exact contiguous_cutBytes_append here inRange (inductionHypothesis joined)

theorem flatMap_image_cut_head {reached : Option Nat} {emission : Emission} {rest : List Emission}
    (contiguous : Contiguous reached (emission :: rest)) :
    emission.cut.flatMap Emission.image = emission.image := by
  rcases emission.cut_cases with uncut | ⟨address, data, rfl⟩
  · rw [uncut]
    exact List.flatMap_singleton _ _
  · exact flatMap_image_cutBytes address data.length data contiguous.2.1

theorem flatMap_image_cut {reached : Option Nat} {emissions : List Emission}
    (contiguous : Contiguous reached emissions) :
    (emissions.flatMap Emission.cut).flatMap Emission.image = emissions.flatMap Emission.image := by
  induction emissions generalizing reached with
  | nil => rfl
  | cons emission rest inductionHypothesis =>
    obtain ⟨next, joined⟩ := contiguous.tail
    rw [List.flatMap_cons, List.flatMap_append, flatMap_image_cut_head contiguous,
      inductionHypothesis joined, List.flatMap_cons]

/-- The records packed under tracked addresses hold exactly the bytes of the emissions, in the
same order and at the same addresses. -/
theorem flatMap_image_packTracked {emissions : List Emission}
    (contiguous : Contiguous none emissions) :
    (packTracked emissions).flatMap TextRecord.image = emissions.flatMap Emission.image := by
  rw [packTracked, flatMap_image_pack none _ (contiguous_flatMap_cut contiguous),
    flatMap_image_cut contiguous]
  rfl

/-! ### Records that are not empty -/

/-- Whether an emission, if it is a fragment, has any bytes. -/
def Emission.Filled : Emission → Prop
  | .fragment _ content => 0 < content.size
  | .gap => True

theorem TextRecord.size_single (address : Nat) (content : Fragment) :
    (single address content).size = content.size :=
  Nat.add_left_cancel (limit_single address content)

theorem TextRecord.size_push (record : TextRecord) (content : Fragment) :
    (record.push content).size = record.size + content.size := by
  have behind := record.limit_push content
  rw [limit, limit, Nat.add_assoc] at behind
  exact Nat.add_left_cancel behind

theorem TextRecord.fragments_ne_nil_of_size_pos {record : TextRecord} (positive : 0 < record.size) :
    record.fragments ≠ [] := by
  intro empty
  rw [size, empty] at positive
  exact absurd positive (Nat.lt_irrefl 0)

/-- What holds of a record with a single fragment, and goes on to hold when a fragment that fits is
added, holds of every record that is packed. -/
theorem forall_mem_pack {accepts : Emission → Prop} {property : TextRecord → Prop}
    (opens : ∀ address content, accepts (.fragment address content) →
      property (.single address content))
    (grows : ∀ record address content, accepts (.fragment address content) →
      record.hasRoom content = true → property record → property (record.push content))
    {pending : Option TextRecord} {emissions : List Emission}
    (begun : ∀ record ∈ pending, property record)
    (accepted : ∀ emission ∈ emissions, accepts emission) :
    ∀ record ∈ pack pending emissions, property record := by
  fun_induction pack pending emissions with
  | case1 pending => exact fun record member => begun record (Option.mem_toList.mp member)
  | case2 pending rest inductionHypothesis =>
    obtain ⟨-, later⟩ := List.forall_mem_cons.mp accepted
    intro record member
    rcases List.mem_append.mp member with before | behind
    · exact begun record (Option.mem_toList.mp before)
    · exact inductionHypothesis (fun _ absent => nomatch absent) later record behind
  | case3 address content rest inductionHypothesis =>
    obtain ⟨first, later⟩ := List.forall_mem_cons.mp accepted
    refine inductionHypothesis ?_ later
    rintro record ⟨⟩
    exact opens address content first
  | case4 record address content rest room inductionHypothesis =>
    obtain ⟨first, later⟩ := List.forall_mem_cons.mp accepted
    refine inductionHypothesis ?_ later
    rintro other ⟨⟩
    exact grows record address content first room (begun record rfl)
  | case5 record address content rest full inductionHypothesis =>
    obtain ⟨first, later⟩ := List.forall_mem_cons.mp accepted
    refine List.forall_mem_cons.mpr ⟨begun record rfl, inductionHypothesis ?_ later⟩
    rintro other ⟨⟩
    exact opens address content first

/-- Fragments that have bytes are packed into records that have bytes. -/
theorem size_pos_of_mem_pack {pending : Option TextRecord} {emissions : List Emission}
    (begun : ∀ record ∈ pending, 0 < record.size)
    (filled : ∀ emission ∈ emissions, emission.Filled) :
    ∀ record ∈ pack pending emissions, 0 < record.size := by
  refine forall_mem_pack (fun address content positive => ?_)
    (fun record address content positive room _ => ?_) begun filled
  · rw [TextRecord.size_single]
    exact positive
  · rw [TextRecord.size_push]
    exact Nat.add_pos_right _ positive

theorem filled_of_mem_cutBytes {address bound : Nat} {data : List UInt8}
    (positive : 0 < data.length) :
    ∀ emission ∈ cutBytes address bound data, emission.Filled := by
  induction bound generalizing address data with
  | zero =>
    intro emission member
    rw [List.mem_singleton.mp member]
    exact positive
  | succ bound inductionHypothesis =>
    intro emission member
    rw [cutBytes] at member
    split at member
    · rw [List.mem_singleton.mp member]
      exact positive
    · next long =>
      rcases List.mem_cons.mp member with rfl | inRest
      · show 0 < (data.take recordCapacity).length
        rw [length_take_of_long long]
        decide
      · refine inductionHypothesis ?_ emission inRest
        rw [List.length_drop]
        omega

/-- Cutting leaves no piece without bytes. -/
theorem filled_of_mem_cut {emission : Emission} (filled : emission.Filled) :
    ∀ piece ∈ emission.cut, piece.Filled := by
  rcases emission.cut_cases with uncut | ⟨address, data, rfl⟩
  · intro piece member
    rw [uncut] at member
    rw [List.mem_singleton.mp member]
    exact filled
  · exact filled_of_mem_cutBytes filled

/-- Fragments that have bytes give tracked records that have bytes. -/
theorem size_pos_of_mem_packTracked {emissions : List Emission}
    (filled : ∀ emission ∈ emissions, emission.Filled) :
    ∀ record ∈ packTracked emissions, 0 < record.size := by
  refine size_pos_of_mem_pack (fun _ absent => nomatch absent) fun piece member => ?_
  obtain ⟨emission, inEmissions, inPieces⟩ := List.mem_flatMap.mp member
  exact filled_of_mem_cut (filled emission inEmissions) piece inPieces

/-! ### Fragments in order -/

/-- The fragment of an emission that is no gap. -/
def Emission.content? : Emission → Option Fragment
  | .fragment _ content => some content
  | .gap => none

/-- Packing keeps the fragments and their order. -/
theorem flatMap_fragments_pack (pending : Option TextRecord) (emissions : List Emission) :
    (pack pending emissions).flatMap TextRecord.fragments =
      pending.toList.flatMap TextRecord.fragments ++ emissions.filterMap Emission.content? := by
  fun_induction pack pending emissions with
  | case1 pending => simp
  | case2 pending rest inductionHypothesis =>
    rw [List.flatMap_append, inductionHypothesis]
    rfl
  | case3 address content rest inductionHypothesis =>
    rw [inductionHypothesis]
    simp [Emission.content?, TextRecord.single]
  | case4 record address content rest room inductionHypothesis =>
    rw [inductionHypothesis]
    simp [Emission.content?, TextRecord.push]
  | case5 record address content rest full inductionHypothesis =>
    rw [List.flatMap_cons, inductionHypothesis]
    simp [Emission.content?, TextRecord.single]

end SicAssembler
