import Mathlib
import TableWire.Proofs.Header
import TableWire.Samples

/-!
How the bytes of a header are divided up. The slots follow each other from the start, one for each member that is
no bool, and the bools fill the bytes behind them eight by eight, the first byte last (`Plan.Divides`). Slots and
bytes of bools together take every byte of the header once. Where names do not repeat, looking a member up by its
name finds the member's own place (`Plan.Locates`).
-/
namespace TableWire.Layout

/-- The members that have a slot. -/
def slotted (members : List Member) : List Member := members.filter (·.storage ≠ .bool)

/-- The members that are a bit. -/
def flags (members : List Member) : List Member := members.filter (·.storage = .bool)

/-- The bytes of a slot. -/
def slotBytes (member : Member) (slot : Slot) : List Nat := List.range' slot.offset member.storage.width

/-- The tail that a slot leads to, if it leads to one. -/
def tailOf? (member : Member) (slot : Slot) : Option VariableField :=
  member.storage.lengthRule?.map (⟨member.name, slot.offset, ·⟩)

/-- A plan in which members have the places that follow from their order. -/
structure Plan.Divides (plan : Plan) (members : List Member) : Prop where
  length : plan.baseLength = slotWidths (slotted members) + ((flags members).length + 7) / 8
  slots : plan.slots = (slotted members).mapIdx fun i member =>
    ⟨member.name, slotWidths ((slotted members).take i)⟩
  chunks : plan.chunks.length = ((flags members).length + 7) / 8
  chunk : ∀ c chunk, plan.chunks[c]? = some chunk →
    c + 1 ≤ plan.baseLength ∧ chunk.offset = plan.baseLength - c - 1 ∧
      0 < chunk.members.length ∧ chunk.members.length ≤ 8
  bits : ∀ j, (plan.chunks[j / 8]?.bind (·.members[j % 8]?)) = (flags members)[j]?.map (·.name)
  tails : plan.variableFields = (List.zipWith tailOf? (slotted members) plan.slots).filterMap id
  cover : ((List.zipWith slotBytes (slotted members) plan.slots).flatten ++ plan.chunks.map (·.offset)).Perm
    (List.range plan.baseLength)

/-- A plan in which the name of a member leads to the member's own class and place. -/
structure Plan.Locates (plan : Plan) (members : List Member) : Prop where
  classes : ∀ member ∈ members, plan.member? member.name = some member.storage
  slots : ∀ i member, (slotted members)[i]? = some member →
    plan.slotOf? member.name = some (slotWidths ((slotted members).take i)) ∧ plan.bitOf? member.name = none
  bits : ∀ j flag, (flags members)[j]? = some flag →
    plan.bitOf? flag.name = some (plan.baseLength - j / 8 - 1, j % 8) ∧ plan.slotOf? flag.name = none
  oneOf : ∀ member ∈ members, Xor (plan.slotOf? member.name).isSome (plan.bitOf? member.name).isSome
  apart : ∀ first ∈ flags members, ∀ second ∈ flags members,
    plan.bitOf? first.name = plan.bitOf? second.name → first = second

/-! ### Slots -/

section
variable {member : Member} (members : List Member)

theorem slotted_bool (flag : member.storage = .bool) : slotted (member :: members) = slotted members := by
  simp [slotted, flag]

theorem slotted_slot (slot : member.storage ≠ .bool) :
    slotted (member :: members) = member :: slotted members := by
  simp [slotted, slot]

theorem slotWidths_slotted : slotWidths (slotted members) = slotWidths members := by
  induction members with
  | nil => rfl
  | cons member members ih =>
    by_cases flag : member.storage = .bool
    · simp [slotted_bool members flag, flag, ih]
    · simp [slotted_slot members flag, ih]

theorem slotsFrom_eq_mapIdx (offset : Nat) :
    slotsFrom offset members = (slotted members).mapIdx fun i member =>
      ⟨member.name, offset + slotWidths ((slotted members).take i)⟩ := by
  induction members generalizing offset with
  | nil => rfl
  | cons member members ih =>
    by_cases flag : member.storage = .bool
    · rw [slotsFrom, if_pos flag, slotted_bool members flag, ih]
    · rw [slotsFrom, if_neg flag, slotted_slot members flag, ih, List.mapIdx_cons]
      simp [Nat.add_assoc]

theorem variableFrom_eq_tails (offset : Nat) :
    variableFrom offset members =
      (List.zipWith tailOf? (slotted members) (slotsFrom offset members)).filterMap id := by
  induction members generalizing offset with
  | nil => rfl
  | cons member members ih =>
    by_cases flag : member.storage = .bool
    · rw [slotsFrom, if_pos flag, slotted_bool members flag, ← ih]
      simp [variableFrom, flag, StorageClass.lengthRule?]
    · rw [slotsFrom, if_neg flag, slotted_slot members flag, List.zipWith_cons_cons, variableFrom, ih]
      cases rule : member.storage.lengthRule? with
      | none => simp [tailOf?, rule]
      | some measured => simp [tailOf?, rule]

/-- The bytes of the slots follow each other without a gap. -/
theorem flatten_slotBytes (offset : Nat) :
    (List.zipWith slotBytes (slotted members) (slotsFrom offset members)).flatten =
      List.range' offset (slotWidths members) := by
  induction members generalizing offset with
  | nil => rfl
  | cons member members ih =>
    by_cases flag : member.storage = .bool
    · rw [slotsFrom, if_pos flag, slotted_bool members flag, ih, slotWidths_cons, flag,
        StorageClass.width_bool, Nat.zero_add]
    · rw [slotsFrom, if_neg flag, slotted_slot members flag, List.zipWith_cons_cons, List.flatten_cons, ih,
        slotWidths_cons, slotBytes, List.range'_append_1]

end

/-! ### Bytes of bools -/

/-- Only the last byte of bools has room. -/
def Packed (chunks : List (List String)) : Prop :=
  (∀ names ∈ chunks, ChunkSized names) ∧ ∀ names ∈ chunks.dropLast, names.length = boolsPerChunk

theorem addBool_packed {chunks : List (List String)} (packed : Packed chunks) (name : String) :
    Packed (Header.addBool chunks name) := by
  obtain ⟨sized, full⟩ := packed
  refine ⟨addBool_sized sized name, ?_⟩
  unfold Header.addBool
  cases last : chunks.getLast? with
  | none => simp
  | some chunk =>
    obtain ⟨init, rfl⟩ := List.getLast?_eq_some_iff.mp last
    rw [List.dropLast_concat] at full
    by_cases room : chunk.length < boolsPerChunk
    · simpa [room] using full
    · have filled : chunk.length = boolsPerChunk := by
        have := (sized chunk (by simp)).2
        omega
      intro names member
      simp only [room, if_false, List.dropLast_concat, List.mem_append, List.mem_singleton] at member
      rcases member with early | rfl
      · exact full names early
      · exact filled

theorem chunkNames_packed (members : List Member) : Packed (chunkNames members) := by
  have run : ∀ (names : List String) (chunks : List (List String)), Packed chunks →
      Packed (names.foldl Header.addBool chunks) := by
    intro names
    induction names with
    | nil => exact fun _ => id
    | cons name names ih => exact fun chunks packed => ih _ (addBool_packed packed name)
  exact run _ [] (by simp [Packed])

/-- The rest of packed bytes is packed, behind a full byte unless there is no rest. -/
theorem Packed.tail {first : List String} {chunks : List (List String)} (packed : Packed (first :: chunks)) :
    Packed chunks ∧ (chunks = [] ∨ first.length = boolsPerChunk) := by
  obtain ⟨sized, full⟩ := packed
  cases chunks with
  | nil => simp [Packed]
  | cons second chunks =>
    rw [List.dropLast_cons_cons] at full
    exact ⟨⟨fun names member => sized names (by simp [member]), fun names member => full names (by simp [member])⟩,
      .inr (full first (by simp))⟩

/-- The bool of number `j` is bit `j % 8` of byte `j / 8`. -/
theorem Packed.getElem?_flatten {chunks : List (List String)} (packed : Packed chunks) (j : Nat) :
    (chunks[j / 8]?.bind (·[j % 8]?)) = chunks.flatten[j]? := by
  induction chunks generalizing j with
  | nil => simp
  | cons first chunks ih =>
    have bound : first.length ≤ 8 := (packed.1 first (by simp)).2
    obtain ⟨rest, full⟩ := packed.tail
    by_cases inside : j < 8
    · have byte : j / 8 = 0 := by omega
      have bit : j % 8 = j := by omega
      rw [byte, bit, List.flatten_cons, List.getElem?_cons_zero, Option.bind_some]
      rcases full with rfl | full
      · simp
      · rw [List.getElem?_append_left (by rw [full]; exact inside)]
    · have byte : j / 8 = (j - 8) / 8 + 1 := by omega
      have bit : j % 8 = (j - 8) % 8 := by omega
      rw [byte, bit, List.getElem?_cons_succ, ih rest, List.flatten_cons]
      rcases full with rfl | full
      · rw [List.getElem?_eq_none (by simp), List.getElem?_eq_none (by simp; omega)]
      · rw [List.getElem?_append_right (by rw [full]; exact Nat.not_lt.mp inside), full]
        rfl

theorem Packed.length_eq {chunks : List (List String)} (packed : Packed chunks) :
    chunks.length = (chunks.flatten.length + 7) / 8 := by
  induction chunks with
  | nil => rfl
  | cons first chunks ih =>
    have sized := packed.1 first (by simp)
    obtain ⟨rest, full⟩ := packed.tail
    rw [List.flatten_cons, List.length_append, List.length_cons, ih rest]
    simp only [ChunkSized, boolsPerChunk] at sized full
    rcases full with rfl | full
    · rw [List.flatten_nil, List.length_nil]
      omega
    · omega

theorem getElem?_chunksBelow (stop : Nat) (chunks : List (List String)) (c : Nat) :
    (chunksBelow stop chunks)[c]? = chunks[c]?.map (⟨stop - c - 1, ·⟩) := by
  rw [← mapIdx_chunks, List.getElem?_mapIdx]

theorem length_chunksBelow (stop : Nat) (chunks : List (List String)) :
    (chunksBelow stop chunks).length = chunks.length := by
  rw [← mapIdx_chunks, List.length_mapIdx]

/-- The bytes of bools go down to the slots. -/
theorem map_offset_chunksBelow (start : Nat) (chunks : List (List String)) :
    (chunksBelow (start + chunks.length) chunks).map (·.offset) = (List.range' start chunks.length).reverse := by
  induction chunks with
  | nil => rfl
  | cons first chunks ih =>
    rw [chunksBelow, List.map_cons, List.length_cons, ← Nat.add_assoc, Nat.add_sub_cancel, ih,
      List.range'_concat, List.reverse_append]
    simp

/-! ### The division -/

theorem Plan.Computed.divides {plan : Plan} (computed : plan.Computed) : plan.Divides plan.members := by
  have packed := chunkNames_packed plan.members
  have names : (chunkNames plan.members).flatten = (flags plan.members).map (·.name) :=
    flatten_chunkNames plan.members
  have count : (chunkNames plan.members).length = ((flags plan.members).length + 7) / 8 := by
    rw [packed.length_eq, names, List.length_map]
  have base := computed.baseLength_eq
  constructor
  case length => rw [base, count, slotWidths_slotted]
  case slots =>
    rw [computed.slots_eq, slotsFrom_eq_mapIdx]
    simp only [Nat.zero_add]
  case chunks => rw [computed.chunks_eq, length_chunksBelow, count]
  case chunk =>
    intro c chunk found
    rw [computed.chunks_eq, getElem?_chunksBelow] at found
    obtain ⟨names, listed, rfl⟩ := Option.map_eq_some_iff.mp found
    obtain ⟨inside, -⟩ := List.getElem?_eq_some_iff.mp listed
    exact ⟨by omega, rfl, packed.1 names (List.mem_of_getElem? listed)⟩
  case bits =>
    intro j
    rw [computed.chunks_eq, getElem?_chunksBelow, Option.bind_map, ← List.getElem?_map, ← names,
      ← packed.getElem?_flatten]
    rfl
  case tails => rw [computed.variableFields_eq, computed.slots_eq, variableFrom_eq_tails]
  case cover =>
    rw [computed.slots_eq, computed.chunks_eq, base, flatten_slotBytes, map_offset_chunksBelow,
      List.range_eq_range', ← List.range'_append_1, Nat.zero_add]
    exact (List.reverse_perm _).append_left _

/-! ### Looking places up -/

theorem bitOf?_eq_none {chunk : BoolChunk} {name : String} (absent : name ∉ chunk.members) :
    chunk.bitOf? name = none := by
  rw [BoolChunk.bitOf?, Option.map_eq_none_iff, List.findIdx?_eq_none_iff]
  intro other member
  rw [beq_eq_false_iff_ne]
  rintro rfl
  exact absent member

theorem bitOf?_eq_some {chunk : BoolChunk} {name : String} {bit : Nat} (distinct : chunk.members.Nodup)
    (found : chunk.members[bit]? = some name) : chunk.bitOf? name = some (chunk.offset, bit) := by
  obtain ⟨inside, same⟩ := List.getElem?_eq_some_iff.mp found
  have first : chunk.members.findIdx? (· == name) = some bit := by
    refine List.findIdx?_eq_some_iff_getElem.mpr ⟨inside, by simp [same], ?_⟩
    intro earlier before
    have differ := (List.nodup_iff_pairwise_ne.mp distinct).rel_get_of_lt (a := ⟨earlier, by omega⟩)
      (b := ⟨bit, inside⟩) before
    simpa [← same] using differ
  rw [BoolChunk.bitOf?, first, Option.map_some]

/-- The bit of a bool among bytes of bools with different names. -/
theorem findSome?_bitOf? {chunks : List (List String)} (packed : Packed chunks) (distinct : chunks.flatten.Nodup)
    {name : String} (stop : Nat) {j : Nat} (found : chunks.flatten[j]? = some name) :
    (chunksBelow stop chunks).findSome? (·.bitOf? name) = some (stop - j / 8 - 1, j % 8) := by
  induction chunks generalizing stop j with
  | nil => simp at found
  | cons first chunks ih =>
    have place := packed.getElem?_flatten j
    rw [found] at place
    rw [List.flatten_cons, List.nodup_append] at distinct
    obtain ⟨here, there, apart⟩ := distinct
    obtain ⟨rest, full⟩ := packed.tail
    rw [chunksBelow]
    by_cases inside : j < 8
    · have byte : j / 8 = 0 := by omega
      rw [byte, List.getElem?_cons_zero, Option.bind_some] at place
      rw [List.findSome?_cons, bitOf?_eq_some here place, byte]
      rfl
    · have byte : j / 8 = (j - 8) / 8 + 1 := by omega
      have bit : j % 8 = (j - 8) % 8 := by omega
      rw [byte, bit, List.getElem?_cons_succ, rest.getElem?_flatten] at place
      have absent : name ∉ first := fun member => apart name member name (List.mem_of_getElem? place) rfl
      have offset : stop - 1 - (j - 8) / 8 - 1 = stop - ((j - 8) / 8 + 1) - 1 := by omega
      rw [List.findSome?_cons, bitOf?_eq_none absent, ih rest there _ place, byte, bit, offset]

theorem findSome?_bitOf?_none {chunks : List (List String)} {name : String} (absent : name ∉ chunks.flatten)
    (stop : Nat) : (chunksBelow stop chunks).findSome? (·.bitOf? name) = none := by
  rw [List.findSome?_eq_none_iff]
  intro chunk member
  refine bitOf?_eq_none fun inside => absent ?_
  obtain ⟨c, listed⟩ := List.getElem?_of_mem member
  rw [getElem?_chunksBelow] at listed
  obtain ⟨names, place, rfl⟩ := Option.map_eq_some_iff.mp listed
  exact List.mem_flatten.mpr ⟨names, List.mem_of_getElem? place, inside⟩

/-- A member is either a bit or has a slot. -/
theorem exists_place {members : List Member} {member : Member} (listed : member ∈ members) :
    (∃ i : Nat, (slotted members)[i]? = some member) ∨ ∃ j : Nat, (flags members)[j]? = some member := by
  by_cases flag : member.storage = .bool
  · exact .inr (List.getElem?_of_mem (List.mem_filter.mpr ⟨listed, by simp [flag]⟩))
  · exact .inl (List.getElem?_of_mem (List.mem_filter.mpr ⟨listed, by simp [flag]⟩))

/-- With different names, a bool has the name of no member with a slot. -/
theorem name_ne {members : List Member} (distinct : (members.map (·.name)).Nodup) {member flag : Member}
    (slot : member ∈ slotted members) (bit : flag ∈ flags members) : member.name ≠ flag.name := by
  obtain ⟨listed, isSlot⟩ := List.mem_filter.mp slot
  obtain ⟨alsoListed, isBit⟩ := List.mem_filter.mp bit
  intro same
  obtain rfl := List.inj_on_of_nodup_map distinct listed alsoListed same
  simp_all

namespace Plan.Computed
variable {plan : Plan} (computed : plan.Computed) (distinct : (plan.members.map (·.name)).Nodup)
include computed distinct

theorem slot_found {i : Nat} {member : Member} (place : (slotted plan.members)[i]? = some member) :
    plan.slotOf? member.name = some (slotWidths ((slotted plan.members).take i)) ∧
      plan.bitOf? member.name = none := by
  have slots := computed.divides.slots
  have names : plan.slots.map (·.name) = (slotted plan.members).map (·.name) := by
    rw [slots]
    refine List.ext_getElem? fun k => ?_
    simp [Function.comp_def]
  have apart : (plan.slots.map (·.name)).Nodup := names ▸ distinct.sublist (List.filter_sublist.map _)
  constructor
  · have entry : (⟨member.name, slotWidths ((slotted plan.members).take i)⟩ : Slot) ∈ plan.slots := by
      rw [slots]
      exact List.mem_of_getElem? (by rw [List.getElem?_mapIdx, place]; rfl)
    rw [Plan.slotOf?, find?_name apart entry, Option.map_some]
  · rw [Plan.bitOf?, computed.chunks_eq]
    refine findSome?_bitOf?_none ?_ _
    rw [flatten_chunkNames]
    intro repeated
    obtain ⟨flag, bit, same⟩ := List.mem_map.mp repeated
    exact name_ne distinct (List.mem_of_getElem? place) bit same.symm

theorem bit_found {j : Nat} {flag : Member} (place : (flags plan.members)[j]? = some flag) :
    plan.bitOf? flag.name = some (plan.baseLength - j / 8 - 1, j % 8) ∧ plan.slotOf? flag.name = none := by
  constructor
  · rw [Plan.bitOf?, computed.chunks_eq]
    refine findSome?_bitOf? (chunkNames_packed _) ?_ _ ?_
    · rw [flatten_chunkNames]
      exact distinct.sublist (List.filter_sublist.map _)
    · rw [flatten_chunkNames, boolNames, List.getElem?_map]
      exact congrArg (Option.map (·.name)) place
  · rw [Plan.slotOf?, Option.map_eq_none_iff, List.find?_eq_none, computed.divides.slots]
    intro slot listed
    obtain ⟨i, inside, rfl⟩ := List.mem_mapIdx.mp listed
    simpa using name_ne distinct (List.getElem_mem inside) (List.mem_of_getElem? place)

theorem locates : plan.Locates plan.members := by
  refine ⟨fun member => member?_eq distinct, fun _ _ => computed.slot_found distinct,
    fun _ _ => computed.bit_found distinct, ?_, ?_⟩
  · intro member listed
    rcases exists_place listed with ⟨i, place⟩ | ⟨j, place⟩
    · obtain ⟨slot, bit⟩ := computed.slot_found distinct place
      simp [slot, bit, Xor]
    · obtain ⟨bit, slot⟩ := computed.bit_found distinct place
      simp [slot, bit, Xor]
  · intro first firstFlag second secondFlag same
    obtain ⟨j, place⟩ := List.getElem?_of_mem firstFlag
    obtain ⟨k, other⟩ := List.getElem?_of_mem secondFlag
    rw [(computed.bit_found distinct place).1, (computed.bit_found distinct other).1] at same
    obtain ⟨byte, bit⟩ := Prod.mk.inj (Option.some.inj same)
    -- Both bytes lie inside the header, so that equal offsets come from equal numbers of bytes.
    obtain ⟨inside, -⟩ := List.getElem?_eq_some_iff.mp place
    obtain ⟨alsoInside, -⟩ := List.getElem?_eq_some_iff.mp other
    have length := computed.divides.length
    obtain rfl : j = k := by omega
    exact Option.some.inj (place.symm.trans other)

end Plan.Computed

/-- The header of a table is divided up exactly between its members, and names that do not repeat lead to the
members' own places. -/
theorem compute_partition (table tag : String) (members : List Member) :
    (Plan.compute table tag members).Divides members ∧
      ((members.map (·.name)).Nodup → (Plan.compute table tag members).Locates members) := by
  have computed : (Plan.compute table tag members).Computed := rfl
  exact ⟨computed.divides, computed.locates⟩

open Samples in
/-- The ninth and last switch of a panel is found in the byte before the one with the other eight. -/
theorem panel_partition :
    (panel.map (·.name)).Nodup ∧ (Plan.compute "Panel" "PANL" panel).Divides panel ∧
      (Plan.compute "Panel" "PANL" panel).Locates panel ∧
      (Plan.compute "Panel" "PANL" panel).bitOf? "fan" = some (6, 0) := by
  have distinct : (panel.map (·.name)).Nodup := by decide
  obtain ⟨divides, locates⟩ := compute_partition "Panel" "PANL" panel
  exact ⟨distinct, divides, locates distinct, ((locates distinct).bits 8 ⟨"fan", .bool⟩ rfl).1⟩

end TableWire.Layout
