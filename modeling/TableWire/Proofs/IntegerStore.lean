import Mathlib
import TableWire.Proofs.Placement

/-!
Integers in a buffer as in a store. A number that is read is the one number of its kind whose bytes in two's complement
stand at the offset (`getInt_ok_iff_holds`), and a number that is written takes the place of these bytes only. Hence
reading gives what was written, writing what was read changes nothing, and numbers whose bytes are apart do not
interfere. The offsets are unbounded here; a bound that is found by adding 64-bit words says the same, because a sum
that wraps around ends before it starts (`endsInside_iff`).
-/
namespace TableWire.Wire
open Schema (IntKind)

/-! ### Bytes of a number -/

theorem littleEndian_ofLittleEndian (bytes : Bytes) : littleEndian bytes.length (ofLittleEndian bytes) = bytes := by
  induction bytes with
  | nil => rfl
  | cons byte bytes ih =>
    have small := byte.toNat_lt
    have low : (byte.toNat + 256 * ofLittleEndian bytes) % 256 = byte.toNat := by omega
    have high : (byte.toNat + 256 * ofLittleEndian bytes) / 256 = ofLittleEndian bytes := by omega
    rw [ofLittleEndian, List.length_cons, littleEndian, low, high, ih, UInt8.ofNat_toNat]

theorem getElem?_littleEndian {width i : Nat} (inside : i < width) (n : Nat) :
    (littleEndian width n)[i]? = some (UInt8.ofNat (n / 256 ^ i % 256)) := by
  induction width generalizing i n with
  | zero => omega
  | succ width ih =>
    cases i with
    | zero => simp [littleEndian]
    | succ i =>
      rw [littleEndian, List.getElem?_cons_succ, ih (by omega), Nat.div_div_eq_div_mul, pow_succ']

/-- A byte of a number in two's complement, counted from the least significant one. -/
def complementByte (kind : IntKind) (n : Int) (i : Nat) : UInt8 :=
  .ofBitVec ((BitVec.ofInt (8 * kind.width) n).extractLsb' (8 * i) 8)

theorem getElem?_encodeInt {kind : IntKind} {i : Nat} (inside : i < kind.width) (n : Int) :
    (encodeInt kind n)[i]? = some (complementByte kind n i) := by
  have bits : 256 ^ i = 2 ^ (8 * i) := by rw [pow_mul]; norm_num
  have modulus : (range kind : Int) = (2 ^ (8 * kind.width) : Nat) := by
    rw [range_eq, pow_mul]
    norm_num
  have same : UInt8.ofNat ((n % range kind).toNat / 256 ^ i % 256) = complementByte kind n i := by
    apply UInt8.toNat_inj.mp
    simp only [complementByte, UInt8.toNat_ofBitVec, BitVec.extractLsb'_toNat, BitVec.toNat_ofInt,
      Nat.shiftRight_eq_div_pow, bits, modulus]
    simp
  rw [encodeInt, getElem?_littleEndian inside, same]

/-- Two's complement has one number for each sequence of bytes. -/
theorem encodeInt_decodeInt {kind : IntKind} {bytes : Bytes} (width : bytes.length = kind.width) :
    encodeInt kind (decodeInt kind bytes) = bytes := by
  have below := ofLittleEndian_lt bytes
  rw [width, ← range_eq] at below
  have stored : (decodeInt kind bytes % range kind).toNat = ofLittleEndian bytes := by
    unfold decodeInt
    cases kind with
    | byte | uint16 | uint32 =>
      simp only [IntKind.isSigned, range, Bool.false_eq_true, false_and, if_false] at below ⊢
      omega
    | int16 | int32 =>
      -- A negative number is what its bytes stand for less the modulus, which the remainder gives back.
      simp only [IntKind.isSigned, range, true_and] at below ⊢
      split <;> omega
  rw [encodeInt, stored, ← width, littleEndian_ofLittleEndian]

/-! ### Reading -/

/-- The bytes at an offset are those of a number in two's complement, the least significant one first. -/
def Holds (kind : IntKind) (src : Bytes) (offset : Nat) (n : Int) : Prop :=
  ∀ i < kind.width, src[offset + i]? = some (complementByte kind n i)

theorem holds_iff_standsAt {kind : IntKind} {src : Bytes} {offset : Nat} {n : Int} :
    Holds kind src offset n ↔ StandsAt src offset (encodeInt kind n) := by
  rw [standsAt_iff_getElem?, length_encodeInt]
  refine forall₂_congr fun i inside => ?_
  rw [getElem?_encodeInt inside]

theorem getInt_ok_iff_holds {kind : IntKind} {src : Bytes} {offset : Nat} {n : Int} :
    getInt kind src offset = .ok n ↔ Fits kind n ∧ Holds kind src offset n := by
  rw [holds_iff_standsAt]
  constructor
  · intro read
    refine ⟨getInt_fits read, ?_⟩
    obtain ⟨inside, rfl⟩ := getInt_ok.mp read
    have width : ((src.drop offset).take kind.width).length = kind.width := by
      rw [List.length_take, List.length_drop]
      omega
    rw [encodeInt_decodeInt width]
    exact List.take_prefix _ _
  · rintro ⟨fits, stands⟩
    exact getInt_of_standsAt fits stands

theorem getInt_error_iff {kind : IntKind} {src : Bytes} {offset : Nat} {failure : Failure} :
    getInt kind src offset = .error failure ↔
      src.length < offset + kind.width ∧ failure = .rejected (.outOfBounds offset kind.width src.length) := by
  by_cases inside : offset + kind.width ≤ src.length
  · rw [getInt, slice, if_pos inside]
    simp [inside, Except.map]
  · rw [getInt, slice, if_neg inside]
    simp [Nat.not_le.mp inside, Except.map, reject, eq_comm]

/-- Only the bytes of a number matter to reading it, and how many bytes there are. -/
theorem getInt_congr {kind : IntKind} {src other : Bytes} {offset : Nat} (length : src.length = other.length)
    (same : ∀ i, offset ≤ i → i < offset + kind.width → src[i]? = other[i]?) :
    getInt kind src offset = getInt kind other offset := by
  have taken : (src.drop offset).take kind.width = (other.drop offset).take kind.width := by
    refine List.ext_getElem? fun i => ?_
    by_cases inside : i < kind.width
    · rw [List.getElem?_take_of_lt inside, List.getElem?_take_of_lt inside, List.getElem?_drop, List.getElem?_drop,
        same _ (by omega) (by omega)]
    · rw [List.getElem?_take_eq_none (by omega), List.getElem?_take_eq_none (by omega)]
  rw [getInt, getInt, slice, slice, length, taken]

/-! ### Writing -/

theorem exists_putInt_iff {kind : IntKind} {dest : Bytes} {offset : Nat} {n : Int} :
    (∃ result, putInt kind dest offset n = .ok result) ↔ offset + kind.width ≤ dest.length := by
  rw [← length_encodeInt kind n]
  constructor
  · rintro ⟨result, written⟩
    exact (overwrite_ok.mp written).1
  · intro inside
    exact exists_overwrite inside

theorem putInt_error_iff {kind : IntKind} {dest : Bytes} {offset : Nat} {n : Int} {failure : Failure} :
    putInt kind dest offset n = .error failure ↔ dest.length < offset + kind.width ∧ failure = .abort := by
  by_cases inside : offset + kind.width ≤ dest.length
  · rw [putInt, overwrite, length_encodeInt, if_pos inside]
    simp [inside]
  · rw [putInt, overwrite, length_encodeInt, if_neg inside]
    simp [Nat.not_le.mp inside, abort, eq_comm]

/-- Putting bytes where they stand already changes nothing. -/
theorem StandsAt.overwrite_self {dest bytes : Bytes} {offset : Nat} (stands : StandsAt dest offset bytes)
    (inside : offset + bytes.length ≤ dest.length) : Wire.overwrite dest offset bytes = .ok dest := by
  obtain ⟨result, written⟩ := exists_overwrite inside
  have same : result = dest := by
    refine List.ext_getElem? fun i => ?_
    rw [getElem?_of_overwrite written]
    split
    · next within =>
      have byte := standsAt_iff_getElem?.mp stands (i - offset) (by omega)
      rw [← byte, Nat.add_sub_cancel' within.1]
    · rfl
  rw [written, same]

theorem putInt_of_getInt {kind : IntKind} {dest : Bytes} {offset : Nat} {n : Int}
    (read : getInt kind dest offset = .ok n) : putInt kind dest offset n = .ok dest := by
  have stands := holds_iff_standsAt.mp (getInt_ok_iff_holds.mp read).2
  refine stands.overwrite_self ?_
  rw [length_encodeInt]
  exact (getInt_ok.mp read).1

section
variable {kind : IntKind} {dest result : Bytes} {offset : Nat} {n : Int}
  (written : putInt kind dest offset n = .ok result)
include written

theorem getElem?_of_putInt {i : Nat} (outside : ¬ (offset ≤ i ∧ i < offset + kind.width)) : result[i]? = dest[i]? := by
  rw [getElem?_of_overwrite written, length_encodeInt, if_neg outside]

theorem holds_of_putInt : Holds kind result offset n :=
  holds_iff_standsAt.mpr (standsAt_of_overwrite written)

theorem getInt_of_putInt_apart {other : IntKind} {place : Nat}
    (apart : ∀ i, place ≤ i → i < place + other.width → ¬ (offset ≤ i ∧ i < offset + kind.width)) :
    getInt other result place = getInt other dest place :=
  getInt_congr (overwrite_length written) fun i first last => getElem?_of_putInt written (apart i first last)

end

/-! ### Sums of words -/

/-- A range ends inside a buffer, as a sum of words tells it: the sum neither wraps around nor is too large. -/
def EndsInside (offset length : UInt64) (available : Nat) : Prop :=
  offset ≤ offset + length ∧ (offset + length).toNat ≤ available

instance (offset length : UInt64) (available : Nat) : Decidable (EndsInside offset length available) :=
  inferInstanceAs (Decidable (_ ∧ _))

/-- `slice` with the end of the range added in words. -/
def sliceWords (src : Bytes) (offset length : UInt64) : Attempt Bytes :=
  if EndsInside offset length src.length then .ok ((src.drop offset.toNat).take length.toNat)
  else reject (.outOfBounds offset.toNat length.toNat src.length)

/-- `overwrite` with the end of the range added in words. -/
def overwriteWords (dest : Bytes) (offset : UInt64) (bytes : Bytes) : Attempt Bytes :=
  if EndsInside offset (.ofNat bytes.length) dest.length then
    .ok (dest.take offset.toNat ++ bytes ++ dest.drop (offset + .ofNat bytes.length).toNat)
  else abort

section
variable {offset length : UInt64} {available : Nat}

theorem toNat_end_of_le (first : offset ≤ offset + length) :
    (offset + length).toNat = offset.toNat + length.toNat := by
  have start := offset.toNat_lt
  have size := length.toNat_lt
  rw [UInt64.le_iff_toNat_le, UInt64.toNat_add] at first
  rw [UInt64.toNat_add]
  -- A sum that wraps around has lost more than `length` adds.
  omega

/-- No sum that wraps around passes for the end of a range in a buffer that words can measure. -/
theorem endsInside_iff (small : available < sizeLimit) :
    EndsInside offset length available ↔ offset.toNat + length.toNat ≤ available := by
  constructor
  · rintro ⟨first, last⟩
    rwa [toNat_end_of_le first] at last
  · intro inside
    have exact : (offset + length).toNat = offset.toNat + length.toNat := by
      rw [UInt64.toNat_add]
      exact Nat.mod_eq_of_lt (inside.trans_lt small)
    refine ⟨?_, exact ▸ inside⟩
    rw [UInt64.le_iff_toNat_le, exact]
    exact Nat.le_add_right _ _

end

theorem sliceWords_eq {src : Bytes} (small : src.length < sizeLimit) (offset length : UInt64) :
    sliceWords src offset length = slice src offset.toNat length.toNat := by
  simp only [sliceWords, slice, endsInside_iff small]

theorem overwriteWords_eq {dest bytes : Bytes} (small : dest.length < sizeLimit) (short : bytes.length < sizeLimit)
    (offset : UInt64) : overwriteWords dest offset bytes = overwrite dest offset.toNat bytes := by
  have length : (UInt64.ofNat bytes.length).toNat = bytes.length := UInt64.toNat_ofNat_of_lt' short
  rw [overwriteWords, overwrite]
  by_cases inside : EndsInside offset (.ofNat bytes.length) dest.length
  · have room := (endsInside_iff small).mp inside
    rw [if_pos inside, toNat_end_of_le inside.1, length, if_pos (length ▸ room)]
  · have outside := mt (endsInside_iff small).mpr inside
    rw [if_neg inside, if_neg (length ▸ outside)]

theorem width_lt_sizeLimit (kind : IntKind) : kind.width < sizeLimit := by cases kind <;> decide

/-- Integers are kept as in a store: there is room for one exactly if its bytes end in the buffer, writing changes these
bytes and no others, reading gives what was written, numbers apart do not interfere, and writing what was read changes
nothing. A bound that is added in words is no different. -/
theorem putInt_getInt_lawful {kind : IntKind} {n : Int} (fits : Fits kind n) (dest : Bytes) (offset : Nat) :
    ((∃ result, putInt kind dest offset n = .ok result) ↔ offset + kind.width ≤ dest.length) ∧
    (∀ failure, putInt kind dest offset n = .error failure ↔
      dest.length < offset + kind.width ∧ failure = .abort) ∧
    (∀ result, putInt kind dest offset n = .ok result →
      result.length = dest.length ∧
      (∀ i, ¬ (offset ≤ i ∧ i < offset + kind.width) → result[i]? = dest[i]?) ∧
      Holds kind result offset n ∧
      getInt kind result offset = .ok n ∧
      ∀ other place, (∀ i, place ≤ i → i < place + other.width → ¬ (offset ≤ i ∧ i < offset + kind.width)) →
        getInt other result place = getInt other dest place) ∧
    (∀ stored, getInt kind dest offset = .ok stored ↔ Fits kind stored ∧ Holds kind dest offset stored) ∧
    (∀ stored, getInt kind dest offset = .ok stored → putInt kind dest offset stored = .ok dest) ∧
    (∀ failure, getInt kind dest offset = .error failure ↔
      dest.length < offset + kind.width ∧ failure = .rejected (.outOfBounds offset kind.width dest.length)) ∧
    (∀ word : UInt64, word.toNat = offset → dest.length < sizeLimit →
      overwriteWords dest word (encodeInt kind n) = putInt kind dest offset n ∧
      (sliceWords dest word (.ofNat kind.width)).map (decodeInt kind) = getInt kind dest offset) := by
  refine ⟨exists_putInt_iff, fun _ => putInt_error_iff, ?_, fun _ => getInt_ok_iff_holds, fun _ => putInt_of_getInt,
    fun _ => getInt_error_iff, ?_⟩
  · intro result written
    have holds := holds_of_putInt written
    refine ⟨overwrite_length written, fun _ => getElem?_of_putInt written, holds,
      getInt_ok_iff_holds.mpr ⟨fits, holds⟩, ?_⟩
    intro other place apart
    exact getInt_of_putInt_apart written apart
  · rintro word rfl small
    have short := width_lt_sizeLimit kind
    constructor
    · exact overwriteWords_eq small (by rwa [length_encodeInt]) word
    · rw [sliceWords_eq small, UInt64.toNat_ofNat_of_lt' short, getInt]

/-- A negative number in a dirty buffer, between two numbers of another kind. The last offset that a word can hold is
refused, although its sum with the width is a place in the buffer. -/
theorem minus_two_stored :
    Fits .int16 (-2) ∧
    putInt .int16 (List.replicate 10 238) 4 (-2) = .ok [238, 238, 238, 238, 254, 255, 238, 238, 238, 238] ∧
    getInt .int16 [238, 238, 238, 238, 254, 255, 238, 238, 238, 238] 4 = .ok (-2) ∧
    (∀ place ∈ [0, 6], getInt .uint32 [238, 238, 238, 238, 254, 255, 238, 238, 238, 238] place = .ok 4008636142) ∧
    putInt .int16 (List.replicate 10 238) 4 (-4370) = .ok (List.replicate 10 238) ∧
    ((18446744073709551615 : UInt64) + 2).toNat ≤ 10 ∧
    overwriteWords (List.replicate 10 238) 18446744073709551615 (encodeInt .int16 (-2)) = abort ∧
    getInt .int16 (List.replicate 10 238) 18446744073709551615 =
      reject (.outOfBounds 18446744073709551615 2 10) := by
  have fits : Fits .int16 (-2) := by decide
  have written : putInt .int16 (List.replicate 10 238) 4 (-2) =
      .ok [238, 238, 238, 238, 254, 255, 238, 238, 238, 238] := by decide
  obtain ⟨-, -, put, -, back, -, -⟩ := putInt_getInt_lawful fits (List.replicate 10 238) 4
  obtain ⟨-, refused, -, -, -, missing, words⟩ :=
    putInt_getInt_lawful fits (List.replicate 10 238) 18446744073709551615
  obtain ⟨-, -, -, read, others⟩ := put _ written
  obtain ⟨same, -⟩ := words 18446744073709551615 (by decide) (by decide)
  refine ⟨fits, written, read, ?_, back _ (by decide), by decide, ?_, (missing _).mpr ⟨by decide, rfl⟩⟩
  · intro place listed
    simp only [List.mem_cons, List.not_mem_nil, or_false] at listed
    rw [others .uint32 place (by simp only [IntKind.width]; omega)]
    obtain rfl | rfl := listed <;> decide
  · rw [same]
    exact (refused _).mpr ⟨by decide, rfl⟩

end TableWire.Wire
