import Mathlib
import TableWire.Proofs.Outcomes
import TableWire.Wire.Buffer

/-!
Bytes of a buffer: when an access to them succeeds and what it gives. An integer that its kind can
hold is read back from where it stands (`getInt_of_standsAt`). Reading asks only for the bytes that it
takes, and it is refused, never broken off, when they are missing.
-/
namespace TableWire.Text

theorem length_utf8 (text : String) : (utf8 text).length = text.utf8ByteSize := rfl

theorem ofUtf8?_utf8 (text : String) : ofUtf8? (utf8 text) = some text := by
  unfold ofUtf8? utf8 String.fromUTF8?
  rw [dif_pos text.isValidUTF8]
  rfl

theorem utf8_of_ofUtf8? {bytes : Bytes} {text : String} (read : ofUtf8? bytes = some text) :
    utf8 text = bytes := by
  unfold ofUtf8? String.fromUTF8? at read
  split at read
  · obtain rfl := Option.some.inj read
    rfl
  · simp at read

end TableWire.Text

namespace TableWire.Wire
open Schema (IntKind)

/-! ### Attempts -/

/-- An attempt that ends with a result or a reason. -/
def Ends {α : Type} (attempt : Attempt α) : Prop := attempt ≠ abort

theorem ends_ok {α : Type} (a : α) : Ends (.ok a : Attempt α) := by simp [Ends, abort]

theorem ends_pure {α : Type} (a : α) : Ends (pure a : Attempt α) := ends_ok a

theorem ends_reject {α : Type} (error : DecodeError) : Ends (reject error : Attempt α) := by
  simp [Ends, reject, abort]

/-- A sequence ends when its first part does and its second part does after every result of the
first. -/
theorem ends_bind {α β : Type} {attempt : Attempt α} {next : α → Attempt β} (first : Ends attempt)
    (second : ∀ a, attempt = .ok a → Ends (next a)) : Ends (attempt >>= next) := by
  cases attempt with
  | error failure =>
    intro aborted
    apply first
    simpa [bind, Except.bind, abort] using aborted
  | ok a => exact second a rfl

theorem ends_map {α β : Type} {attempt : Attempt α} (f : α → β) (ends : Ends attempt) :
    Ends (attempt.map f) := by
  cases attempt with
  | error failure =>
    intro aborted
    apply ends
    simpa [Except.map, abort] using aborted
  | ok a => exact ends_ok (f a)

theorem ends_iff {α : Type} {attempt : Attempt α} :
    Ends attempt ↔ (∃ a, attempt = .ok a) ∨ ∃ error, attempt = .error (.rejected error) := by
  cases attempt with
  | ok a => simp [ends_ok]
  | error failure =>
    cases failure with
    | abort => simp [Ends, abort]
    | rejected error => simp [Ends, abort]

theorem sized_ok {size n : Nat} : sized size = .ok n ↔ size < sizeLimit ∧ n = size := by
  unfold sized
  split
  · next small => simp [small, eq_comm]
  · next large => simp [large, abort]

theorem sized_of_lt {size : Nat} (small : size < sizeLimit) : sized size = .ok size :=
  sized_ok.mpr ⟨small, rfl⟩

/-! ### Little-endian numbers -/

@[simp] theorem length_littleEndian (width n : Nat) : (littleEndian width n).length = width := by
  induction width generalizing n with
  | zero => rfl
  | succ width ih => simp [littleEndian, ih]

theorem ofLittleEndian_littleEndian (width n : Nat) :
    ofLittleEndian (littleEndian width n) = n % 256 ^ width := by
  induction width generalizing n with
  | zero => simp [littleEndian, ofLittleEndian, Nat.mod_one]
  | succ width ih =>
    have low : (UInt8.ofNat (n % 256)).toNat = n % 256 := by simp
    rw [littleEndian, ofLittleEndian, ih, low, pow_succ, mul_comm (256 ^ width) 256, Nat.mod_mul]

theorem ofLittleEndian_lt (bytes : Bytes) : ofLittleEndian bytes < 256 ^ bytes.length := by
  induction bytes with
  | nil => simp [ofLittleEndian]
  | cons byte bytes ih =>
    have small := byte.toNat_lt
    rw [ofLittleEndian, List.length_cons, pow_succ]
    omega

theorem range_eq (kind : IntKind) : range kind = 256 ^ kind.width := by
  cases kind <;> rfl

@[simp] theorem length_encodeInt (kind : IntKind) (n : Int) : (encodeInt kind n).length = kind.width :=
  length_littleEndian _ _

/-- Two's complement loses no number that the kind can hold. -/
theorem decodeInt_encodeInt {kind : IntKind} {n : Int} (fits : Fits kind n) :
    decodeInt kind (encodeInt kind n) = n := by
  have stored : ofLittleEndian (encodeInt kind n) = (n % range kind).toNat := by
    rw [encodeInt, ofLittleEndian_littleEndian, ← range_eq]
    apply Nat.mod_eq_of_lt
    cases kind <;> simp only [range] <;> omega
  unfold decodeInt Fits at *
  rw [stored]
  cases kind <;> simp [IntKind.isSigned, range] at fits ⊢ <;> try split
  all_goals omega

/-! ### Reading -/

theorem slice_ok {src bytes : Bytes} {offset length : Nat} :
    slice src offset length = .ok bytes ↔
      offset + length ≤ src.length ∧ bytes = (src.drop offset).take length := by
  unfold slice
  split
  · next inside => simp [inside, eq_comm]
  · next outside => simp [outside, reject]

theorem ends_slice (src : Bytes) (offset length : Nat) : Ends (slice src offset length) := by
  unfold slice
  split
  · exact ends_ok _
  · exact ends_reject _

theorem rest_ok {src bytes : Bytes} {offset : Nat} :
    rest src offset = .ok bytes ↔ offset ≤ src.length ∧ bytes = src.drop offset := by
  unfold rest
  rw [map_ok_iff]
  constructor
  · rintro ⟨none, sliced, rfl⟩
    exact ⟨(slice_ok.mp sliced).1, rfl⟩
  · rintro ⟨inside, rfl⟩
    exact ⟨_, slice_ok.mpr ⟨inside, rfl⟩, rfl⟩

theorem ends_rest (src : Bytes) (offset : Nat) : Ends (rest src offset) :=
  ends_map _ (ends_slice src offset 0)

theorem getInt_ok {kind : IntKind} {src : Bytes} {offset : Nat} {n : Int} :
    getInt kind src offset = .ok n ↔
      offset + kind.width ≤ src.length ∧ n = decodeInt kind ((src.drop offset).take kind.width) := by
  unfold getInt
  rw [map_ok_iff]
  constructor
  · rintro ⟨bytes, sliced, rfl⟩
    obtain ⟨inside, rfl⟩ := slice_ok.mp sliced
    exact ⟨inside, rfl⟩
  · rintro ⟨inside, rfl⟩
    exact ⟨_, slice_ok.mpr ⟨inside, rfl⟩, rfl⟩

theorem getInt_fits {kind : IntKind} {src : Bytes} {offset : Nat} {n : Int}
    (stored : getInt kind src offset = .ok n) : Fits kind n := by
  obtain ⟨inside, rfl⟩ := getInt_ok.mp stored
  have width : ((src.drop offset).take kind.width).length = kind.width := by
    rw [List.length_take, List.length_drop]
    omega
  have below := ofLittleEndian_lt ((src.drop offset).take kind.width)
  rw [width, ← range_eq] at below
  cases kind with
  | byte | uint16 | uint32 => simpa [decodeInt, Fits, IntKind.isSigned, range] using below
  | int16 | int32 =>
    simp only [decodeInt, Fits, IntKind.isSigned, range, if_true, true_and] at below ⊢
    split <;> omega

theorem ends_getInt (kind : IntKind) (src : Bytes) (offset : Nat) : Ends (getInt kind src offset) :=
  ends_map _ (ends_slice src offset kind.width)

/-- The bytes are those of a buffer from an offset on. -/
def StandsAt (src : Bytes) (offset : Nat) (bytes : Bytes) : Prop := bytes <+: src.drop offset

/-- Bytes in two parts stand where the first part does, and the second part right behind it. -/
theorem standsAt_append {src : Bytes} {offset : Nat} {first second : Bytes} :
    StandsAt src offset (first ++ second) ↔
      StandsAt src offset first ∧ StandsAt src (offset + first.length) second := by
  unfold StandsAt
  rw [← List.drop_drop]
  constructor
  · rintro ⟨back, whole⟩
    rw [← whole, List.append_assoc, List.drop_left]
    exact ⟨List.prefix_append _ _, List.prefix_append _ _⟩
  · rintro ⟨⟨back, whole⟩, later⟩
    rw [← whole, List.drop_left] at later
    rw [← whole]
    exact (List.prefix_append_right_inj first).mpr later

/-- Bytes that stand somewhere in a buffer end in it. -/
theorem StandsAt.room {src : Bytes} {offset : Nat} {bytes : Bytes} (stands : StandsAt src offset bytes)
    (inside : offset ≤ src.length) : offset + bytes.length ≤ src.length := by
  have long := stands.length_le
  rw [List.length_drop] at long
  omega

theorem standsAt_drop {src : Bytes} {start offset : Nat} {bytes : Bytes} :
    StandsAt (src.drop start) offset bytes ↔ StandsAt src (start + offset) bytes := by
  rw [StandsAt, StandsAt, List.drop_drop]

theorem getInt_of_standsAt {kind : IntKind} {src : Bytes} {offset : Nat} {n : Int} (fits : Fits kind n)
    (stands : StandsAt src offset (encodeInt kind n)) : getInt kind src offset = .ok n := by
  have long := stands.length_le
  have wide : 0 < kind.width := by cases kind <;> decide
  rw [length_encodeInt, List.length_drop] at long
  rw [getInt_ok]
  refine ⟨by omega, ?_⟩
  have taken := List.prefix_iff_eq_take.mp stands
  rw [length_encodeInt] at taken
  rw [← taken, decodeInt_encodeInt fits]

/-- The first number that four bytes cannot hold. -/
def offsetLimit : Nat := 4294967296

theorem fits_offset {n : Nat} (small : n < offsetLimit) : Fits .uint32 n := by
  simp only [Fits, IntKind.isSigned, range, offsetLimit] at *
  simp
  omega

theorem getOffset_of_standsAt {src : Bytes} {slot n : Nat} (small : n < offsetLimit)
    (stands : StandsAt src slot (encodeInt .uint32 n)) : getOffset src slot = .ok n := by
  unfold getOffset
  rw [getInt_of_standsAt (fits_offset small) stands]
  simp [Except.map]

/-- An offset is read from four bytes inside the buffer, and four bytes hold no large number. -/
theorem getOffset_bounds {src : Bytes} {slot n : Nat} (read : getOffset src slot = .ok n) :
    slot + 4 ≤ src.length ∧ n < offsetLimit := by
  unfold getOffset at read
  obtain ⟨stored, found, rfl⟩ := map_ok_iff.mp read
  obtain ⟨inside, rfl⟩ := getInt_ok.mp found
  refine ⟨inside, ?_⟩
  have small := ofLittleEndian_lt ((src.drop slot).take 4)
  have width : ((src.drop slot).take 4).length = 4 := by
    simp only [IntKind.width] at inside
    simp
    omega
  rw [width] at small
  simp only [decodeInt, IntKind.isSigned, IntKind.width, offsetLimit]
  simpa using small

theorem ends_getOffset (src : Bytes) (slot : Nat) : Ends (getOffset src slot) :=
  ends_map _ (ends_getInt .uint32 src slot)

/-! ### Writing -/

theorem overwrite_ok {dest bytes result : Bytes} {offset : Nat} :
    overwrite dest offset bytes = .ok result ↔ offset + bytes.length ≤ dest.length ∧
      result = dest.take offset ++ bytes ++ dest.drop (offset + bytes.length) := by
  unfold overwrite
  split
  · next inside => simp [inside, eq_comm]
  · next outside => simp [outside, abort]

/-- Writing either breaks off or keeps the length of the buffer. -/
theorem overwrite_length {dest bytes result : Bytes} {offset : Nat}
    (written : overwrite dest offset bytes = .ok result) : result.length = dest.length := by
  obtain ⟨inside, rfl⟩ := overwrite_ok.mp written
  simp
  omega

/-- Bytes take the place of as many bytes behind a front. -/
theorem overwrite_behind (front rest bytes : Bytes) (room : bytes.length ≤ rest.length) :
    overwrite (front ++ rest) front.length bytes = .ok (front ++ (bytes ++ rest.drop bytes.length)) := by
  rw [overwrite_ok]
  refine ⟨by simp; omega, ?_⟩
  rw [List.take_left, ← List.drop_drop, List.drop_left, List.append_assoc]

end TableWire.Wire
