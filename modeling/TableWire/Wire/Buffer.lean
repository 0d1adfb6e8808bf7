import TableWire.Schema.IntKind
import TableWire.Wire.Failure

/-!
Integers at byte offsets. All integers are little-endian, signed ones in two's complement. Every
place in a record is known from its layout, so nothing here keeps a cursor.
-/
namespace TableWire.Wire
open Schema (IntKind)

/-- The lowest `width` bytes of a number, least significant first. -/
def littleEndian : (width : Nat) → Nat → Bytes
  | 0, _ => []
  | width + 1, n => UInt8.ofNat (n % 256) :: littleEndian width (n / 256)

/-- The number that bytes stand for, least significant first. -/
def ofLittleEndian : Bytes → Nat
  | [] => 0
  | byte :: bytes => byte.toNat + 256 * ofLittleEndian bytes

/-- How many numbers an integer of a kind can tell apart. -/
def range : IntKind → Nat
  | .byte => 256
  | .int16 | .uint16 => 65536
  | .int32 | .uint32 => 4294967296

/-- The numbers that a kind can hold. -/
def Fits (kind : IntKind) (n : Int) : Prop :=
  if kind.isSigned then -(range kind / 2 : Nat) ≤ n ∧ n < (range kind / 2 : Nat)
  else 0 ≤ n ∧ n < range kind

instance (kind : IntKind) (n : Int) : Decidable (Fits kind n) := by
  unfold Fits; infer_instance

/-- The bytes of an integer. -/
def encodeInt (kind : IntKind) (n : Int) : Bytes :=
  littleEndian kind.width (n % range kind).toNat

/-- The integer that bytes of the kind's width stand for. -/
def decodeInt (kind : IntKind) (bytes : Bytes) : Int :=
  let n := ofLittleEndian bytes
  if kind.isSigned ∧ range kind / 2 ≤ n then n - range kind else n

/-- The `length` bytes from `offset` on. -/
def slice (src : Bytes) (offset length : Nat) : Attempt Bytes :=
  if offset + length ≤ src.length then .ok ((src.drop offset).take length)
  else reject (.outOfBounds offset length src.length)

/-- All bytes from `offset` on. -/
def rest (src : Bytes) (offset : Nat) : Attempt Bytes :=
  (slice src offset 0).map fun _ => src.drop offset

/-- Puts bytes over those at `offset`. -/
def overwrite (dest : Bytes) (offset : Nat) (bytes : Bytes) : Attempt Bytes :=
  if offset + bytes.length ≤ dest.length then
    .ok (dest.take offset ++ bytes ++ dest.drop (offset + bytes.length))
  else abort

def putInt (kind : IntKind) (dest : Bytes) (offset : Nat) (n : Int) : Attempt Bytes :=
  overwrite dest offset (encodeInt kind n)

def getInt (kind : IntKind) (src : Bytes) (offset : Nat) : Attempt Int :=
  (slice src offset kind.width).map (decodeInt kind)

/-- Puts an offset, a length or a count into four bytes; what does not fit them is cut off. -/
def putOffset (dest : Bytes) (slot : Nat) (n : Nat) : Attempt Bytes :=
  putInt .uint32 dest slot n

def getOffset (src : Bytes) (slot : Nat) : Attempt Nat :=
  (getInt .uint32 src slot).map Int.toNat

end TableWire.Wire
