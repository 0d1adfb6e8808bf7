import Mathlib
import TableWire.Proofs.Record

/-!
The bytes of a record. `recordBytes` puts them together from the values of the fields: slots, then bytes
of bools from the last to the first, then tails. A record inside another is written well when it replaces
the bytes it announces and no others (`Body.Exact`); then fields, members and bytes of bools are written one
behind the other, as the `_long` lemmas say of a buffer that is long enough.
-/
namespace TableWire.Wire
open Schema Layout

/-! ### Writing behind a front -/

theorem putInt_behind (kind : IntKind) (front rest : Bytes) (n : Int) (room : kind.width ≤ rest.length) :
    putInt kind (front ++ rest) front.length n = .ok (front ++ (encodeInt kind n ++ rest.drop kind.width)) := by
  have written := overwrite_behind front rest (encodeInt kind n) (by simpa using room)
  rwa [length_encodeInt] at written

theorem putOffset_behind (front rest : Bytes) (n : Nat) (room : 4 ≤ rest.length) :
    putOffset (front ++ rest) front.length n = .ok (front ++ (encodeInt .uint32 n ++ rest.drop 4)) :=
  putInt_behind .uint32 front rest n room

theorem writeAt_behind (front rest : Bytes) (write : Bytes → Attempt (Bytes × Nat)) :
    writeAt (front ++ rest) front.length write =
      (write rest).map fun (tail, written) => (front ++ tail, written) := by
  unfold writeAt
  rw [if_pos (by simp), List.drop_left, List.take_left]

/-! ### Exact bodies -/

/-- What a body writes into a buffer of its own length. -/
def Body.image (body : Body) : Bytes :=
  match body.write (List.replicate body.length 0) with
  | .ok (bytes, written) => bytes.take written
  | .error _ => []

/-- A body that replaces the bytes it announces, all of them and no others. -/
structure Body.Exact (body : Body) : Prop where
  length_image : body.image.length = body.length
  long : ∀ dest : Bytes, body.length ≤ dest.length →
    body.write dest = .ok (body.image ++ dest.drop body.length, body.length)
  short : ∀ dest : Bytes, dest.length < body.length → body.write dest = abort

/-- A body is exact when it always writes the same bytes, as many as it announces. -/
theorem Body.exact_of_bytes {body : Body} {bytes : Bytes} (length : bytes.length = body.length)
    (long : ∀ dest : Bytes, body.length ≤ dest.length →
      body.write dest = .ok (bytes ++ dest.drop body.length, body.length))
    (short : ∀ dest : Bytes, dest.length < body.length → body.write dest = abort) :
    body.image = bytes ∧ body.Exact := by
  have image : body.image = bytes := by
    have zeros : body.length ≤ (List.replicate body.length (0 : UInt8)).length := by simp
    unfold Body.image
    rw [long _ zeros]
    simp [← length]
  refine ⟨image, ?_, ?_, short⟩
  · rw [image, length]
  · rw [image]
    exact long

/-! ### Bytes of a record -/

/-- What the slot of a field holds when its tail starts at `tail`. -/
def slotBytes (tail : Nat) : StorageClass → Cell → Bytes
  | .primitive kind, .int n => encodeInt kind n
  | .enum _ kind _, .int n => encodeInt kind n
  | _, .absent => encodeInt .uint32 0
  | _, _ => encodeInt .uint32 tail

/-- The offsets of elements that follow each other from `cursor` on. -/
def itemOffsets (cursor : Nat) : List Body → Bytes
  | [] => []
  | body :: bodies => encodeInt .uint32 cursor ++ itemOffsets (cursor + body.length) bodies

/-- The elements of an array, one behind the other. -/
def itemBytes (bodies : List Body) : Bytes := (bodies.map (·.image)).flatten

def arrayBytes (bodies : List Body) : Bytes :=
  encodeInt .uint32 bodies.length ++ (itemOffsets (4 + 4 * bodies.length) bodies ++ itemBytes bodies)

def tailBytes : StorageClass → Cell → Bytes
  | .string, .text s => encodeInt .uint32 s.utf8ByteSize ++ Text.utf8 s
  | .table _, .record body => body.image
  | .tableArray _, .list bodies => arrayBytes bodies
  | .any, .record body => body.tag.bytes ++ body.image
  | _, _ => []

/-- The slots of members whose tails follow each other from `tail` on. -/
def headerBytes (tail : Nat) : List Member → List Cell → Bytes
  | member :: members, cell :: cells =>
    if member.storage = .bool then headerBytes tail members cells
    else
      slotBytes tail member.storage cell ++
        headerBytes (tail + (tailBytes member.storage cell).length) members cells
  | _, _ => []

def tailsBytes : List Member → List Cell → Bytes
  | member :: members, cell :: cells => tailBytes member.storage cell ++ tailsBytes members cells
  | _, _ => []

/-- The bytes of bools, the first byte first. -/
def flagBytes : List (List String) → List Bool → Bytes
  | [], _ => []
  | names :: more, flags =>
    encodeInt .byte (packBits (flags.take names.length)) ++ flagBytes more (flags.drop names.length)

def recordBytes (plan : Plan) (cells : List Cell) : Bytes :=
  headerBytes plan.baseLength plan.members cells ++
    ((flagBytes (chunkNames plan.members) (flagsOf cells)).reverse ++ tailsBytes plan.members cells)

/-- A cell that a field of a class can be written from. -/
def Writable : StorageClass → Cell → Prop
  | .primitive _, .int _ => True
  | .enum _ _ _, .int _ => True
  | .bool, .bool _ => True
  | .string, .text _ => True
  | .table _, .absent => True
  | .table _, .record body => body.Exact
  | .tableArray _, .list bodies => ∀ body ∈ bodies, body.Exact
  | .any, .absent => True
  | .any, .record body => body.Exact
  | _, _ => False

/-! ### Lengths -/

theorem length_slotBytes {storage : StorageClass} {cell : Cell} (writable : Writable storage cell)
    (slotted : storage ≠ .bool) (tail : Nat) : (slotBytes tail storage cell).length = storage.width := by
  cases storage with
  | bool => exact absurd rfl slotted
  | _ =>
    cases cell with
    | _ => first | exact writable.elim | exact length_encodeInt _ _

theorem length_itemOffsets (cursor : Nat) (bodies : List Body) :
    (itemOffsets cursor bodies).length = 4 * bodies.length := by
  induction bodies generalizing cursor with
  | nil => rfl
  | cons body bodies ih =>
    simp only [itemOffsets, List.length_append, length_encodeInt, ih, List.length_cons, IntKind.width]
    omega

theorem length_itemBytes {bodies : List Body} (exact : ∀ body ∈ bodies, body.Exact) :
    (itemBytes bodies).length = (bodies.map (·.length)).sum := by
  induction bodies with
  | nil => rfl
  | cons body bodies ih =>
    have rest := ih fun other member => exact other (List.mem_cons_of_mem _ member)
    simp only [itemBytes, List.map_cons, List.flatten_cons, List.length_append, List.sum_cons] at rest ⊢
    rw [rest, (exact body (List.mem_cons_self ..)).length_image]

theorem arrayLength_eq (bodies : List Body) :
    arrayLength bodies = 4 + 4 * bodies.length + (bodies.map (·.length)).sum := by
  induction bodies with
  | nil => rfl
  | cons body bodies ih =>
    simp only [arrayLength, List.map_cons, List.foldr_cons, List.sum_cons, List.length_cons] at ih ⊢
    omega

theorem length_arrayBytes {bodies : List Body} (exact : ∀ body ∈ bodies, body.Exact) :
    (arrayBytes bodies).length = arrayLength bodies := by
  simp only [arrayBytes, List.length_append, length_encodeInt, length_itemOffsets, length_itemBytes exact,
    arrayLength_eq, IntKind.width]
  omega

@[simp] theorem tailLength_bool (cell : Cell) : tailLength .bool cell = 0 := rfl

@[simp] theorem tailBytes_bool (cell : Cell) : tailBytes .bool cell = [] := rfl

theorem length_tailBytes {storage : StorageClass} {cell : Cell} (writable : Writable storage cell) :
    (tailBytes storage cell).length = tailLength storage cell := by
  cases storage with
  | string =>
    cases cell with
    | text s => simp [tailBytes, tailLength, stringLength, IntKind.width, Text.length_utf8]
    | _ => exact writable.elim
  | table name =>
    cases cell with
    | record body => exact writable.length_image
    | absent => rfl
    | _ => exact writable.elim
  | tableArray name =>
    cases cell with
    | list bodies => exact length_arrayBytes writable
    | _ => exact writable.elim
  | any =>
    cases cell with
    | record body =>
      have image : body.image.length = body.length := writable.length_image
      simp [tailBytes, tailLength, anyLength, Tag.bytes, image]
      omega
    | absent => rfl
    | _ => exact writable.elim
  | _ => cases cell <;> rfl

/-- The lengths of all tails together. -/
theorem sum_tailLengths_cons (member : Member) (members : List Member) (cell : Cell) (cells : List Cell) :
    (tailLengths (member :: members) (cell :: cells)).sum =
      tailLength member.storage cell + (tailLengths members cells).sum := by
  unfold tailLengths
  rw [List.zip_cons_cons]
  by_cases tailed : member.storage.isVariable = true
  · rw [List.filterMap_cons_some (by simp only [tailed, if_true]; rfl), List.sum_cons]
  · rw [List.filterMap_cons_none (by simp [tailed])]
    have none : tailLength member.storage cell = 0 := by
      cases storage : member.storage with
      | string | any | table | tableArray =>
        simp [storage, StorageClass.isVariable, StorageClass.lengthRule?] at tailed
      | _ => rfl
    rw [none, Nat.zero_add]

section
variable {members : List Member} {cells : List Cell}
  (writable : List.Forall₂ (fun member cell => Writable member.storage cell) members cells)
include writable

theorem length_headerBytes (tail : Nat) : (headerBytes tail members cells).length = slotWidths members := by
  induction writable generalizing tail with
  | nil => rfl
  | @cons member cell members cells head later ih =>
    by_cases flag : member.storage = .bool
    · simp [headerBytes, flag, ih]
    · simp [headerBytes, flag, ih, length_slotBytes head flag]

theorem length_tailsBytes : (tailsBytes members cells).length = (tailLengths members cells).sum := by
  induction writable with
  | nil => rfl
  | cons head later ih =>
    rw [tailsBytes, List.length_append, length_tailBytes head, ih, sum_tailLengths_cons]

end

theorem length_flagBytes (names : List (List String)) (flags : List Bool) :
    (flagBytes names flags).length = names.length := by
  induction names generalizing flags with
  | nil => rfl
  | cons first names ih =>
    simp only [flagBytes, List.length_append, length_encodeInt, ih, List.length_cons, IntKind.width]
    omega

/-! ### Writing into a buffer that is long enough -/

/-- An exact body written behind a front replaces as many bytes as it announces. -/
theorem writeAt_exact {body : Body} (exact : body.Exact) (front rest : Bytes)
    (room : body.length ≤ rest.length) :
    writeAt (front ++ rest) front.length body.write =
      .ok (front ++ (body.image ++ rest.drop body.length), body.length) := by
  rw [writeAt_behind, exact.long rest room]
  rfl

/-- The length and the bytes of a text, behind a front. -/
theorem putText_behind (front rest : Bytes) (s : String) (room : stringLength s ≤ rest.length) :
    (do
      let dest ← putOffset (front ++ rest) front.length s.utf8ByteSize
      let dest ← overwrite dest (front.length + 4) (Text.utf8 s)
      return (dest, stringLength s)) =
      .ok (front ++ (encodeInt .uint32 s.utf8ByteSize ++ Text.utf8 s ++ rest.drop (stringLength s)),
        stringLength s) := by
  unfold stringLength at room
  set count := encodeInt .uint32 s.utf8ByteSize with countIs
  have behind : (front ++ count).length = front.length + 4 := by
    rw [List.length_append, length_encodeInt]
    rfl
  have copied := overwrite_behind (front ++ count) (rest.drop 4) (Text.utf8 s)
    (by rw [Text.length_utf8, List.length_drop]; omega)
  rw [behind] at copied
  rw [putOffset_behind front rest _ (by omega), ← countIs, ← List.append_assoc]
  simp only [bind, Except.bind]
  rw [copied, List.drop_drop, Text.length_utf8]
  simp [pure, Except.pure, stringLength]

/-- Elements written behind a front, their offsets into the gap that ends the front. The induction is on
the elements: each fills the first four bytes of the gap and moves the bytes written so far on. -/
theorem putItems_long {bodies : List Body} (exact : ∀ body ∈ bodies, body.Exact)
    (front gap middle rest : Bytes) (width : gap.length = 4 * bodies.length)
    (room : (bodies.map (·.length)).sum ≤ rest.length) :
    putItems (front ++ (gap ++ (middle ++ rest))) front.length (front.length + gap.length + middle.length)
        bodies =
      .ok (front ++ (itemOffsets (front.length + gap.length + middle.length) bodies ++
          (middle ++ (itemBytes bodies ++ rest.drop ((bodies.map (·.length)).sum)))),
        front.length + gap.length + middle.length + (bodies.map (·.length)).sum) := by
  induction bodies generalizing front gap middle rest with
  | nil =>
    obtain rfl : gap = [] := List.length_eq_zero_iff.mp (by simpa using width)
    simp [putItems, itemOffsets, itemBytes]
  | cons body bodies ih =>
    simp only [List.length_cons, List.map_cons, List.sum_cons] at width room ⊢
    set cursor := front.length + gap.length + middle.length with cursorIs
    set slot := encodeInt .uint32 cursor with slotIs
    have slotWidth : slot.length = 4 := length_encodeInt _ _
    have first := exact body (List.mem_cons_self ..)
    have start : (front ++ (slot ++ (gap.drop 4 ++ middle))).length = cursor := by
      simp only [List.length_append, slotWidth, List.length_drop]
      omega
    have entry : (front ++ slot).length = front.length + 4 := by rw [List.length_append, slotWidth]
    have next : (front ++ slot).length + (gap.drop 4).length + (middle ++ body.image).length =
        cursor + body.length := by
      rw [entry, List.length_drop, List.length_append, first.length_image]
      omega
    have later := ih (fun other member => exact other (List.mem_cons_of_mem _ member)) (front ++ slot)
      (gap.drop 4) (middle ++ body.image) (rest.drop body.length) (by rw [List.length_drop]; omega)
      (by rw [List.length_drop]; omega)
    rw [next, entry] at later
    have written := writeAt_exact first (front ++ (slot ++ (gap.drop 4 ++ middle))) rest (by omega)
    rw [start] at written
    have shape : front ++ (slot ++ (gap ++ (middle ++ rest)).drop 4) =
        front ++ (slot ++ (gap.drop 4 ++ middle)) ++ rest := by
      rw [List.drop_append_of_le_length (by omega)]
      simp
    have shapeAgain : front ++ (slot ++ (gap.drop 4 ++ middle)) ++ (body.image ++ rest.drop body.length) =
        front ++ slot ++ (gap.drop 4 ++ (middle ++ body.image ++ rest.drop body.length)) := by simp
    rw [putItems, putOffset_behind _ _ _ (by simp; omega), ← slotIs]
    simp only [bind, Except.bind]
    rw [shape, written]
    simp only
    rw [shapeAgain, later]
    simp [itemOffsets, itemBytes, ← slotIs, List.drop_drop, Nat.add_assoc]

theorem putArray_behind {bodies : List Body} (exact : ∀ body ∈ bodies, body.Exact) (front rest : Bytes)
    (room : arrayLength bodies ≤ rest.length) :
    (writeAt (front ++ rest) front.length fun array => do
      let array ← putOffset array 0 bodies.length
      putItems array 4 (4 + 4 * bodies.length) bodies) =
      .ok (front ++ (arrayBytes bodies ++ rest.drop (arrayLength bodies)), arrayLength bodies) := by
  rw [arrayLength_eq] at room ⊢
  set count := encodeInt .uint32 bodies.length with countIs
  have countWidth : count.length = 4 := length_encodeInt _ _
  set gap := (rest.drop 4).take (4 * bodies.length) with gapIs
  have gapWidth : gap.length = 4 * bodies.length := by
    rw [gapIs, List.length_take, List.length_drop]
    omega
  have counted := putOffset_behind [] rest bodies.length (by omega)
  rw [← countIs] at counted
  simp only [List.nil_append, List.length_nil] at counted
  have items := putItems_long exact count gap [] ((rest.drop 4).drop (4 * bodies.length)) gapWidth
    (by simp only [List.length_drop]; omega)
  rw [countWidth, gapWidth] at items
  simp only [List.nil_append, List.length_nil, Nat.add_zero, gapIs, List.take_append_drop] at items
  rw [writeAt_behind, counted]
  simp only [bind, Except.bind]
  rw [items]
  simp [Except.map, arrayBytes, ← countIs, List.drop_drop, Nat.add_assoc]

theorem putTagged_behind {body : Body} (exact : body.Exact) (front rest : Bytes)
    (room : 4 + body.length ≤ rest.length) :
    (do
      let dest ← overwrite (front ++ rest) front.length body.tag.bytes
      let (dest, written) ← writeAt dest (front.length + 4) body.write
      return (dest, 4 + written)) =
      .ok (front ++ (body.tag.bytes ++ body.image ++ rest.drop (4 + body.length)), 4 + body.length) := by
  have tagWidth : body.tag.bytes.length = 4 := rfl
  have behind : (front ++ body.tag.bytes).length = front.length + 4 := by rw [List.length_append, tagWidth]
  have written := writeAt_exact exact (front ++ body.tag.bytes) (rest.drop 4)
    (by rw [List.length_drop]; omega)
  rw [behind] at written
  rw [overwrite_behind front rest _ (by omega), tagWidth, ← List.append_assoc]
  simp only [bind, Except.bind]
  rw [written]
  simp [pure, Except.pure, List.drop_drop]

theorem putInt_slot (kind : IntKind) (front old back : Bytes) (n : Int) (width : old.length = kind.width) :
    putInt kind (front ++ (old ++ back)) front.length n = .ok (front ++ (encodeInt kind n ++ back)) := by
  rw [putInt_behind _ _ _ _ (by simp; omega), List.drop_left' width]

theorem putOffset_slot (front old back : Bytes) (n : Nat) (width : old.length = 4) :
    putOffset (front ++ (old ++ back)) front.length n = .ok (front ++ (encodeInt .uint32 n ++ back)) :=
  putInt_slot .uint32 front old back n width

/-- A slot is filled and a tail is written behind all that stands in front of it. -/
theorem putOffset_tail (write : Bytes → Nat → Attempt (Bytes × Nat)) {rest bytes : Bytes} {length : Nat}
    (tail : ∀ front : Bytes, write (front ++ rest) front.length =
      .ok (front ++ (bytes ++ rest.drop length), length))
    (front old middle : Bytes) (width : old.length = 4) :
    (do
      let dest ← putOffset (front ++ (old ++ (middle ++ rest))) front.length
        (front.length + old.length + middle.length)
      write dest (front.length + old.length + middle.length)) =
      .ok (front ++ (encodeInt .uint32 (front.length + old.length + middle.length : Nat) ++
        (middle ++ (bytes ++ rest.drop length))), length) := by
  set slot := encodeInt .uint32 (front.length + old.length + middle.length : Nat) with slotIs
  have start : (front ++ (slot ++ middle)).length = front.length + old.length + middle.length := by
    simp only [slotIs, List.length_append, length_encodeInt, width, IntKind.width]
    omega
  have whole := tail (front ++ (slot ++ middle))
  simp only [start, List.append_assoc] at whole
  rw [putOffset_slot _ _ _ _ width, ← slotIs]
  exact whole

theorem putField_long {storage : StorageClass} {cell : Cell} (writable : Writable storage cell)
    (slotted : storage ≠ .bool) (front old middle rest : Bytes) (width : old.length = storage.width)
    (room : tailLength storage cell ≤ rest.length) :
    putField (front ++ (old ++ (middle ++ rest))) front.length (front.length + old.length + middle.length)
        storage cell =
      .ok (front ++ (slotBytes (front.length + old.length + middle.length) storage cell ++
        (middle ++ (tailBytes storage cell ++ rest.drop (tailLength storage cell)))),
        tailLength storage cell) := by
  cases storage with
  | bool => exact absurd rfl slotted
  | primitive kind =>
    cases cell with
    | int n =>
      rw [putField, putInt_slot _ _ _ _ _ width]
      rfl
    | _ => exact writable.elim
  | enum name kind first =>
    cases cell with
    | int n =>
      rw [putField, putInt_slot _ _ _ _ _ width]
      rfl
    | _ => exact writable.elim
  | string =>
    cases cell with
    | text s =>
      exact putOffset_tail (fun dest offset => do
        let dest ← putOffset dest offset s.utf8ByteSize
        let dest ← overwrite dest (offset + 4) (Text.utf8 s)
        return (dest, stringLength s)) (fun front => putText_behind front rest s room) front old middle width
    | _ => exact writable.elim
  | table name =>
    cases cell with
    | record body =>
      exact putOffset_tail (fun dest offset => writeAt dest offset body.write)
        (fun front => writeAt_exact writable front rest room) front old middle width
    | absent =>
      rw [putField, putSub, putOffset_slot _ _ _ _ width]
      rfl
    | _ => exact writable.elim
  | tableArray name =>
    cases cell with
    | list bodies =>
      exact putOffset_tail (fun dest offset => writeAt dest offset fun array => do
        let array ← putOffset array 0 bodies.length
        putItems array 4 (4 + 4 * bodies.length) bodies)
        (fun front => putArray_behind writable front rest room) front old middle width
    | _ => exact writable.elim
  | any =>
    cases cell with
    | record body =>
      exact putOffset_tail (fun dest offset => do
        let dest ← overwrite dest offset body.tag.bytes
        let (dest, written) ← writeAt dest (offset + 4) body.write
        return (dest, 4 + written)) (fun front => putTagged_behind writable front rest room) front old middle width
    | absent =>
      rw [putField, putAny, putOffset_slot _ _ _ _ width]
      rfl
    | _ => exact writable.elim

theorem putMembers_bool {member : Member} (flag : member.storage = .bool) (dest : Bytes) (tail : Nat)
    (members : List Member) (slots : List Slot) (cell : Cell) (cells : List Cell) :
    putMembers dest tail (member :: members) slots (cell :: cells) =
      putMembers dest tail members slots cells := by
  rw [putMembers]
  exact flag

theorem putMembers_slot {member : Member} (slotted : member.storage ≠ .bool) (dest : Bytes) (tail : Nat)
    (members : List Member) (slot : Slot) (slots : List Slot) (cell : Cell) (cells : List Cell) :
    putMembers dest tail (member :: members) (slot :: slots) (cell :: cells) = (do
      let (dest, written) ← putField dest slot.offset tail member.storage cell
      putMembers dest (tail + written) members slots cells) := by
  rw [putMembers.eq_def dest]
  cases storage : member.storage with
  | bool => exact absurd storage slotted
  | _ => simp only [storage]

/-- Members written behind a front, their slots into the gap that ends the front. The induction is on the
members: each takes its slot off the gap and adds its tail to what is written between gap and rest. -/
theorem putMembers_long {members : List Member} {cells : List Cell}
    (writable : List.Forall₂ (fun member cell => Writable member.storage cell) members cells)
    (front gap middle rest : Bytes) (width : gap.length = slotWidths members)
    (room : (tailLengths members cells).sum ≤ rest.length) :
    putMembers (front ++ (gap ++ (middle ++ rest))) (front.length + gap.length + middle.length) members
        (slotsFrom front.length members) cells =
      .ok (front ++ (headerBytes (front.length + gap.length + middle.length) members cells ++
          (middle ++ (tailsBytes members cells ++ rest.drop ((tailLengths members cells).sum)))),
        front.length + gap.length + middle.length + (tailLengths members cells).sum) := by
  induction writable generalizing front gap middle rest with
  | nil =>
    obtain rfl : gap = [] := List.length_eq_zero_iff.mp width
    simp [putMembers, headerBytes, tailsBytes, tailLengths]
  | @cons member cell members cells head later ih =>
    rw [sum_tailLengths_cons] at room ⊢
    rw [slotWidths_cons] at width
    have tailWidth := length_tailBytes head
    by_cases flag : member.storage = .bool
    · rw [flag, StorageClass.width_bool, Nat.zero_add] at width
      rw [flag, tailLength_bool, Nat.zero_add] at room ⊢
      rw [putMembers_bool flag, slotsFrom, if_pos flag, ih front gap middle rest width room]
      simp only [headerBytes, tailsBytes, flag, if_true, tailBytes_bool, List.nil_append]
    · set tail := front.length + gap.length + middle.length with tailIs
      set slot := slotBytes tail member.storage cell with slotIs
      have slotWidth : slot.length = member.storage.width := length_slotBytes head flag tail
      have firstWidth : (gap.take member.storage.width).length = member.storage.width := by simp; omega
      have middleLength : ((gap.drop member.storage.width) ++ middle).length =
          gap.length - member.storage.width + middle.length := by simp
      have put := putField_long head flag front (gap.take member.storage.width)
        (gap.drop member.storage.width ++ middle) rest firstWidth (by omega)
      have start : front.length + (gap.take member.storage.width).length +
          (gap.drop member.storage.width ++ middle).length = tail := by omega
      rw [start, ← slotIs] at put
      have shape : front ++ (gap.take member.storage.width ++ (gap.drop member.storage.width ++ middle ++ rest)) =
          front ++ (gap ++ (middle ++ rest)) := by
        simp only [List.append_assoc]
        rw [← List.append_assoc (gap.take _), List.take_append_drop]
      rw [shape] at put
      have step := ih (front ++ slot) (gap.drop member.storage.width) (middle ++ tailBytes member.storage cell)
        (rest.drop (tailLength member.storage cell)) (by rw [List.length_drop]; omega)
        (by rw [List.length_drop]; omega)
      have next : (front ++ slot).length + (gap.drop member.storage.width).length +
          (middle ++ tailBytes member.storage cell).length = tail + tailLength member.storage cell := by
        simp only [List.length_append, List.length_drop, slotWidth, tailWidth]
        omega
      rw [next, List.length_append, slotWidth] at step
      have shapeAgain : front ++ (slot ++ (gap.drop member.storage.width ++ middle ++
          (tailBytes member.storage cell ++ rest.drop (tailLength member.storage cell)))) =
          front ++ slot ++ (gap.drop member.storage.width ++ (middle ++ tailBytes member.storage cell ++
            rest.drop (tailLength member.storage cell))) := by simp
      rw [slotsFrom, if_neg flag, putMembers_slot flag, put]
      simp only [bind, Except.bind]
      rw [shapeAgain, step]
      simp [headerBytes, tailsBytes, flag, ← slotIs, tailWidth, List.drop_drop, Nat.add_assoc]

theorem reverse_encodeInt_byte (n : Int) : (encodeInt .byte n).reverse = encodeInt .byte n := by
  obtain ⟨byte, only⟩ := List.length_eq_one_iff.mp (length_encodeInt .byte n)
  rw [only, List.reverse_singleton]

/-- Bytes of bools written into a gap behind a front, from its end backwards. -/
theorem putChunks_long (names : List (List String)) (flags : List Bool) (front gap rest : Bytes)
    (width : gap.length = names.length) :
    putChunks (front ++ (gap ++ rest)) (chunksBelow (front.length + gap.length) names) flags =
      .ok (front ++ ((flagBytes names flags).reverse ++ rest)) := by
  induction names generalizing flags gap rest with
  | nil =>
    obtain rfl : gap = [] := List.length_eq_zero_iff.mp width
    rfl
  | cons first names ih =>
    obtain ⟨gap, last, rfl⟩ := gap.eq_nil_or_concat.resolve_left (by rintro rfl; simp at width)
    rw [List.concat_eq_append] at width ⊢
    rw [List.length_append, List.length_singleton, List.length_cons, Nat.add_right_cancel_iff] at width
    set packed := encodeInt .byte (packBits (flags.take first.length)) with packedIs
    have single : packed.reverse = packed := reverse_encodeInt_byte _
    have put := putInt_slot .byte (front ++ gap) [last] rest (packBits (flags.take first.length)) rfl
    have stop : front.length + (gap ++ [last]).length - 1 = (front ++ gap).length := by simp
    have later := ih (flags.drop first.length) gap (packed ++ rest) width
    rw [← List.length_append, ← List.append_assoc] at later
    rw [chunksBelow, stop, putChunks, ← List.append_assoc, ← List.append_assoc,
      List.append_assoc (front ++ gap), put]
    simp only [bind, Except.bind]
    rw [later, flagBytes, ← packedIs, List.reverse_append, single, List.append_assoc]

end TableWire.Wire
