import Mathlib
import TableWire.Proofs.Encoding

/-!
Writing a record takes exactly its length. A buffer that is long enough gets the bytes of the record over
its front and keeps the rest; on a shorter one writing breaks off. For the second half every writer is
followed through its possible ends (`AbortsOr`): what it has written lies inside the buffer, and the last
byte of a record is among the bytes that are written. A record is exact when all records inside it are, so
every record is (`IsRecord.exact`).
-/
namespace TableWire.Wire
open Schema Layout

/-! ### Writers that can only break off -/

/-- An attempt that breaks off or ends with a result of some kind. -/
def AbortsOr {α : Type} (attempt : Attempt α) (holds : α → Prop) : Prop :=
  attempt = abort ∨ ∃ a, attempt = .ok a ∧ holds a

theorem abortsOr_abort {α : Type} (holds : α → Prop) : AbortsOr abort holds := .inl rfl

theorem abortsOr_ok {α : Type} {holds : α → Prop} {a : α} (held : holds a) : AbortsOr (.ok a) holds :=
  .inr ⟨a, rfl, held⟩

theorem AbortsOr.bind {α β : Type} {attempt : Attempt α} {next : α → Attempt β} {holds : α → Prop}
    {goal : β → Prop} (first : AbortsOr attempt holds) (second : ∀ a, holds a → AbortsOr (next a) goal) :
    AbortsOr (attempt >>= next) goal := by
  rcases first with rfl | ⟨a, rfl, held⟩
  · exact .inl rfl
  · exact second a held

theorem AbortsOr.map {α β : Type} {attempt : Attempt α} {f : α → β} {holds : α → Prop}
    {goal : β → Prop} (first : AbortsOr attempt holds) (result : ∀ a, holds a → goal (f a)) :
    AbortsOr (attempt.map f) goal := by
  rcases first with rfl | ⟨a, rfl, held⟩
  · exact .inl rfl
  · exact abortsOr_ok (result a held)

theorem overwrite_abortsOr (dest : Bytes) (offset : Nat) (bytes : Bytes) :
    AbortsOr (overwrite dest offset bytes) fun result =>
      offset + bytes.length ≤ dest.length ∧ result.length = dest.length := by
  cases written : overwrite dest offset bytes with
  | ok result => exact abortsOr_ok ⟨(overwrite_ok.mp written).1, overwrite_length written⟩
  | error failure =>
    unfold overwrite at written
    split at written
    · simp at written
    · exact .inl (written.symm ▸ rfl)

theorem putInt_abortsOr (kind : IntKind) (dest : Bytes) (offset : Nat) (n : Int) :
    AbortsOr (putInt kind dest offset n) fun result =>
      offset + kind.width ≤ dest.length ∧ result.length = dest.length := by
  have written := overwrite_abortsOr dest offset (encodeInt kind n)
  rwa [length_encodeInt] at written

theorem putOffset_abortsOr (dest : Bytes) (slot n : Nat) :
    AbortsOr (putOffset dest slot n) fun result => slot + 4 ≤ dest.length ∧ result.length = dest.length :=
  putInt_abortsOr .uint32 dest slot n

theorem Body.Exact.abortsOr {body : Body} (exact : body.Exact) (dest : Bytes) :
    AbortsOr (body.write dest) fun (result, written) =>
      written = body.length ∧ body.length ≤ dest.length ∧ result.length = dest.length := by
  by_cases room : body.length ≤ dest.length
  · rw [exact.long dest room]
    refine abortsOr_ok ⟨rfl, room, ?_⟩
    rw [List.length_append, exact.length_image, List.length_drop]
    omega
  · exact .inl (exact.short dest (by omega))

theorem writeAt_abortsOr {write : Bytes → Attempt (Bytes × Nat)} {dest : Bytes} {offset : Nat}
    {length : Nat} (inner : ∀ part : Bytes, part.length = dest.length - offset → AbortsOr (write part)
      fun (result, written) => written = length ∧ length ≤ part.length ∧ result.length = part.length) :
    AbortsOr (writeAt dest offset write) fun (result, written) =>
      written = length ∧ offset + length ≤ dest.length ∧ result.length = dest.length := by
  unfold writeAt
  split
  · next inside =>
    refine (inner (dest.drop offset) (by simp)).map ?_
    rintro ⟨result, written⟩ ⟨rfl, room, same⟩
    rw [List.length_drop] at room same
    refine ⟨rfl, by omega, ?_⟩
    rw [List.length_append, List.length_take, same]
    omega
  · exact abortsOr_abort _

theorem putItems_abortsOr {bodies : List Body} (exact : ∀ body ∈ bodies, body.Exact) (array : Bytes)
    (entry cursor : Nat) :
    AbortsOr (putItems array entry cursor bodies) fun (result, stop) =>
      stop = cursor + (bodies.map (·.length)).sum ∧ (bodies = [] ∨ stop ≤ array.length) ∧
        result.length = array.length := by
  induction bodies generalizing array entry cursor with
  | nil => exact abortsOr_ok ⟨by simp, .inl rfl, rfl⟩
  | cons body bodies ih =>
    rw [putItems]
    refine (putOffset_abortsOr array entry cursor).bind ?_
    rintro slotted ⟨-, sameSlot⟩
    have first := exact body (List.mem_cons_self ..)
    refine (writeAt_abortsOr fun part _ => first.abortsOr part).bind ?_
    rintro ⟨filled, written⟩ ⟨rfl, room, sameItem⟩
    rcases ih (fun other member => exact other (List.mem_cons_of_mem _ member)) filled (entry + 4)
      (cursor + body.length) with aborted | ⟨⟨result, stop⟩, done, stops, last, same⟩
    · exact .inl aborted
    · refine .inr ⟨(result, stop), done, ?_, ?_, by omega⟩
      · rw [stops, List.map_cons, List.sum_cons, Nat.add_assoc]
      · refine .inr ?_
        rcases last with rfl | inside
        · simp only [List.map_nil, List.sum_nil] at stops
          omega
        · omega

theorem putArray_abortsOr {bodies : List Body} (exact : ∀ body ∈ bodies, body.Exact) (dest : Bytes)
    (offset : Nat) :
    AbortsOr (writeAt dest offset fun array => do
        let array ← putOffset array 0 bodies.length
        putItems array 4 (4 + 4 * bodies.length) bodies) fun (result, written) =>
      written = arrayLength bodies ∧ offset + arrayLength bodies ≤ dest.length ∧
        result.length = dest.length := by
  refine writeAt_abortsOr fun part _ => ?_
  refine (putOffset_abortsOr part 0 bodies.length).bind ?_
  rintro counted ⟨room, sameCount⟩
  rcases putItems_abortsOr exact counted 4 (4 + 4 * bodies.length) with
    aborted | ⟨⟨result, stop⟩, done, stops, last, same⟩
  · exact .inl aborted
  · rw [← arrayLength_eq] at stops
    refine .inr ⟨(result, stop), done, stops, ?_, by omega⟩
    rcases last with rfl | inside
    · simpa [arrayLength] using room
    · omega

theorem putField_abortsOr {storage : StorageClass} {cell : Cell} (writable : Writable storage cell)
    (slotted : storage ≠ .bool) (dest : Bytes) (slot tail : Nat) :
    AbortsOr (putField dest slot tail storage cell) fun (result, written) =>
      written = tailLength storage cell ∧ slot + storage.width ≤ dest.length ∧
        (written = 0 ∨ tail + written ≤ dest.length) ∧ result.length = dest.length := by
  -- a field with an empty tail only fills its slot
  have slotOnly : ∀ n : Nat, AbortsOr (do
      let dest ← putOffset dest slot n
      return (dest, 0)) fun (result, written) =>
      written = 0 ∧ slot + 4 ≤ dest.length ∧ (written = 0 ∨ tail + written ≤ dest.length) ∧
        result.length = dest.length := by
    intro n
    refine (putOffset_abortsOr dest slot n).bind ?_
    rintro result ⟨room, same⟩
    exact abortsOr_ok ⟨rfl, room, .inl rfl, same⟩
  -- any other tail is written behind the slot
  have slotAndTail : ∀ {write : Bytes → Attempt (Bytes × Nat)} {length : Nat},
      (∀ dest : Bytes, AbortsOr (write dest) fun (result, written) =>
        written = length ∧ tail + length ≤ dest.length ∧ result.length = dest.length) →
      AbortsOr (putOffset dest slot tail >>= write) fun (result, written) =>
        written = length ∧ slot + 4 ≤ dest.length ∧ (written = 0 ∨ tail + written ≤ dest.length) ∧
          result.length = dest.length := by
    intro write length inner
    refine (putOffset_abortsOr dest slot tail).bind ?_
    rintro filled ⟨room, sameSlot⟩
    rcases inner filled with aborted | ⟨⟨result, written⟩, done, rfl, inside, same⟩
    · exact .inl aborted
    · exact .inr ⟨_, done, rfl, room, .inr (by omega), by omega⟩
  cases storage with
  | bool => exact absurd rfl slotted
  | primitive kind =>
    cases cell with
    | int n =>
      refine (putInt_abortsOr kind dest slot n).map ?_
      rintro result ⟨room, same⟩
      exact ⟨rfl, room, .inl rfl, same⟩
    | _ => exact writable.elim
  | enum name kind first =>
    cases cell with
    | int n =>
      refine (putInt_abortsOr kind dest slot n).map ?_
      rintro result ⟨room, same⟩
      exact ⟨rfl, room, .inl rfl, same⟩
    | _ => exact writable.elim
  | string =>
    cases cell with
    | text s =>
      refine slotAndTail fun dest => ?_
      refine (putOffset_abortsOr dest tail s.utf8ByteSize).bind ?_
      rintro counted ⟨-, sameCount⟩
      refine (overwrite_abortsOr counted (tail + 4) (Text.utf8 s)).bind ?_
      rintro result ⟨room, same⟩
      rw [Text.length_utf8] at room
      refine abortsOr_ok ⟨rfl, ?_, by omega⟩
      simp only [tailLength, stringLength]
      omega
    | _ => exact writable.elim
  | table name =>
    cases cell with
    | record body => exact slotAndTail fun dest => writeAt_abortsOr fun part _ => writable.abortsOr part
    | absent => exact slotOnly 0
    | _ => exact writable.elim
  | tableArray name =>
    cases cell with
    | list bodies => exact slotAndTail fun dest => putArray_abortsOr writable dest tail
    | _ => exact writable.elim
  | any =>
    cases cell with
    | record body =>
      refine slotAndTail fun dest => ?_
      refine (overwrite_abortsOr dest tail body.tag.bytes).bind ?_
      rintro tagged ⟨-, sameTag⟩
      refine (writeAt_abortsOr fun part _ => Body.Exact.abortsOr writable part).bind ?_
      rintro ⟨result, written⟩ ⟨rfl, room, same⟩
      refine abortsOr_ok ⟨rfl, ?_, by omega⟩
      simp only [tailLength, anyLength, Option.elim_some]
      omega
    | absent => exact slotOnly 0
    | _ => exact writable.elim

theorem putMembers_abortsOr {members : List Member} {cells : List Cell}
    (writable : List.Forall₂ (fun member cell => Writable member.storage cell) members cells)
    (dest : Bytes) (offset tail : Nat) :
    AbortsOr (putMembers dest tail members (slotsFrom offset members) cells) fun (result, stop) =>
      stop = tail + (tailLengths members cells).sum ∧ (stop = tail ∨ stop ≤ dest.length) ∧
        (slotWidths members = 0 ∨ offset + slotWidths members ≤ dest.length) ∧
        result.length = dest.length := by
  induction writable generalizing dest offset tail with
  | nil => exact abortsOr_ok ⟨rfl, .inl rfl, .inl rfl, rfl⟩
  | @cons member cell members cells head later ih =>
    rw [sum_tailLengths_cons, slotWidths_cons]
    by_cases flag : member.storage = .bool
    · rw [putMembers_bool flag, slotsFrom, if_pos flag, flag, tailLength_bool, StorageClass.width_bool,
        Nat.zero_add, Nat.zero_add]
      exact ih dest offset tail
    · rw [slotsFrom, if_neg flag, putMembers_slot flag]
      refine (putField_abortsOr head flag dest offset tail).bind ?_
      rintro ⟨filled, written⟩ ⟨rfl, slotRoom, tailRoom, sameField⟩
      rcases ih filled (offset + member.storage.width) (tail + tailLength member.storage cell) with
        aborted | ⟨⟨result, stop⟩, done, stops, inside, slots, same⟩
      · exact .inl aborted
      · exact .inr ⟨(result, stop), done, by omega, by omega, by omega, by omega⟩

theorem putChunks_abortsOr (names : List (List String)) (flags : List Bool) (dest : Bytes) (stop : Nat)
    (behind : names.length ≤ stop) :
    AbortsOr (putChunks dest (chunksBelow stop names) flags) fun result =>
      (names = [] ∨ stop ≤ dest.length) ∧ result.length = dest.length := by
  induction names generalizing flags dest stop with
  | nil => exact abortsOr_ok ⟨.inl rfl, rfl⟩
  | cons first names ih =>
    rw [List.length_cons] at behind
    rw [chunksBelow, putChunks]
    refine (putInt_abortsOr .byte dest (stop - 1) _).bind ?_
    rintro filled ⟨room, sameByte⟩
    rcases ih (flags.drop first.length) filled (stop - 1) (by omega) with
      aborted | ⟨result, done, -, same⟩
    · exact .inl aborted
    · simp only [IntKind.width] at room
      exact .inr ⟨result, done, .inr (by omega), by omega⟩

/-! ### Records are exact -/

section
variable {table : Table} {cells : List Cell} (computed : table.plan.Computed)
  (writable : List.Forall₂ (fun member cell => Writable member.storage cell) table.plan.members cells)
include computed writable

theorem length_recordBytes : (recordBytes table.plan cells).length = (table.body cells).length := by
  simp only [recordBytes, List.length_append, List.length_reverse, length_headerBytes writable,
    length_flagBytes, length_tailsBytes writable, Table.body, Plan.totalLength_eq, computed.baseLength_eq]
  omega

/-- Where the bytes of a record stand, so do its slots, its bytes of bools and its tails. -/
theorem standsAt_recordBytes {src : Bytes} :
    StandsAt src 0 (recordBytes table.plan cells) ↔
      StandsAt src 0 (headerBytes table.plan.baseLength table.plan.members cells) ∧
      StandsAt src (slotWidths table.plan.members)
        (flagBytes (chunkNames table.plan.members) (flagsOf cells)).reverse ∧
      StandsAt src table.plan.baseLength (tailsBytes table.plan.members cells) := by
  rw [recordBytes, standsAt_append, standsAt_append, length_headerBytes writable, List.length_reverse,
    length_flagBytes, Nat.zero_add, ← computed.baseLength_eq]

theorem body_write_long (dest : Bytes) (room : (table.body cells).length ≤ dest.length) :
    (table.body cells).write dest =
      .ok (recordBytes table.plan cells ++ dest.drop (table.body cells).length, (table.body cells).length) := by
  have base := computed.baseLength_eq
  simp only [Table.body, Plan.totalLength_eq] at room ⊢
  obtain ⟨gap, later, whole, gapWidth⟩ : ∃ gap later : Bytes, dest = gap ++ later ∧
      gap.length = slotWidths table.plan.members :=
    ⟨dest.take (slotWidths table.plan.members), dest.drop (slotWidths table.plan.members),
      (List.take_append_drop _ _).symm, by rw [List.length_take]; omega⟩
  obtain ⟨middle, rest, split, middleWidth⟩ : ∃ middle rest : Bytes, later = middle ++ rest ∧
      middle.length = (chunkNames table.plan.members).length :=
    ⟨later.take (chunkNames table.plan.members).length, later.drop (chunkNames table.plan.members).length,
      (List.take_append_drop _ _).symm, by
        have total := congrArg List.length whole
        rw [List.length_append] at total
        rw [List.length_take]
        omega⟩
  subst split whole
  simp only [List.length_append] at room
  have members := putMembers_long writable [] gap middle rest gapWidth (by omega)
  have start : ([] : Bytes).length + gap.length + middle.length = table.plan.baseLength := by
    rw [List.length_nil]
    omega
  rw [start, List.length_nil, ← computed.slots_eq] at members
  simp only [List.nil_append] at members
  have chunks := putChunks_long (chunkNames table.plan.members) (flagsOf cells)
    (headerBytes table.plan.baseLength table.plan.members cells) middle
    (tailsBytes table.plan.members cells ++
      rest.drop ((tailLengths table.plan.members cells).sum)) middleWidth
  have stop : (headerBytes table.plan.baseLength table.plan.members cells).length + middle.length =
      table.plan.baseLength := by
    rw [length_headerBytes writable]
    omega
  rw [stop, ← computed.chunks_eq] at chunks
  have behind : (gap ++ (middle ++ rest)).drop
      (table.plan.baseLength + (tailLengths table.plan.members cells).sum) =
      rest.drop ((tailLengths table.plan.members cells).sum) := by
    rw [← List.append_assoc, ← List.drop_drop, List.drop_left' (by rw [List.length_append]; omega)]
  rw [members]
  simp only [bind, Except.bind]
  rw [chunks, behind]
  simp [recordBytes, pure, Except.pure]

theorem body_write_short (dest : Bytes) (short : dest.length < (table.body cells).length) :
    (table.body cells).write dest = abort := by
  have base := computed.baseLength_eq
  simp only [Table.body, Plan.totalLength_eq] at short ⊢
  have attempt : AbortsOr (do
      let (dest, stop) ← putMembers dest table.plan.baseLength table.plan.members table.plan.slots cells
      let dest ← putChunks dest table.plan.chunks (flagsOf cells)
      return (dest, stop)) fun _ => False := by
    rw [computed.slots_eq, computed.chunks_eq]
    refine (putMembers_abortsOr writable dest 0 table.plan.baseLength).bind ?_
    rintro ⟨filled, stop⟩ ⟨stops, tails, slots, same⟩
    refine (putChunks_abortsOr (chunkNames table.plan.members) (flagsOf cells) filled
      table.plan.baseLength (by omega)).bind ?_
    rintro result ⟨chunks, -⟩
    -- without bytes of bools the header ends with its last slot
    have header : table.plan.baseLength ≤ dest.length := by
      rcases chunks with none | inside
      · rw [none, List.length_nil] at base
        omega
      · omega
    omega
  rcases attempt with aborted | ⟨_, -, impossible⟩
  · exact aborted
  · exact impossible.elim

/-- A record that is put together from exact records is exact. -/
theorem body_exact : (table.body cells).image = recordBytes table.plan cells ∧ (table.body cells).Exact :=
  Body.exact_of_bytes (length_recordBytes computed writable) (body_write_long computed writable)
    (body_write_short computed writable)

end

/-- What suits a field can be written once all records in it are exact. -/
theorem Suits.writable {catalog : Catalog} {storage : StorageClass} {value : Value}
    (suits : Suits catalog storage value) (exact : ∀ inner ∈ value.held, inner.body.Exact) :
    Writable storage value.cell := by
  cases value with
  | record table members =>
    rw [Value.cell_record]
    have inside := exact _ (List.mem_singleton.mpr rfl)
    cases storage with
    | table name => exact inside
    | any => exact inside
    | _ => exact suits.elim
  | list items =>
    rw [Value.cell_list]
    cases storage with
    | tableArray name =>
      intro body member
      obtain ⟨item, inside, rfl⟩ := List.mem_map.mp member
      exact exact item inside
    | _ => exact suits.elim
  | _ =>
    rw [Value.cell]
    cases storage with
    | _ => first | exact suits.elim | trivial

/-- Members of a record can be written when the records inside it are exact. -/
theorem writable_members {catalog : Catalog} {table : Table} {members : List Value}
    (suited : List.Forall₂ (fun member value => Suits catalog member.storage value) table.plan.members members)
    (exact : ∀ inner ∈ (Value.record table members).children, inner.body.Exact) :
    List.Forall₂ (fun member cell => Writable member.storage cell) table.plan.members
      (members.map Value.cell) := by
  rw [List.forall₂_map_right_iff]
  obtain ⟨same, each⟩ := List.forall₂_iff_zip.mp suited
  refine List.forall₂_iff_zip.mpr ⟨same, fun {member value} pair => (each pair).writable ?_⟩
  intro inner held
  exact exact inner (Value.mem_children_of_member (List.of_mem_zip pair).2 held)

/-- Every record of a table is exact. The induction is on the nesting of records. -/
theorem IsRecord.exact {catalog : Catalog} (wellFormed : catalog.WellFormed) {table : Table} {value : Value}
    (record : IsRecord catalog table value) (member : table ∈ catalog.tables) : value.body.Exact := by
  induction record with
  | @record table members suited nested ih =>
    rw [Value.body_record]
    refine (body_exact (wellFormed.computed table member) (writable_members suited ?_)).2
    intro inner child
    obtain ⟨innerTable, known, tabled⟩ := children_table suited inner child
    exact ih inner child innerTable tabled known

/-- All records directly inside a record are exact. -/
theorem exact_children {catalog : Catalog} (wellFormed : catalog.WellFormed) {table : Table} {members : List Value}
    (suited : List.Forall₂ (fun member value => Suits catalog member.storage value) table.plan.members members)
    (nested : ∀ inner ∈ (Value.record table members).children, ∀ innerTable,
      inner.table? = some innerTable → IsRecord catalog innerTable inner) :
    ∀ inner ∈ (Value.record table members).children, inner.body.Exact := by
  intro inner child
  obtain ⟨innerTable, known, tabled⟩ := children_table suited inner child
  exact (nested inner child innerTable tabled).exact wellFormed known

/-- An exact record gives its bytes, as many as its length. -/
theorem Body.Exact.toBytes {value : Value} (exact : value.body.Exact) : value.toBytes = .ok value.body.image := by
  have zeros : value.length ≤ (List.replicate value.length (0 : UInt8)).length := by simp
  rw [Value.toBytes, Value.write, exact.long _ zeros]
  simp [Except.map, ← exact.length_image]

/-- Writing takes exactly the length of a record: a buffer with room for it gets its bytes, whatever it
held, and keeps all that follows; a buffer without room makes writing break off. The length is the header
and the tails of the variable fields in order. -/
theorem write_exactly_length {catalog : Catalog} (accepted : catalog.Accepted) {table : Table}
    (member : table ∈ catalog.tables) {value : Value} (record : IsRecord catalog table value) :
    (∃ bytes, value.toBytes = .ok bytes ∧ bytes.length = value.length ∧
      (∀ dest : Bytes, value.length ≤ dest.length →
        value.write dest = .ok (bytes ++ dest.drop value.length, value.length)) ∧
      ∀ dest : Bytes, dest.length < value.length → value.write dest = abort) ∧
    value.length = table.plan.totalLength (table.plan.variableFields.map value.tailOf) := by
  have wellFormed := accepted.wellFormed
  have exact := record.exact wellFormed member
  refine ⟨⟨value.body.image, exact.toBytes, exact.length_image, exact.long, exact.short⟩, ?_⟩
  exact record.length_eq (wellFormed.computed table member) (wellFormed.distinct table member)

open Samples in
/-- Rex takes 99 bytes: of 100 dirty ones the last stays, and 98 are not enough. -/
theorem write_rex :
    IsRecord kennel dog rex ∧ rex.length = 99 ∧
    (∃ bytes, rex.toBytes = .ok bytes ∧ bytes.length = 99 ∧
      rex.write (List.replicate 100 255) = .ok (bytes ++ [255], 99) ∧
      rex.write (List.replicate 98 255) = abort) ∧
    99 = dog.plan.totalLength (dog.plan.variableFields.map rex.tailOf) := by
  have length : rex.length = 99 := by decide +kernel
  have exactly := write_exactly_length kennel_accepted (by simp [kennel]) rex_isRecord
  rw [length] at exactly
  obtain ⟨⟨bytes, own, size, long, short⟩, total⟩ := exactly
  exact ⟨rex_isRecord, length, ⟨bytes, own, size, long (List.replicate 100 255) (by simp),
    short (List.replicate 98 255) (by simp)⟩, total⟩

end TableWire.Wire
