import Mathlib
import TableWire.Proofs.Writing

/-!
The numbers that a record keeps in four bytes: where its tails start, how long its texts are, how many elements its
arrays have and where these start, and the same for all records inside (`Stored`). Four bytes keep a number only up to
a multiple of `offsetLimit` (`getOffset_of_encodeInt`). No number is larger than the record (`Stored.holds`), so that
records shorter than the limit keep all of them; a longer record is written too, and can lose some without a failure.
-/
namespace TableWire.Wire
open Schema Layout

/-! ### Four bytes -/

/-- Four bytes keep what is left of a number below the limit. -/
theorem getOffset_of_encodeInt {src : Bytes} {slot n : Nat} (stands : StandsAt src slot (encodeInt .uint32 n)) :
    getOffset src slot = .ok (n % offsetLimit) := by
  have same : encodeInt .uint32 n = encodeInt .uint32 (n % offsetLimit : Nat) := by
    have reduced : ((n : Int) % range .uint32).toNat = (((n % offsetLimit : Nat) : Int) % range .uint32).toNat := by
      simp only [range, offsetLimit]
      omega
    rw [encodeInt, encodeInt, reduced]
  rw [same] at stands
  exact getOffset_of_standsAt (Nat.mod_lt _ (by decide)) stands

theorem StandsAt.trans {src middle bytes : Bytes} {start offset : Nat} (outer : StandsAt src start middle)
    (inner : StandsAt middle offset bytes) : StandsAt src (start + offset) bytes := by
  have shifted : middle.drop offset <+: (src.drop start).drop offset := outer.drop offset
  rw [List.drop_drop] at shifted
  exact List.IsPrefix.trans inner shifted

/-! ### Members and their places -/

/-- A member that has a slot, where the slot and its tail are, and its value. The first slot and the first tail are
given. -/
inductive Placed : Nat → Nat → List Member → List Value → Nat → Nat → StorageClass → Value → Prop
  | here {slot tail : Nat} {member : Member} {members : List Member} {value : Value} {values : List Value}
      (slotted : member.storage ≠ .bool) :
      Placed slot tail (member :: members) (value :: values) slot tail member.storage value
  | later {slot tail place start : Nat} {member : Member} {members : List Member} {value found : Value}
      {values : List Value} {storage : StorageClass}
      (rest : Placed (slot + member.storage.width) (tail + tailLength member.storage value.cell) members values place
        start storage found) :
      Placed slot tail (member :: members) (value :: values) place start storage found

section
variable {slot tail place start : Nat} {members : List Member} {values : List Value} {storage : StorageClass}
  {value : Value} (placed : Placed slot tail members values place start storage value)
include placed

theorem Placed.mem : ∃ member, (member, value) ∈ members.zip values ∧ member.storage = storage := by
  induction placed with
  | here => exact ⟨_, by simp, rfl⟩
  | later _ ih =>
    obtain ⟨member, pair, same⟩ := ih
    exact ⟨member, by simp [pair], same⟩

theorem Placed.tail_le :
    start + tailLength storage value.cell ≤ tail + (tailLengths members (values.map Value.cell)).sum := by
  induction placed with
  | here =>
    rw [List.map_cons, sum_tailLengths_cons]
    omega
  | later _ ih =>
    rw [List.map_cons, sum_tailLengths_cons]
    omega

/-- The slot and the tail of a member stand at their places when header and tails do. -/
theorem Placed.stands {src : Bytes}
    (writable : List.Forall₂ (fun member cell => Writable member.storage cell) members (values.map Value.cell))
    (header : StandsAt src slot (headerBytes tail members (values.map Value.cell)))
    (tails : StandsAt src tail (tailsBytes members (values.map Value.cell))) :
    StandsAt src place (slotBytes start storage value.cell) ∧ StandsAt src start (tailBytes storage value.cell) := by
  induction placed with
  | here slotted =>
    rw [List.map_cons] at header tails
    rw [headerBytes, if_neg slotted, standsAt_append] at header
    rw [tailsBytes, standsAt_append] at tails
    exact ⟨header.1, tails.1⟩
  | @later _ _ _ _ member _ _ _ _ _ _ ih =>
    rw [List.map_cons] at header tails writable
    obtain ⟨first, rest⟩ := List.forall₂_cons.mp writable
    rw [tailsBytes, standsAt_append, length_tailBytes first] at tails
    by_cases flag : member.storage = .bool
    · rw [headerBytes, if_pos flag] at header
      rw [flag] at tails ih
      exact ih rest header tails.2
    · rw [headerBytes, if_neg flag, standsAt_append, length_slotBytes first flag, length_tailBytes first] at header
      exact ih rest header.2 tails.2

end

/-- The members of a record that have a slot, each with its slot, its tail, its class and its value. -/
def Value.Keeps : Value → Nat → Nat → StorageClass → Value → Prop
  | .record table members => Placed 0 table.plan.baseLength table.plan.members members
  | _ => fun _ _ _ _ => False

/-! ### Stored numbers -/

/-- Where an element of an array starts, counted from the array. -/
def elementStart (before : List Value) (count : Nat) : Nat := 4 + 4 * count + (before.map Value.length).sum

/-- A record that lies in another from a place on. -/
inductive Lies : Value → Nat → Value → Prop
  | table {whole : Value} {slot tail : Nat} {name : String} {inner : Table} {members : List Value}
      (keeps : whole.Keeps slot tail (.table name) (.record inner members)) : Lies whole tail (.record inner members)
  | any {whole : Value} {slot tail : Nat} {inner : Table} {members : List Value}
      (keeps : whole.Keeps slot tail .any (.record inner members)) : Lies whole (tail + 4) (.record inner members)
  | element {whole item : Value} {slot tail : Nat} {name : String} {before after : List Value}
      (keeps : whole.Keeps slot tail (.tableArray name) (.list (before ++ item :: after))) :
      Lies whole (tail + elementStart before (before ++ item :: after).length) item

/-- A number that a record keeps in the four bytes at a place. -/
inductive Stored : Value → Nat → Nat → Prop
  | null {whole : Value} {slot tail : Nat} {storage : StorageClass} (keeps : whole.Keeps slot tail storage .absent) :
      Stored whole slot 0
  | offset {whole value : Value} {slot tail : Nat} {storage : StorageClass}
      (keeps : whole.Keeps slot tail storage value) (tailed : storage.isVariable) (present : value ≠ .absent) :
      Stored whole slot tail
  | size {whole : Value} {slot tail : Nat} {s : String} (keeps : whole.Keeps slot tail .string (.text s)) :
      Stored whole tail s.utf8ByteSize
  | count {whole : Value} {slot tail : Nat} {name : String} {items : List Value}
      (keeps : whole.Keeps slot tail (.tableArray name) (.list items)) : Stored whole tail items.length
  | element {whole item : Value} {slot tail : Nat} {name : String} {before after : List Value}
      (keeps : whole.Keeps slot tail (.tableArray name) (.list (before ++ item :: after))) :
      Stored whole (tail + (4 + 4 * before.length)) (elementStart before (before ++ item :: after).length)
  | inside {whole inner : Value} {start place n : Nat} (lies : Lies whole start inner) (stored : Stored inner place n) :
      Stored whole (start + place) n

/-- The slot of a member with a tail holds where the tail starts. -/
theorem slotBytes_tail {catalog : Catalog} {storage : StorageClass} {value : Value}
    (suits : Suits catalog storage value) (tailed : storage.isVariable) (present : value ≠ .absent) (tail : Nat) :
    slotBytes tail storage value.cell = encodeInt .uint32 tail := by
  cases storage with
  | primitive | bool | enum => simp [StorageClass.isVariable, StorageClass.lengthRule?] at tailed
  | string | table | tableArray | any =>
    cases value with
    | absent => exact absurd rfl present
    | record table members => first | exact suits.elim | (rw [Value.cell_record]; rfl)
    | list items => first | exact suits.elim | (rw [Value.cell_list]; rfl)
    | _ => first | exact suits.elim | (rw [Value.cell]; rfl)

theorem slotBytes_null {catalog : Catalog} {storage : StorageClass} (suits : Suits catalog storage .absent)
    (tail : Nat) :
    slotBytes tail storage Value.absent.cell = encodeInt .uint32 0 := by
  rw [Value.cell]
  cases storage with
  | table | any => rfl
  | _ => exact suits.elim

/-! ### Arrays -/

theorem itemOffsets_append (cursor : Nat) (before after : List Body) :
    itemOffsets cursor (before ++ after) =
      itemOffsets cursor before ++ itemOffsets (cursor + (before.map (·.length)).sum) after := by
  induction before generalizing cursor with
  | nil => simp [itemOffsets]
  | cons body before ih =>
    rw [List.cons_append, itemOffsets, itemOffsets, ih, List.append_assoc, List.map_cons, List.sum_cons, Nat.add_assoc]

/-- Where an array stands, so do the offset and the bytes of each element. -/
theorem standsAt_element {src : Bytes} {start : Nat} {before after : List Value} {item : Value}
    (exact : ∀ other ∈ before, other.body.Exact)
    (stands : StandsAt src start (arrayBytes ((before ++ item :: after).map Value.body))) :
    StandsAt src (start + (4 + 4 * before.length))
      (encodeInt .uint32 (elementStart before (before ++ item :: after).length)) ∧
    StandsAt src (start + elementStart before (before ++ item :: after).length) item.body.image := by
  have sum : ((before.map Value.body).map (·.length)).sum = (before.map Value.length).sum := by
    rw [List.map_map]
    rfl
  have items : itemBytes ((before ++ item :: after).map Value.body) =
      itemBytes (before.map Value.body) ++ (item.body.image ++ itemBytes (after.map Value.body)) := by
    simp [itemBytes]
  rw [arrayBytes, items, standsAt_append, standsAt_append, standsAt_append, standsAt_append, length_encodeInt,
    length_itemOffsets, length_itemBytes (List.forall_mem_map.mpr exact), sum, List.length_map, List.map_append,
    List.map_cons, itemOffsets_append, standsAt_append, length_itemOffsets, itemOffsets, standsAt_append, sum,
    List.length_map] at stands
  obtain ⟨-, ⟨-, offset, -⟩, -, bytes, -⟩ := stands
  simp only [IntKind.width, Nat.add_assoc] at offset bytes
  simp only [elementStart, Nat.add_assoc]
  exact ⟨offset, bytes⟩

/-! ### Where the numbers stand -/

/-- What is known of a member that a record keeps. -/
structure Kept (catalog : Catalog) (whole : Value) (slot tail : Nat) (storage : StorageClass) (value : Value) :
    Prop where
  suits : Suits catalog storage value
  inSlot : StandsAt whole.body.image slot (slotBytes tail storage value.cell)
  inTail : StandsAt whole.body.image tail (tailBytes storage value.cell)
  room : tail + tailLength storage value.cell ≤ whole.length
  held : ∀ inner ∈ value.held, ∃ table ∈ catalog.tables, IsRecord catalog table inner

/-- The offset and the bytes of an element stand in the record, which is longer than both say. -/
theorem Kept.element {catalog : Catalog} (wellFormed : catalog.WellFormed) {whole item : Value} {slot tail : Nat}
    {name : String} {before after : List Value}
    (kept : Kept catalog whole slot tail (.tableArray name) (.list (before ++ item :: after))) :
    StandsAt whole.body.image (tail + (4 + 4 * before.length))
      (encodeInt .uint32 (elementStart before (before ++ item :: after).length)) ∧
    StandsAt whole.body.image (tail + elementStart before (before ++ item :: after).length) item.body.image ∧
    elementStart before (before ++ item :: after).length + item.length ≤ whole.length := by
  obtain ⟨-, -, stands, room, held⟩ := kept
  have exact : ∀ other ∈ before, other.body.Exact := by
    intro other member
    obtain ⟨table, listed, record⟩ := held other (List.mem_append_left _ member)
    exact record.exact wellFormed listed
  rw [Value.cell_list, tailBytes] at stands
  obtain ⟨offset, bytes⟩ := standsAt_element exact stands
  refine ⟨offset, bytes, ?_⟩
  have sum : (((before ++ item :: after).map Value.body).map (·.length)).sum =
      (before.map Value.length).sum + (item.length + (after.map Value.length).sum) := by
    rw [List.map_map, List.map_append, List.sum_append]
    rfl
  rw [Value.cell_list, tailLength, arrayLength_eq, List.length_map, sum] at room
  rw [elementStart]
  omega

section
variable {catalog : Catalog} (wellFormed : catalog.WellFormed) {table : Table} (listed : table ∈ catalog.tables)
  {whole : Value} (record : IsRecord catalog table whole)
include wellFormed listed record

theorem Value.Keeps.kept {slot tail : Nat} {storage : StorageClass} {value : Value}
    (keeps : whole.Keeps slot tail storage value) : Kept catalog whole slot tail storage value := by
  cases record with
  | @record _ members suited nested =>
    have placed : Placed 0 table.plan.baseLength table.plan.members members slot tail storage value := keeps
    have computed := wellFormed.computed table listed
    have writable := writable_members suited (exact_children wellFormed suited nested)
    obtain ⟨field, pair, rfl⟩ := placed.mem
    have suits := (List.forall₂_iff_zip.mp suited).2 pair
    have stands : StandsAt (Value.record table members).body.image 0
        (recordBytes table.plan (members.map Value.cell)) := by
      rw [Value.body_record, (body_exact computed writable).1]
      exact List.prefix_refl _
    obtain ⟨header, -, tails⟩ := (standsAt_recordBytes computed writable).mp stands
    obtain ⟨inSlot, inTail⟩ := placed.stands writable header tails
    refine ⟨suits, inSlot, inTail, ?_, fun inner held => ?_⟩
    · rw [Value.length_record, Plan.totalLength_eq]
      exact placed.tail_le
    · obtain ⟨innerTable, innerListed, tabled⟩ := suits.held_table inner held
      exact ⟨innerTable, innerListed,
        nested inner (Value.mem_children_of_member (List.of_mem_zip pair).2 held) innerTable tabled⟩

theorem Lies.holds {start : Nat} {inner : Value} (lies : Lies whole start inner) :
    StandsAt whole.body.image start inner.body.image ∧ inner.length ≤ whole.length ∧
      ∃ innerTable ∈ catalog.tables, IsRecord catalog innerTable inner := by
  cases lies with
  | table keeps =>
    obtain ⟨-, -, stands, room, held⟩ := keeps.kept wellFormed listed record
    rw [Value.cell_record, tailBytes] at stands
    rw [Value.cell_record, tailLength] at room
    exact ⟨stands, Nat.le_of_add_left_le room, held _ (by simp [Value.held])⟩
  | any keeps =>
    obtain ⟨-, -, stands, room, held⟩ := keeps.kept wellFormed listed record
    rw [Value.cell_record, tailBytes, standsAt_append] at stands
    rw [Value.cell_record, tailLength, anyLength] at room
    exact ⟨stands.2, Nat.le_of_add_left_le (Nat.le_of_add_left_le room), held _ (by simp [Value.held])⟩
  | element keeps =>
    have kept := keeps.kept wellFormed listed record
    obtain ⟨-, stands, room⟩ := kept.element wellFormed
    exact ⟨stands, Nat.le_of_add_left_le room, kept.held _ (by simp [Value.held])⟩

/-- A stored number stands at its place, and is not larger than the record. -/
theorem Stored.holds {place n : Nat} (stored : Stored whole place n) :
    StandsAt whole.body.image place (encodeInt .uint32 n) ∧ n ≤ whole.length := by
  induction stored generalizing table with
  | null keeps =>
    have kept := keeps.kept wellFormed listed record
    exact ⟨slotBytes_null kept.suits _ ▸ kept.inSlot, Nat.zero_le _⟩
  | offset keeps tailed present =>
    have kept := keeps.kept wellFormed listed record
    exact ⟨slotBytes_tail kept.suits tailed present _ ▸ kept.inSlot, Nat.le_of_add_right_le kept.room⟩
  | size keeps =>
    obtain ⟨-, -, stands, room, -⟩ := keeps.kept wellFormed listed record
    rw [Value.cell, tailBytes, standsAt_append] at stands
    rw [Value.cell, tailLength, stringLength] at room
    exact ⟨stands.1, by omega⟩
  | count keeps =>
    obtain ⟨-, -, stands, room, -⟩ := keeps.kept wellFormed listed record
    rw [Value.cell_list, tailBytes, arrayBytes, standsAt_append, List.length_map] at stands
    rw [Value.cell_list, tailLength, arrayLength_eq, List.length_map] at room
    exact ⟨stands.1, by omega⟩
  | element keeps =>
    obtain ⟨stands, -, room⟩ := (keeps.kept wellFormed listed record).element wellFormed
    exact ⟨stands, Nat.le_of_add_right_le room⟩
  | inside lies _ ih =>
    obtain ⟨stands, shorter, innerTable, innerListed, inner⟩ := lies.holds wellFormed listed record
    obtain ⟨innerStands, small⟩ := ih innerListed inner
    exact ⟨stands.trans innerStands, small.trans shorter⟩

end

/-! ### Reading the numbers back -/

/-- Writing a record either breaks off for want of room, or leaves every stored number in its four bytes up to a
multiple of the limit. A record shorter than the limit has all its numbers read back as they were. -/
theorem numbers_after_write {catalog : Catalog} (accepted : catalog.Accepted) {table : Table}
    (listed : table ∈ catalog.tables) {value : Value} (record : IsRecord catalog table value) (dest : Bytes) :
    (dest.length < value.length → value.write dest = abort) ∧
    (value.length ≤ dest.length → ∃ written, value.write dest = .ok (written, value.length) ∧
      (∀ place n, Stored value place n → getOffset written place = .ok (n % offsetLimit)) ∧
      (value.length < offsetLimit → ∀ place n, Stored value place n → getOffset written place = .ok n)) := by
  have wellFormed := accepted.wellFormed
  have exact := record.exact wellFormed listed
  refine ⟨exact.short dest, fun room => ?_⟩
  have kept : ∀ place n, Stored value place n →
      getOffset (value.body.image ++ dest.drop value.length) place = .ok (n % offsetLimit) := by
    intro place n stored
    obtain ⟨stands, -⟩ := stored.holds wellFormed listed record
    have front : StandsAt (value.body.image ++ dest.drop value.length) 0 value.body.image := List.prefix_append _ _
    rw [← Nat.zero_add place]
    exact getOffset_of_encodeInt (front.trans stands)
  refine ⟨value.body.image ++ dest.drop value.length, exact.long dest room, kept, fun small place n stored => ?_⟩
  have bound := (stored.holds wellFormed listed record).2
  rw [kept place n stored, Nat.mod_eq_of_lt (by omega)]

theorem exists_text (n : Nat) : ∃ s : String, s.utf8ByteSize = n := by
  induction n with
  | zero => exact ⟨"", rfl⟩
  | succ n ih =>
    obtain ⟨s, size⟩ := ih
    exact ⟨s.push 'a', by rw [String.utf8ByteSize_push, size]; rfl⟩

section
open Samples

/-- Rex keeps 18 as the start of the name, 3 as its length, 2 as the number of pups, and 41 as the start of the
second pup in the array. -/
theorem rex_numbers_after_write : rex.length < offsetLimit ∧
    ∃ written, rex.write (List.replicate 120 255) = .ok (written, rex.length) ∧
      getOffset written 0 = .ok 18 ∧ getOffset written 18 = .ok 3 ∧ getOffset written 25 = .ok 2 ∧
      getOffset written 33 = .ok 41 := by
  have length : rex.length = 99 := by decide +kernel
  have small : rex.length < offsetLimit := by rw [length]; decide
  obtain ⟨written, done, -, exactly⟩ := (numbers_after_write kennel_accepted (by simp [kennel]) rex_isRecord
    (List.replicate 120 255)).2 (by rw [length]; simp)
  have name : rex.Keeps 0 18 .string (.text "Rex") := .here (by decide)
  have pups : rex.Keeps 9 25 (.tableArray "Dog") (.list ([pip] ++ pip :: [])) :=
    .later (.later (.later (.later (.here (by decide)))))
  exact ⟨small, written, done, exactly small _ _ (.offset name (by decide) (by simp)), exactly small _ _ (.size name),
    exactly small _ _ (.count pups), exactly small _ _ (.element pups)⟩

/-- A name with as many bytes as the limit is written without a failure, and its length is read as none. -/
theorem long_name_lost : ∃ name, Stored (pup name) 18 offsetLimit ∧
    ∀ dest : Bytes, (pup name).length ≤ dest.length → ∃ written,
      (pup name).write dest = .ok (written, (pup name).length) ∧ getOffset written 18 = .ok 0 := by
  obtain ⟨name, size⟩ := exists_text offsetLimit
  have keeps : (pup name).Keeps 0 18 .string (.text name) := .here (by decide)
  have stored : Stored (pup name) 18 offsetLimit := size ▸ .size keeps
  refine ⟨name, stored, fun dest room => ?_⟩
  obtain ⟨written, done, kept, -⟩ :=
    (numbers_after_write kennel_accepted (by simp [kennel]) (pup_isRecord name) dest).2 room
  exact ⟨written, done, kept 18 offsetLimit stored⟩

end
end TableWire.Wire
