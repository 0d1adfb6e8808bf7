import Mathlib
import TableWire.Proofs.Decoded

/-!
Decoded data cannot be larger than its bytes allow. Slots may share bytes, so a record can be longer than the
bytes it was decoded from, but only by one length of the input for each field with a tail. Inside, the checks
on nested records and on the elements of arrays hold at every depth: whatever slots lead to (`Unfolds`) fits
into its bytes.
-/
namespace TableWire.Wire
open Schema Layout

/-! ### Following slots -/

/-- The slot of a record's field points at a record that the field holds. -/
inductive Link (src : Bytes) (outer : Value) (body : Bytes) (inner : Value) : Prop
  | field {table : Table} {name : String} {storage : StorageClass} {slot : Nat} {value : Value}
      (tabled : outer.table? = some table) (declared : table.plan.member? name = some storage)
      (placed : table.plan.slotOf? name = some slot) (valued : outer.field? name = some value)
      (points : Points src slot storage value body inner) : Link src outer body inner

/-- Slots lead from the bytes of a record to the bytes of a record inside it. -/
def Unfolds : Bytes × Value → Bytes × Value → Prop :=
  Relation.ReflTransGen fun outer inner => Link outer.1 outer.2 inner.1 inner.2

/-- A record that some table of the catalog decodes from bytes. -/
def Decodes (catalog : Catalog) (registry : Registry) (src : Bytes) (value : Value) : Prop :=
  ∃ table ∈ catalog.tables, decode catalog registry table src = .ok value

theorem Points.slotted {src body : Bytes} {slot : Nat} {storage : StorageClass} {value inner : Value}
    (points : Points src slot storage value body inner) : storage ≠ .bool := by
  cases points <;> nofun

/-- Links lead to all children of a record. -/
theorem Decodes.exists_link {catalog : Catalog} (wellFormed : catalog.WellFormed) {registry : Registry} {src : Bytes}
    {outer inner : Value} (decodes : Decodes catalog registry src outer) (child : inner ∈ outer.children) :
    ∃ body, Link src outer body inner := by
  obtain ⟨table, member, decoded⟩ := decodes
  have distinct := wellFormed.distinct table member
  obtain ⟨members, rfl⟩ := Value.eq_record_of_table? (decode_table? decoded)
  obtain ⟨same, each⟩ := decode_members wellFormed member decoded
  obtain ⟨field, value, pair, held⟩ := Value.exists_pair_of_child same child
  have declared := Plan.Computed.member?_eq distinct (List.of_mem_zip pair).1
  have valued := Value.field?_of_mem distinct same pair
  rcases each pair with ⟨-, b, rfl⟩ | ⟨-, slot, placed, read⟩
  · simp [Value.held] at held
  · obtain ⟨body, points⟩ := getField_points read (fun _ _ _ => decode_table?) held
    exact ⟨body, .field rfl declared placed valued points⟩

section
variable {catalog : Catalog} (wellFormed : catalog.WellFormed) {registry : Registry}
  (serves : registry.Serves catalog)
include wellFormed serves

/-- One step: the record at the end of a link was decoded from there and fits. -/
theorem Link.decodes {src body : Bytes} {outer inner : Value} (link : Link src outer body inner)
    (decodes : Decodes catalog registry src outer) :
    Decodes catalog registry body inner ∧ inner.length ≤ body.length := by
  obtain ⟨table, member, decoded⟩ := decodes
  obtain @⟨other, name, storage, slot, value, tabled, declared, placed, valued, points⟩ := link
  obtain rfl := Option.some.inj (tabled.symm.trans (decode_table? decoded))
  obtain ⟨found, field, sameSlot, sameField, read⟩ :=
    decode_field wellFormed member decoded declared points.slotted
  obtain rfl := Option.some.inj (placed.symm.trans sameSlot)
  obtain rfl := Option.some.inj (valued.symm.trans sameField)
  obtain ⟨-, innerTable, known, reads⟩ := points.reads read serves
  exact ⟨⟨innerTable, known, reads.1⟩, reads.2.2⟩

theorem Unfolds.decodes {whole part : Bytes × Value} (unfolds : Unfolds whole part)
    (decodes : Decodes catalog registry whole.1 whole.2) : Decodes catalog registry part.1 part.2 := by
  induction unfolds with
  | refl => exact decodes
  | tail _ link ih => exact (link.decodes wellFormed serves ih).1

/-- Links lead to all records inside a record, at any depth. -/
theorem Decodes.exists_unfolds {src : Bytes} {value inner : Value} (decodes : Decodes catalog registry src value)
    (within : inner.Within value) : ∃ body, Unfolds (src, value) (body, inner) := by
  induction within with
  | refl => exact ⟨src, .refl⟩
  | tail _ child ih =>
    obtain ⟨part, unfolds⟩ := ih
    obtain ⟨body, link⟩ := (unfolds.decodes wellFormed serves decodes).exists_link wellFormed child
    exact ⟨body, unfolds.tail link⟩

end

/-! ### Lengths -/

section
variable {catalog : Catalog} {registry : Registry} {read : Table → Bytes → Attempt Value} {src : Bytes}

theorem getField_width {slot : Nat} {storage : StorageClass} {value : Value}
    (found : getField catalog registry read src slot storage = .ok value) : slot + storage.width ≤ src.length := by
  cases storage with
  | primitive kind =>
    obtain ⟨n, stored, -⟩ := map_ok_iff.mp found
    exact (getInt_ok.mp stored).1
  | enum name kind first =>
    obtain ⟨n, stored, -⟩ := bind_ok_iff.mp found
    exact (getInt_ok.mp stored).1
  | string =>
    obtain ⟨s, text, -⟩ := map_ok_iff.mp found
    obtain ⟨offset, length, place, -⟩ := getString_ok.mp text
    exact (getOffset_bounds place).1
  | table name =>
    obtain ⟨table, offset, -, place, -⟩ := getField_table_ok found
    exact (getOffset_bounds place).1
  | tableArray name =>
    obtain ⟨table, offset, items, starts, -, place, -⟩ := getField_array_ok found
    exact (getOffset_bounds place).1
  | any =>
    obtain ⟨offset, place, -⟩ := getField_any_ok found
    exact (getOffset_bounds place).1
  | bool => simp [getField, abort] at found

theorem getMembers_width {members : List Member} {offset : Nat} {flags : List Bool} {values : List Value}
    (found : getMembers catalog registry read src members (slotsFrom offset members) flags = .ok values) :
    slotWidths members = 0 ∨ offset + slotWidths members ≤ src.length := by
  induction members generalizing offset flags values with
  | nil => exact .inl rfl
  | cons member members ih =>
    by_cases flag : member.storage = .bool
    · rw [slotsFrom, if_pos flag] at found
      obtain ⟨b, more, later, -, rest, -⟩ := getMembers_bool_ok flag found
      simpa [flag] using ih rest
    · rw [slotsFrom, if_neg flag] at found
      obtain ⟨value, later, field, rest, -⟩ := getMembers_slot_ok flag found
      have width : offset + member.storage.width ≤ src.length := getField_width field
      have bound := ih rest
      rw [slotWidths_cons]
      omega

end

section
variable {catalog : Catalog} (wellFormed : catalog.WellFormed) {registry : Registry} {table : Table}
  (member : table ∈ catalog.tables) {src : Bytes} {value : Value}
  (decoded : decode catalog registry table src = .ok value)
include wellFormed member decoded

/-- A record is decoded from no fewer bytes than its header has. -/
theorem decode_baseLength : table.plan.baseLength ≤ src.length := by
  have computed := wellFormed.computed table member
  have base := computed.baseLength_eq
  obtain ⟨flags, members, packed, found, -⟩ := decode_ok decoded
  rw [computed.slots_eq] at found
  have slots := getMembers_width found
  rw [computed.chunks_eq] at packed
  cases names : chunkNames table.plan.members with
  | nil =>
    rw [names, List.length_nil] at base
    omega
  | cons first more =>
    rw [names, chunksBelow, getFlags] at packed
    obtain ⟨byte, stored, -⟩ := bind_ok_iff.mp packed
    have last := (getInt_ok.mp stored).1
    simp only [IntKind.width] at last
    omega

theorem decode_tailOf {field : VariableField} (inside : field ∈ table.plan.variableFields) :
    value.tailOf field ≤ src.length := by
  rw [(wellFormed.computed table member).variableFields_eq] at inside
  obtain ⟨entry, listed, named, ruled⟩ := member_of_variableFrom inside
  have slotted : entry.storage ≠ .bool := by
    intro flag
    simp [flag, StorageClass.lengthRule?] at ruled
  have declared := Plan.Computed.member?_eq (wellFormed.distinct table member) listed
  obtain ⟨slot, other, -, valued, read⟩ := decode_field wellFormed member decoded declared slotted
  rw [named] at valued
  rw [Value.tailOf, valued]
  exact getField_tail read (fun _ _ _ => decode_table?) ruled

theorem decode_length (serves : registry.Serves catalog) :
    value.length ≤ table.plan.baseLength + table.plan.variableFields.length * src.length := by
  have record := decode_isRecord wellFormed serves member decoded
  rw [record.length_eq (wellFormed.computed table member) (wellFormed.distinct table member), Plan.totalLength_eq]
  have tails : (table.plan.variableFields.map value.tailOf).sum ≤
      table.plan.variableFields.length * src.length := by
    rw [← List.length_map value.tailOf]
    refine List.sum_le_card_nsmul _ _ ?_
    simpa using fun field inside => decode_tailOf wellFormed member decoded inside
  omega

end

/-- What keeps a decoded record from being larger than its bytes allow. -/
structure Bounded (catalog : Catalog) (registry : Registry) (table : Table) (src : Bytes) (value : Value) : Prop where
  /-- Slots lead to the bytes of every record inside, at any depth. -/
  reached : ∀ inner : Value, inner.Within value → ∃ body, Unfolds (src, value) (body, inner)
  /-- A record was decoded from the bytes that a slot leads to, and fits into them. -/
  fits : ∀ (part : Bytes) (outer : Value), Unfolds (src, value) (part, outer) →
    ∀ body inner, Link part outer body inner →
      Decodes catalog registry body inner ∧ inner.length ≤ body.length
  /-- The elements of an array lie in ascending ranges behind its entries. -/
  spread : ∀ (part : Bytes) (outer : Value), Unfolds (src, value) (part, outer) →
    ∀ outerTable name element, outer.table? = some outerTable →
      outerTable.plan.member? name = some (.tableArray element) →
      ∃ slot offset items starts, outerTable.plan.slotOf? name = some slot ∧
        getOffset part slot = .ok offset ∧ outer.field? name = some (.list items) ∧
        getOffset (part.drop offset) 0 = .ok items.length ∧
        Spread (part.drop offset) 4 (4 + 4 * items.length) starts items
  tails : ∀ field ∈ table.plan.variableFields, value.tailOf field ≤ src.length
  length : value.length ≤ table.plan.baseLength + table.plan.variableFields.length * src.length
  total : table.plan.baseLength + table.plan.variableFields.length * src.length ≤
    (table.plan.variableFields.length + 1) * src.length

/-- Decoded data cannot inflate. -/
theorem decode_bounded {catalog : Catalog} (accepted : catalog.Accepted) {registry : Registry}
    (serves : registry.Serves catalog) {table : Table} (member : table ∈ catalog.tables) {src : Bytes}
    {value : Value} (decoded : decode catalog registry table src = .ok value) :
    Bounded catalog registry table src value := by
  have wellFormed := accepted.wellFormed
  have decodes : Decodes catalog registry src value := ⟨table, member, decoded⟩
  have base := decode_baseLength wellFormed member decoded
  refine ⟨fun inner within => decodes.exists_unfolds wellFormed serves within, ?_, ?_,
    fun field inside => decode_tailOf wellFormed member decoded inside,
    decode_length wellFormed member decoded serves, by rw [Nat.succ_mul]; omega⟩
  · intro part outer unfolds body inner link
    exact link.decodes wellFormed serves (unfolds.decodes wellFormed serves decodes)
  · intro part outer unfolds outerTable name element tabled declared
    obtain ⟨other, known, decodedPart⟩ := unfolds.decodes wellFormed serves decodes
    obtain rfl := Option.some.inj ((decode_table? decodedPart).symm.trans tabled)
    obtain ⟨slot, field, placed, valued, read⟩ := decode_field wellFormed known decodedPart declared nofun
    obtain ⟨_, offset, items, starts, -, place, -, rfl, counted, spread, -⟩ := getField_array_ok read
    exact ⟨slot, offset, items, starts, placed, place, valued, counted, spread⟩

open Samples in
/-- The dog in `knot` is longer than its bytes, and still bounded by them. -/
theorem knot_bounded :
    decode kennel (.ofTables kennel.tables) dog knot = .ok unknotted ∧ knot.length = 52 ∧ unknotted.length = 61 ∧
    Bounded kennel (.ofTables kennel.tables) dog knot unknotted := by
  have decoded : decode kennel (.ofTables kennel.tables) dog knot = .ok unknotted := by decide +kernel
  refine ⟨decoded, rfl, by decide +kernel, ?_⟩
  exact decode_bounded kennel_accepted (Registry.serves_ofTables fun _ => id) (by simp [kennel]) decoded

end TableWire.Wire
