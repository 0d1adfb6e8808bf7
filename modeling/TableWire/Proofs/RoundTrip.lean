import Mathlib
import TableWire.Proofs.Reading
import TableWire.Proofs.Writing

/-!
Reading undoes writing. Whatever bytes stand where a record has put them (`StandsAt`), the readers find
again: the bools in their bytes, each field through its slot, and the records inside by the same argument
one level down. Offsets are exact because a record shorter than `offsetLimit` has no larger ones.
-/
namespace TableWire.Wire
open Schema Layout

/-! ### Bools -/

theorem unpackBits_packBits (flags : List Bool) : unpackBits (packBits flags) flags.length = flags := by
  induction flags with
  | nil => rfl
  | cons flag flags ih =>
    have low : (flag.toNat + 2 * packBits flags) % 2 = flag.toNat := by
      have bit := flag.toNat_lt
      omega
    have high : (flag.toNat + 2 * packBits flags) / 2 = packBits flags := by
      have bit := flag.toNat_lt
      omega
    rw [packBits, List.length_cons, unpackBits, low, high, ih]
    cases flag <;> rfl

theorem packBits_lt (flags : List Bool) : packBits flags < 2 ^ flags.length := by
  induction flags with
  | nil => simp [packBits]
  | cons flag flags ih =>
    have bit := flag.toNat_lt
    rw [packBits, List.length_cons, pow_succ]
    omega

theorem fits_packBits {flags : List Bool} (few : flags.length ≤ boolsPerChunk) : Fits .byte (packBits flags) := by
  have below : packBits flags < 2 ^ boolsPerChunk :=
    (packBits_lt flags).trans_le (Nat.pow_le_pow_right (by decide) few)
  simp only [boolsPerChunk, Fits, IntKind.isSigned, range] at below ⊢
  simp
  omega

theorem getFlags_of_standsAt {names : List (List String)} (sized : ∀ chunk ∈ names, ChunkSized chunk)
    {flags : List Bool} (all : flags.length = names.flatten.length) {src : Bytes} {start : Nat}
    (stands : StandsAt src start (flagBytes names flags).reverse) :
    getFlags src (chunksBelow (start + names.length) names) = .ok flags := by
  induction names generalizing flags with
  | nil =>
    obtain rfl : flags = [] := List.length_eq_zero_iff.mp all
    rfl
  | cons first names ih =>
    rw [List.flatten_cons, List.length_append] at all
    have taken : (flags.take first.length).length = first.length := by
      rw [List.length_take]
      omega
    rw [flagBytes, List.reverse_append, reverse_encodeInt_byte, standsAt_append, List.length_reverse,
      length_flagBytes] at stands
    obtain ⟨laterStands, byteStands⟩ := stands
    have byte := getInt_of_standsAt
      (fits_packBits (taken.trans_le (sized first (List.mem_cons_self ..)).2)) byteStands
    have rest : (flags.drop first.length).length = names.flatten.length := by
      rw [List.length_drop]
      omega
    have later := ih (fun chunk member => sized chunk (List.mem_cons_of_mem _ member)) rest laterStands
    have unpacked := unpackBits_packBits (flags.take first.length)
    rw [taken] at unpacked
    rw [List.length_cons, chunksBelow, ← Nat.add_assoc, Nat.add_sub_cancel, getFlags, byte]
    simp only [bind, Except.bind]
    rw [later]
    simp only [pure, Except.pure, Int.toNat_natCast]
    rw [unpacked, List.take_append_drop]

theorem flagsOf_bool (b : Bool) (cells : List Cell) : flagsOf (.bool b :: cells) = b :: flagsOf cells := rfl

/-- A field with a slot is no bool. -/
theorem flagsOf_slot {storage : StorageClass} {cell : Cell} (writable : Writable storage cell)
    (slotted : storage ≠ .bool) (cells : List Cell) : flagsOf (cell :: cells) = flagsOf cells := by
  cases cell with
  | bool b =>
    cases storage with
    | bool => exact absurd rfl slotted
    | _ => exact writable.elim
  | _ => rfl

theorem length_flagsOf {members : List Member} {cells : List Cell}
    (writable : List.Forall₂ (fun member cell => Writable member.storage cell) members cells) :
    (flagsOf cells).length = (boolNames members).length := by
  induction writable with
  | nil => rfl
  | @cons member cell members cells head later ih =>
    by_cases flag : member.storage = .bool
    · rw [flag] at head
      cases cell with
      | bool b => rw [flagsOf_bool, boolNames_bool flag, List.length_cons, List.length_cons, ih]
      | _ => exact head.elim
    · rw [flagsOf_slot head flag, boolNames_slot flag, ih]

/-! ### Nested records -/

/-- A record is read from where its bytes stand. -/
theorem readsFrom_of_standsAt {read : Bytes → Attempt Value} {value : Value} (exact : value.body.Exact)
    (nested : ∀ extra : Bytes, read (value.body.image ++ extra) = .ok value) (small : value.length < offsetLimit)
    {src : Bytes} {offset : Nat} (stands : StandsAt src offset value.body.image) :
    ReadsFrom read (src.drop offset) value := by
  obtain ⟨extra, whole⟩ := stands
  rw [← whole]
  refine ⟨nested extra, small.trans (by decide), ?_⟩
  have length : value.body.image.length = value.length := exact.length_image
  rw [List.length_append, length]
  omega

theorem getItems_of_standsAt {read : Bytes → Attempt Value} {items : List Value}
    (exact : ∀ item ∈ items, item.body.Exact)
    (nested : ∀ item ∈ items, item.length < offsetLimit →
      ∀ extra : Bytes, read (item.body.image ++ extra) = .ok item)
    {array : Bytes} {offset entry cursor : Nat}
    (entries : StandsAt array entry (itemOffsets cursor (items.map Value.body)))
    (elements : StandsAt array cursor (itemBytes (items.map Value.body)))
    (inside : cursor + ((items.map Value.body).map (·.length)).sum ≤ array.length)
    (near : offset < offsetLimit) (small : cursor + ((items.map Value.body).map (·.length)).sum < offsetLimit)
    (table : entry + 4 * items.length ≤ cursor) :
    getItems read array offset items.length entry cursor = .ok items := by
  induction items generalizing entry cursor with
  | nil => rfl
  | cons item items ih =>
    have limits : offsetLimit + offsetLimit < sizeLimit := by decide
    have first := exact item (List.mem_cons_self ..)
    have image : item.body.image.length = item.body.length := first.length_image
    simp only [List.map_cons, List.sum_cons, itemOffsets, itemBytes, List.flatten_cons, List.length_cons,
      standsAt_append, length_encodeInt, image] at entries elements inside small table
    have length : item.length = item.body.length := rfl
    rw [List.length_cons, getItems_succ_ok]
    refine ⟨cursor, item, items, by omega, getOffset_of_standsAt (by omega) entries.1, by omega, le_rfl, by omega,
      ?_, by omega, ?_, rfl⟩
    · exact readsFrom_of_standsAt first (nested item (List.mem_cons_self ..) (by omega)) (by omega) elements.1
    · rw [length]
      exact ih (fun other member => exact other (List.mem_cons_of_mem _ member))
        (fun other member => nested other (List.mem_cons_of_mem _ member)) entries.2 elements.2 (by omega)
        (by omega) (by omega)

/-! ### Tails -/

section
variable {src : Bytes} {slot offset : Nat} (near : offset < offsetLimit)
  (header : StandsAt src slot (encodeInt .uint32 offset)) (inside : offset ≤ src.length)
include near header inside

/-- A text is found again through a slot that leads to it. -/
theorem getString_of_standsAt {s : String} (short : stringLength s < offsetLimit)
    (stands : StandsAt src offset (encodeInt .uint32 s.utf8ByteSize ++ Text.utf8 s)) :
    getString src slot = .ok s := by
  have limits : offsetLimit + offsetLimit < sizeLimit := by decide
  have room := stands.room inside
  rw [List.length_append, length_encodeInt, Text.length_utf8, IntKind.width] at room
  rw [stringLength] at short
  rw [standsAt_append, length_encodeInt] at stands
  have found := getOffset_of_standsAt near header
  have count : getOffset src offset = .ok s.utf8ByteSize := getOffset_of_standsAt (by omega) stands.1
  have bytes : (src.drop (offset + 4)).take s.utf8ByteSize = Text.utf8 s :=
    (List.prefix_iff_eq_take.mp stands.2).symm
  exact getString_ok.mpr ⟨offset, s.utf8ByteSize, found, count, by omega, by omega, bytes ▸ Text.ofUtf8?_utf8 s⟩

theorem getArray_of_standsAt {read : Bytes → Attempt Value} {items : List Value}
    (exact : ∀ item ∈ items, item.body.Exact)
    (nested : ∀ item ∈ items, item.length < offsetLimit →
      ∀ extra : Bytes, read (item.body.image ++ extra) = .ok item)
    (short : arrayLength (items.map Value.body) < offsetLimit)
    (stands : StandsAt src offset (arrayBytes (items.map Value.body))) : getArray read src slot = .ok items := by
  have limits : offsetLimit + offsetLimit < sizeLimit := by decide
  have room := stands.room inside
  rw [length_arrayBytes (by simpa using exact)] at room
  rw [arrayLength_eq, List.length_map] at room short
  rw [arrayBytes, standsAt_append, standsAt_append, length_encodeInt, length_itemOffsets, List.length_map] at stands
  obtain ⟨countStands, entriesStand, itemsStand⟩ := stands
  have found := getOffset_of_standsAt near header
  have count : getOffset (src.drop offset) 0 = .ok items.length :=
    getOffset_of_standsAt (by omega) (standsAt_drop.mpr countStands)
  have elements : getItems read (src.drop offset) offset items.length 4 (4 + 4 * items.length) = .ok items := by
    refine getItems_of_standsAt exact nested (standsAt_drop.mpr entriesStand) (standsAt_drop.mpr ?_) ?_ near ?_ le_rfl
    · rw [← Nat.add_assoc]
      exact itemsStand
    · rw [List.length_drop]
      omega
    · omega
  exact getArray_ok.mpr ⟨offset, items.length, found, inside, count, by rw [List.length_drop]; omega, by omega,
    elements⟩

variable (present : offset ≠ 0) {value : Value} (exact : value.body.Exact) (short : value.length < offsetLimit)
include present exact short

theorem getSub_of_standsAt {read : Bytes → Attempt Value}
    (nested : ∀ extra : Bytes, read (value.body.image ++ extra) = .ok value)
    (stands : StandsAt src offset value.body.image) : getSub read src slot = .ok (some value) := by
  have found := getOffset_of_standsAt near header
  have reads := readsFrom_of_standsAt exact nested short stands
  exact getSub_ok.mpr ⟨offset, found, .inr ⟨present, inside, value, reads, rfl⟩⟩

theorem getAny_of_standsAt {registry : Registry} {read : Table → Bytes → Attempt Value} {table : Table}
    (tabled : value.table? = some table) (known : registry.lookup? table.tag = some table)
    (nested : ∀ extra : Bytes, read table (value.body.image ++ extra) = .ok value)
    (stands : StandsAt src offset (value.body.tag.bytes ++ value.body.image)) :
    getAny registry read src slot = .ok (some value) := by
  have limits : offsetLimit + 4 < sizeLimit := by decide
  have tag : value.body.tag = table.tag := by
    obtain ⟨members, rfl⟩ := Value.eq_record_of_table? tabled
    rw [Value.body_record]
    rfl
  have width : table.tag.bytes.length = 4 := rfl
  have room := stands.room inside
  rw [tag, List.length_append, width] at room
  rw [tag, standsAt_append] at stands
  have found := getOffset_of_standsAt near header
  have spelled : (src.drop offset).take 4 = table.tag.bytes := (List.prefix_iff_eq_take.mp stands.1).symm
  have reads := readsFrom_of_standsAt exact nested short stands.2
  exact getAny_ok.mpr ⟨offset, found, .inr ⟨present, by omega, by omega, table.tag, table, value,
    spelled ▸ Tag.ofBytes?_bytes table.tag, known, reads, rfl⟩⟩

end

/-! ### Fields -/

/-- A field is found again behind a slot and a tail that hold its bytes. -/
def Recovers (catalog : Catalog) (registry : Registry) (read : Table → Bytes → Attempt Value) (src : Bytes)
    (storage : StorageClass) (value : Value) : Prop :=
  ∀ slot tail : Nat, slot < tail → StandsAt src slot (slotBytes tail storage value.cell) →
    StandsAt src tail (tailBytes storage value.cell) →
    tail + tailLength storage value.cell ≤ src.length →
    tail + tailLength storage value.cell < offsetLimit →
    getField catalog registry read src slot storage = .ok value

theorem fits_of_valueCapacity {kind : IntKind} {position : Nat} (numbered : position < kind.valueCapacity) :
    Fits kind position := by
  cases kind <;> simp [Fits, IntKind.isSigned, range, IntKind.valueCapacity] at numbered ⊢ <;> omega

section
variable {catalog : Catalog} {registry : Registry} {read : Table → Bytes → Attempt Value} {src : Bytes}
  {table : Table} {members : List Value} (exact : (Value.record table members).body.Exact)
  (nested : (Value.record table members).length < offsetLimit →
    ∀ extra : Bytes, read table ((Value.record table members).body.image ++ extra) = .ok (.record table members))
include exact nested

theorem recovers_table {name : String} (found : catalog.table? name = some table) :
    Recovers catalog registry read src (.table name) (.record table members) := by
  intro slot tail behind header stands inside small
  rw [Value.cell_record] at header stands inside small
  have length : tailLength (.table name) (.record (Value.record table members).body) =
    (Value.record table members).length := rfl
  rw [length] at inside small
  have sub := getSub_of_standsAt (by omega) header (by omega) (by omega) exact (by omega) (nested (by omega)) stands
  rw [getField, found]
  simp only
  rw [sub]
  rfl

theorem recovers_any (known : registry.lookup? table.tag = some table) :
    Recovers catalog registry read src .any (.record table members) := by
  intro slot tail behind header stands inside small
  rw [Value.cell_record] at header stands inside small
  have length : tailLength .any (.record (Value.record table members).body) =
    4 + (Value.record table members).length := rfl
  rw [length] at inside small
  rw [getField, getAny_of_standsAt (by omega) header (by omega) (by omega) exact (by omega) rfl known
    (nested (by omega)) stands]
  rfl

end

theorem recovers_array {catalog : Catalog} {registry : Registry} {read : Table → Bytes → Attempt Value}
    {src : Bytes} {items : List Value} {table : Table} (exact : ∀ item ∈ items, item.body.Exact)
    (nested : ∀ item ∈ items, item.length < offsetLimit →
      ∀ extra : Bytes, read table (item.body.image ++ extra) = .ok item)
    {name : String} (found : catalog.table? name = some table) :
    Recovers catalog registry read src (.tableArray name) (.list items) := by
  intro slot tail behind header stands inside small
  rw [Value.cell_list] at header stands inside small
  have length : tailLength (.tableArray name) (.list (items.map Value.body)) =
    arrayLength (items.map Value.body) := rfl
  rw [length] at inside small
  have array := getArray_of_standsAt (by omega) header (by omega) exact nested (by omega) stands
  rw [getField, found]
  simp only
  rw [array]
  rfl

theorem recovers_string {catalog : Catalog} {registry : Registry} {read : Table → Bytes → Attempt Value}
    {src : Bytes} (s : String) : Recovers catalog registry read src .string (.text s) := by
  intro slot tail behind header stands inside small
  rw [Value.cell] at header stands inside small
  rw [tailLength] at inside small
  rw [getField, getString_of_standsAt (by omega) header (by omega) (by omega) stands]
  rfl

/-- What suits a field is found again, once this is so for the records that it holds. -/
theorem Suits.recovers {catalog : Catalog} {registry : Registry} {read : Table → Bytes → Attempt Value}
    {src : Bytes} {storage : StorageClass} {value : Value} (suits : Suits catalog storage value)
    (slotted : storage ≠ .bool) (resolves : catalog.Resolves storage)
    (exact : ∀ inner ∈ value.held, inner.body.Exact)
    (nested : ∀ inner ∈ value.held, ∀ table, inner.table? = some table → inner.length < offsetLimit →
      ∀ extra : Bytes, read table (inner.body.image ++ extra) = .ok inner)
    (known : storage = .any → ∀ table, value.table? = some table → registry.lookup? table.tag = some table) :
    Recovers catalog registry read src storage value := by
  cases storage with
  | bool => exact absurd rfl slotted
  | primitive kind =>
    cases value with
    | int n =>
      intro slot tail _ header _ _ _
      rw [Value.cell] at header
      rw [getField, getInt_of_standsAt suits header]
      rfl
    | _ => exact suits.elim
  | enum name kind first =>
    cases value with
    | enum position =>
      intro slot tail _ header _ _ _
      obtain ⟨decl, found, numbered⟩ := suits
      obtain ⟨same, foundAgain, few⟩ := resolves
      obtain rfl : decl = same := Option.some.inj (found.symm.trans foundAgain)
      rw [Value.cell] at header
      rw [getField, getInt_of_standsAt (fits_of_valueCapacity (numbered.trans_le few)) header]
      simp [bind, Except.bind, Catalog.enumValue, found, numbered]
    | _ => exact suits.elim
  | string =>
    cases value with
    | text s => exact recovers_string s
    | _ => exact suits.elim
  | table name =>
    cases value with
    | absent =>
      intro slot tail _ header _ _ _
      rw [Value.cell] at header
      obtain ⟨table, found⟩ := resolves
      have null : getOffset src slot = .ok 0 := getOffset_of_standsAt (by decide) header
      rw [getField, found]
      simp only
      rw [getSub_ok.mpr ⟨0, null, .inl ⟨rfl, rfl⟩⟩]
      rfl
    | record table members =>
      have held : Value.record table members ∈ (Value.record table members).held := List.mem_singleton.mpr rfl
      exact recovers_table (exact _ held) (nested _ held table rfl) suits
    | _ => exact suits.elim
  | tableArray name =>
    cases value with
    | list items =>
      obtain ⟨table, found, all⟩ := suits
      exact recovers_array exact (fun item member => nested item member table (all item member)) found
    | _ => exact suits.elim
  | any =>
    cases value with
    | absent =>
      intro slot tail _ header _ _ _
      rw [Value.cell] at header
      have null : getOffset src slot = .ok 0 := getOffset_of_standsAt (by decide) header
      rw [getField, getAny_ok.mpr ⟨0, null, .inl ⟨rfl, rfl⟩⟩]
      rfl
    | record table members =>
      have held : Value.record table members ∈ (Value.record table members).held := List.mem_singleton.mpr rfl
      exact recovers_any (exact _ held) (nested _ held table rfl) (known rfl table rfl)
    | _ => exact suits.elim

/-! ### Records -/

/-- Members are found again where their header and their tails stand. The induction is on the members, the
slots and the tails moving on together. -/
theorem getMembers_of_standsAt {catalog : Catalog} {registry : Registry} {read : Table → Bytes → Attempt Value}
    {src : Bytes} {members : List Member} {values : List Value}
    (each : List.Forall₂ (fun member value => Suits catalog member.storage value ∧
      Writable member.storage value.cell ∧
      (member.storage ≠ .bool → Recovers catalog registry read src member.storage value)) members values)
    {slot tail : Nat} (behind : slot + slotWidths members ≤ tail)
    (header : StandsAt src slot (headerBytes tail members (values.map Value.cell)))
    (tails : StandsAt src tail (tailsBytes members (values.map Value.cell)))
    (inside : tail + (tailLengths members (values.map Value.cell)).sum ≤ src.length)
    (small : tail + (tailLengths members (values.map Value.cell)).sum < offsetLimit) :
    getMembers catalog registry read src members (slotsFrom slot members)
      (flagsOf (values.map Value.cell)) = .ok values := by
  induction each generalizing slot tail with
  | nil => rfl
  | @cons member value members values head later ih =>
    obtain ⟨suits, writable, recovers⟩ := head
    rw [List.map_cons] at *
    rw [sum_tailLengths_cons] at inside small
    rw [slotWidths_cons] at behind
    rw [tailsBytes, standsAt_append, length_tailBytes writable] at tails
    by_cases flag : member.storage = .bool
    · rw [headerBytes, if_pos flag] at header
      rw [flag] at suits behind tails inside small
      cases value with
      | bool b =>
        rw [tailLength_bool] at tails inside small
        rw [StorageClass.width_bool] at behind
        have rest := ih (by omega) header tails.2 (by omega) (by omega)
        rw [Value.cell, flagsOf_bool, slotsFrom, if_pos flag, getMembers_bool flag, rest]
        rfl
      | _ => exact suits.elim
    · have wide := StorageClass.width_pos flag
      rw [headerBytes, if_neg flag, standsAt_append, length_slotBytes writable flag,
        length_tailBytes writable] at header
      have first := recovers flag slot tail (by omega) header.1 tails.1 (by omega) (by omega)
      have rest := ih (by omega) header.2 tails.2 (by omega) (by omega)
      rw [flagsOf_slot writable flag, slotsFrom, if_neg flag, getMembers_slot flag, first, rest]
      rfl

/-- A record is found again where its bytes stand when each of its fields is. -/
theorem getRecord_of_standsAt {catalog : Catalog} {registry : Registry} {read : Table → Bytes → Attempt Value}
    {src : Bytes} {table : Table} {members : List Value} (computed : table.plan.Computed)
    (suited : List.Forall₂ (fun member value => Suits catalog member.storage value) table.plan.members members)
    (writable : List.Forall₂ (fun member cell => Writable member.storage cell) table.plan.members
      (members.map Value.cell))
    (recovers : ∀ pair ∈ table.plan.members.zip members, pair.1.storage ≠ .bool →
      Recovers catalog registry read src pair.1.storage pair.2)
    (stands : StandsAt src 0 (recordBytes table.plan (members.map Value.cell)))
    (small : (Value.record table members).length < offsetLimit) :
    getRecord catalog registry read table src = .ok (.record table members) := by
  have total := length_recordBytes computed writable
  rw [← Value.body_record] at total
  have long := stands.length_le
  rw [List.drop_zero, total] at long
  obtain ⟨headerStands, flagsStand, tailsStand⟩ := (standsAt_recordBytes computed writable).mp stands
  have length := Value.length_record table members
  rw [Plan.totalLength_eq] at length
  have flags : getFlags src table.plan.chunks = .ok (flagsOf (members.map Value.cell)) := by
    rw [computed.chunks_eq, computed.baseLength_eq]
    refine getFlags_of_standsAt (chunkNames_sized _) ?_ flagsStand
    rw [flatten_chunkNames, length_flagsOf writable]
  have fields : getMembers catalog registry read src table.plan.members table.plan.slots
      (flagsOf (members.map Value.cell)) = .ok members := by
    rw [computed.slots_eq]
    refine getMembers_of_standsAt ?_ (by rw [computed.baseLength_eq]; omega) headerStands tailsStand
      (length ▸ long) (length ▸ small)
    rw [List.forall₂_map_right_iff] at writable
    exact List.forall₂_iff_zip.mpr ⟨suited.length_eq, fun pair =>
      ⟨(List.forall₂_iff_zip.mp suited).2 pair, (List.forall₂_iff_zip.mp writable).2 pair, recovers _ pair⟩⟩
  rw [getRecord]
  simp only [bind, Except.bind]
  rw [flags]
  simp only
  rw [fields]
  rfl

/-- A record is read from its bytes, whatever follows them. The induction is on the nesting of records. -/
theorem decode_image {catalog : Catalog} (wellFormed : catalog.WellFormed) {registry : Registry} {table : Table}
    {value : Value} (record : IsRecord catalog table value) (member : table ∈ catalog.tables)
    (knows : registry.Knows value) (small : value.length < offsetLimit) (extra : Bytes) :
    decode catalog registry table (value.body.image ++ extra) = .ok value := by
  induction record generalizing extra with
  | @record table members suited nested ih =>
    have computed := wellFormed.computed table member
    have exact := exact_children wellFormed suited nested
    have writable := writable_members suited exact
    rw [Value.body_record, (body_exact computed writable).1, decode_eq]
    refine getRecord_of_standsAt computed suited writable ?_ (List.prefix_append _ _) small
    rintro ⟨field, value⟩ pair slotted
    have suits := (List.forall₂_iff_zip.mp suited).2 pair
    have child : ∀ inner ∈ value.held, inner ∈ (Value.record table members).children :=
      fun inner held => Value.mem_children_of_member (List.of_mem_zip pair).2 held
    refine suits.recovers slotted (wellFormed.resolved table member field (List.of_mem_zip pair).1)
      (fun inner held => exact inner (child inner held)) ?_ ?_
    · intro inner held innerTable tabled shorter extra
      obtain ⟨found, known, same⟩ := suits.held_table inner held
      obtain rfl : found = innerTable := Option.some.inj (same.symm.trans tabled)
      exact ih inner (child inner held) found tabled known (knows.child (child inner held)) shorter extra
    · intro any innerTable tabled
      exact knows _ .refl innerTable (Value.mem_anyTables.mpr ⟨field, value, pair, any, tabled⟩)

/-- Reading gives back the record that was written, into a buffer that held anything and with anything
behind it; so it does from the record's own bytes. -/
theorem decode_after_write {catalog : Catalog} (accepted : catalog.Accepted) {table : Table}
    (member : table ∈ catalog.tables) {value : Value} (record : IsRecord catalog table value)
    {registry : Registry} (knows : registry.Knows value) (small : value.length < 2 ^ 32) :
    (∀ dest : Bytes, value.length ≤ dest.length → ∃ written,
      value.write dest = .ok (written, value.length) ∧
      decode catalog registry table written = .ok value) ∧
    ∃ bytes, value.toBytes = .ok bytes ∧
      ∀ extra : Bytes, decode catalog registry table (bytes ++ extra) = .ok value := by
  have wellFormed := accepted.wellFormed
  have exact := record.exact wellFormed member
  have read := decode_image wellFormed record member knows small
  refine ⟨fun dest room => ?_, value.body.image, exact.toBytes, read⟩
  exact ⟨value.body.image ++ dest.drop value.length, exact.long dest room, read _⟩

open Samples in
/-- Rex comes back from a dirty buffer that is longer than needed, his pups and both chips with him. -/
theorem decode_rex :
    (Registry.ofTables kennel.tables).Knows rex ∧ rex.length < 2 ^ 32 ∧
    (∃ written, rex.write (List.replicate 120 255) = .ok (written, rex.length) ∧
      decode kennel (.ofTables kennel.tables) dog written = .ok rex) ∧
    ∃ bytes, rex.toBytes = .ok bytes ∧ decode kennel (.ofTables kennel.tables) dog bytes = .ok rex := by
  have length : rex.length = 99 := by decide +kernel
  have bound : ∀ table ∈ kennel.tables, (Registry.ofTables kennel.tables).lookup? table.tag = some table := by
    decide +kernel
  have knows := rex_isRecord.knows bound
  have small : rex.length < 2 ^ 32 := by rw [length]; decide
  obtain ⟨written, bytes, own, read⟩ :=
    decode_after_write kennel_accepted (by simp [kennel]) rex_isRecord knows small
  refine ⟨knows, small, written (List.replicate 120 255) (by rw [length]; simp), bytes, own, ?_⟩
  rw [← List.append_nil bytes]
  exact read []

end TableWire.Wire
