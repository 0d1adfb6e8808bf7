import Mathlib
import TableWire.Proofs.Encoding
import TableWire.Proofs.Reading
import TableWire.Proofs.Registry

/-!
What a record is once it is decoded. Every field with a slot was read from that slot (`decode_field`), so the
result is a record of its table (`decode_isRecord`). A slot points at the bytes of the records that its field
holds (`Points`), and the elements of an array lie one behind the other in its bytes (`Spread`).
-/
namespace TableWire.Wire
open Schema Layout

/-- Entries at the same place of two lists stand together. -/
theorem mem_zip_of_getElem? {α β : Type} {left : List α} {right : List β} {i : Nat} {a : α} {b : β}
    (first : left[i]? = some a) (second : right[i]? = some b) : (a, b) ∈ left.zip right :=
  List.mem_iff_getElem?.mpr ⟨i, List.getElem?_zip_eq_some.mpr ⟨first, second⟩⟩

/-! ### Members -/

section
variable {catalog : Catalog} {registry : Registry} {read : Table → Bytes → Attempt Value} {src : Bytes}

theorem getMembers_bool_ok {member : Member} (flag : member.storage = .bool) {members : List Member}
    {slots : List Slot} {flags : List Bool} {values : List Value}
    (found : getMembers catalog registry read src (member :: members) slots flags = .ok values) :
    ∃ b more later, flags = b :: more ∧ getMembers catalog registry read src members slots more = .ok later ∧
      values = .bool b :: later := by
  cases flags with
  | nil =>
    cases slots with
    | nil => simp [getMembers, flag, abort] at found
    | cons slot slots => simp [getMembers, flag, getField, abort, bind, Except.bind] at found
  | cons b more =>
    rw [getMembers_bool flag] at found
    simp only [bind_ok_iff, pure_ok_iff] at found
    obtain ⟨later, rest, rfl⟩ := found
    exact ⟨b, more, later, rfl, rest, rfl⟩

theorem getMembers_slot_ok {member : Member} (slotted : member.storage ≠ .bool) {members : List Member}
    {slot : Slot} {slots : List Slot} {flags : List Bool} {values : List Value}
    (found : getMembers catalog registry read src (member :: members) (slot :: slots) flags = .ok values) :
    ∃ value later, getField catalog registry read src slot.offset member.storage = .ok value ∧
      getMembers catalog registry read src members slots flags = .ok later ∧ values = value :: later := by
  rw [getMembers_slot slotted] at found
  simp only [bind_ok_iff, pure_ok_iff] at found
  obtain ⟨value, field, later, rest, rfl⟩ := found
  exact ⟨value, later, field, rest, rfl⟩

/-- Each member is a bool or was read from its slot. The induction is on the members, the slots of the
members already read moving into the offset. -/
theorem getMembers_fields {members : List Member} {offset : Nat} {flags : List Bool} {values : List Value}
    (found : getMembers catalog registry read src members (slotsFrom offset members) flags = .ok values) :
    members.length = values.length ∧ ∀ i member, members[i]? = some member → ∃ value, values[i]? = some value ∧
      (member.storage = .bool ∧ (∃ b, value = .bool b) ∨ member.storage ≠ .bool ∧
        getField catalog registry read src (offset + slotWidths (members.take i)) member.storage = .ok value) := by
  induction members generalizing offset flags values with
  | nil =>
    obtain rfl : [] = values := Except.ok.inj found
    simp
  | cons first members ih =>
    by_cases flag : first.storage = .bool
    · rw [slotsFrom, if_pos flag] at found
      obtain ⟨b, more, later, rfl, rest, rfl⟩ := getMembers_bool_ok flag found
      obtain ⟨same, each⟩ := ih rest
      refine ⟨by simp [same], ?_⟩
      intro i member place
      cases i with
      | zero =>
        obtain rfl : first = member := by simpa using place
        exact ⟨.bool b, rfl, .inl ⟨flag, b, rfl⟩⟩
      | succ i =>
        obtain ⟨value, there, read⟩ := each i member (by simpa using place)
        refine ⟨value, by simpa using there, ?_⟩
        simpa [flag] using read
    · rw [slotsFrom, if_neg flag] at found
      obtain ⟨value, later, field, rest, rfl⟩ := getMembers_slot_ok flag found
      obtain ⟨same, each⟩ := ih rest
      refine ⟨by simp [same], ?_⟩
      intro i member place
      cases i with
      | zero =>
        obtain rfl : first = member := by simpa using place
        exact ⟨value, rfl, .inr ⟨flag, by simpa using field⟩⟩
      | succ i =>
        obtain ⟨value, there, read⟩ := each i member (by simpa using place)
        refine ⟨value, by simpa using there, ?_⟩
        simpa [Nat.add_assoc] using read

theorem getRecord_ok {table : Table} {value : Value} :
    getRecord catalog registry read table src = .ok value ↔ ∃ flags members,
      getFlags src table.plan.chunks = .ok flags ∧
      getMembers catalog registry read src table.plan.members table.plan.slots flags = .ok members ∧
      value = .record table members := by
  unfold getRecord
  simp only [bind_ok_iff, pure_ok_iff]
  constructor
  · rintro ⟨flags, packed, members, found, rfl⟩
    exact ⟨flags, members, packed, found, rfl⟩
  · rintro ⟨flags, members, packed, found, rfl⟩
    exact ⟨flags, packed, members, found, rfl⟩

end

section
variable {catalog : Catalog} {registry : Registry} {table : Table} {src : Bytes} {value : Value}

theorem decode_ok (decoded : decode catalog registry table src = .ok value) : ∃ flags members,
    getFlags src table.plan.chunks = .ok flags ∧
    getMembers catalog registry (decode catalog registry) src table.plan.members table.plan.slots flags =
      .ok members ∧ value = .record table members := by
  rw [decode_eq] at decoded
  exact getRecord_ok.mp decoded

theorem decode_table? (decoded : decode catalog registry table src = .ok value) : value.table? = some table := by
  obtain ⟨flags, members, -, -, rfl⟩ := decode_ok decoded
  rfl

section
variable (wellFormed : catalog.WellFormed) (member : table ∈ catalog.tables)
include wellFormed member

/-- The members of a decoded record, as many as its table has, are bools or were read from their slots. -/
theorem decode_members {members : List Value}
    (decoded : decode catalog registry table src = .ok (.record table members)) :
    table.plan.members.length = members.length ∧
    ∀ {field value}, (field, value) ∈ table.plan.members.zip members →
      field.storage = .bool ∧ (∃ b, value = .bool b) ∨ field.storage ≠ .bool ∧ ∃ slot,
        table.plan.slotOf? field.name = some slot ∧
        getField catalog registry (decode catalog registry) src slot field.storage = .ok value := by
  have computed := wellFormed.computed table member
  have distinct := wellFormed.distinct table member
  obtain ⟨flags, others, -, found, same⟩ := decode_ok decoded
  obtain rfl := (Value.record.inj same).2
  rw [computed.slots_eq] at found
  obtain ⟨same, each⟩ := getMembers_fields found
  refine ⟨same, fun {field value} pair => ?_⟩
  obtain ⟨i, there⟩ := List.mem_iff_getElem?.mp pair
  obtain ⟨place, element⟩ := List.getElem?_zip_eq_some.mp there
  obtain ⟨other, elementAgain, outcome⟩ := each i field place
  obtain rfl := Option.some.inj (element.symm.trans elementAgain)
  rcases outcome with flag | ⟨slotted, read⟩
  · exact .inl flag
  · rw [Nat.zero_add] at read
    exact .inr ⟨slotted, _, computed.slotOf?_eq distinct place slotted, read⟩

/-- Every field of a decoded record that is no bool was read from its slot. -/
theorem decode_field (decoded : decode catalog registry table src = .ok value) {name : String}
    {storage : StorageClass} (declared : table.plan.member? name = some storage) (slotted : storage ≠ .bool) :
    ∃ slot field, table.plan.slotOf? name = some slot ∧ value.field? name = some field ∧
      getField catalog registry (decode catalog registry) src slot storage = .ok field := by
  obtain ⟨members, rfl⟩ := Value.eq_record_of_table? (decode_table? decoded)
  obtain ⟨same, each⟩ := decode_members wellFormed member decoded
  obtain ⟨entry, listed, rfl⟩ := Option.map_eq_some_iff.mp declared
  obtain rfl : entry.name = name := by simpa using List.find?_some listed
  have inside := List.mem_of_find?_eq_some listed
  rw [← List.map_fst_zip same.le] at inside
  obtain ⟨⟨_, field⟩, pair, rfl⟩ := List.mem_map.mp inside
  rcases each pair with ⟨flag, -⟩ | ⟨-, slot, placed, read⟩
  · exact absurd flag slotted
  · exact ⟨slot, field, placed, Value.field?_of_mem (wellFormed.distinct table member) same pair, read⟩

end
end

/-! ### Elements of an array -/

/-- Elements that lie in ranges one behind the other, none before `least`, at the places that the entries from
`entry` on say. -/
structure Spread (array : Bytes) (entry least : Nat) (starts : List Nat) (items : List Value) : Prop where
  same : starts.length = items.length
  entries : ∀ i start, starts[i]? = some start → getOffset array (entry + 4 * i) = .ok start
  behind : ∀ start ∈ starts, least ≤ start
  inside : ∀ range ∈ starts.zip items, range.1 + range.2.length ≤ array.length
  ascending : (starts.zip items).Pairwise fun earlier later => earlier.1 + earlier.2.length ≤ later.1

theorem Spread.cons {array : Bytes} {entry least start : Nat} {starts : List Nat} {item : Value}
    {items : List Value} (found : getOffset array entry = .ok start) (after : least ≤ start)
    (fits : start + item.length ≤ array.length)
    (rest : Spread array (entry + 4) (start + item.length) starts items) :
    Spread array entry least (start :: starts) (item :: items) := by
  refine ⟨by simp [rest.same], ?_, ?_, ?_, ?_⟩
  · intro i other place
    cases i with
    | zero =>
      obtain rfl : start = other := by simpa using place
      simpa using found
    | succ i =>
      have later := rest.entries i other (by simpa using place)
      rwa [Nat.add_assoc, Nat.add_comm 4, ← Nat.mul_succ] at later
  · intro other member
    rcases List.mem_cons.mp member with rfl | later
    · exact after
    · have bound := rest.behind other later
      omega
  · intro range member
    rcases List.mem_cons.mp member with rfl | later
    · exact fits
    · exact rest.inside range later
  · rw [List.zip_cons_cons, List.pairwise_cons]
    refine ⟨fun later member => ?_, rest.ascending⟩
    exact rest.behind later.1 (List.of_mem_zip member).1

theorem Spread.place {array : Bytes} {entry least i : Nat} {starts : List Nat} {items : List Value} {item : Value}
    (spread : Spread array entry least starts items) (element : items[i]? = some item) :
    ∃ start, starts[i]? = some start ∧ getOffset array (entry + 4 * i) = .ok start := by
  have few : i < starts.length := by
    rw [spread.same]
    exact (List.getElem?_eq_some_iff.mp element).1
  have there := List.getElem?_eq_getElem few
  exact ⟨starts[i], there, spread.entries i _ there⟩

theorem getItems_spread {read : Bytes → Attempt Value} {array : Bytes} {offset count entry least : Nat}
    {values : List Value} (found : getItems read array offset count entry least = .ok values) :
    values.length = count ∧ ∃ starts, Spread array entry least starts values ∧
      List.Forall₂ (fun start value => start ≤ array.length ∧ ReadsFrom read (array.drop start) value)
        starts values := by
  induction count generalizing entry least values with
  | zero =>
    obtain rfl : [] = values := Except.ok.inj found
    exact ⟨rfl, [], ⟨rfl, by simp, by simp, by simp, by simp⟩, .nil⟩
  | succ count ih =>
    obtain ⟨start, value, later, -, place, -, after, inside, reads, -, rest, rfl⟩ := getItems_succ_ok.mp found
    obtain ⟨counted, starts, spread, each⟩ := ih rest
    have fits := reads.2.2
    rw [List.length_drop] at fits
    refine ⟨by simp [counted], start :: starts, spread.cons place after (by omega), .cons ⟨inside, reads⟩ each⟩

/-- Elements take no more bytes than their array has behind the first place allowed. -/
theorem getItems_sum {read : Bytes → Attempt Value} {array : Bytes} {offset count entry least : Nat}
    {values : List Value} (found : getItems read array offset count entry least = .ok values)
    (room : least ≤ array.length) :
    least + ((values.map Value.body).map (·.length)).sum ≤ array.length := by
  induction count generalizing entry least values with
  | zero =>
    obtain rfl : [] = values := Except.ok.inj found
    exact room
  | succ count ih =>
    obtain ⟨start, value, later, -, -, -, after, inside, reads, -, rest, rfl⟩ := getItems_succ_ok.mp found
    have fits := reads.2.2
    rw [List.length_drop] at fits
    have bound := ih rest (by omega)
    have length : value.length = value.body.length := rfl
    simp only [List.map_cons, List.sum_cons]
    omega

/-! ### Where a slot points -/

/-- The bytes that the slot of a field points at for a record that the field holds. -/
inductive Points (src : Bytes) (slot : Nat) : StorageClass → Value → Bytes → Value → Prop
  | sub {name : String} {offset : Nat} {inner : Value} (found : getOffset src slot = .ok offset)
      (present : offset ≠ 0) : Points src slot (.table name) inner (src.drop offset) inner
  | any {offset : Nat} {inner : Value} (found : getOffset src slot = .ok offset) (present : offset ≠ 0) :
      Points src slot .any inner (src.drop (offset + 4)) inner
  | item {name : String} {offset i start : Nat} {items : List Value} {inner : Value}
      (found : getOffset src slot = .ok offset) (element : items[i]? = some inner)
      (entry : getOffset (src.drop offset) (4 + 4 * i) = .ok start) :
      Points src slot (.tableArray name) (.list items) ((src.drop offset).drop start) inner

section
variable {catalog : Catalog} {registry : Registry} {read : Table → Bytes → Attempt Value} {src : Bytes}
  {slot : Nat} {value : Value}

theorem getField_table_ok {name : String}
    (found : getField catalog registry read src slot (.table name) = .ok value) :
    ∃ table offset, catalog.table? name = some table ∧ getOffset src slot = .ok offset ∧
      (offset = 0 ∧ value = .absent ∨
        offset ≠ 0 ∧ offset ≤ src.length ∧ ReadsFrom (read table) (src.drop offset) value) := by
  rw [getField] at found
  cases named : catalog.table? name with
  | none => simp [named, abort] at found
  | some table =>
    simp only [named] at found
    obtain ⟨value?, sub, rfl⟩ := map_ok_iff.mp found
    obtain ⟨offset, place, ⟨null, rfl⟩ | ⟨present, inside, inner, reads, rfl⟩⟩ := getSub_ok.mp sub
    · exact ⟨table, offset, rfl, place, .inl ⟨null, rfl⟩⟩
    · exact ⟨table, offset, rfl, place, .inr ⟨present, inside, reads⟩⟩

theorem getField_any_ok (found : getField catalog registry read src slot .any = .ok value) :
    ∃ offset, getOffset src slot = .ok offset ∧
      (offset = 0 ∧ value = .absent ∨ offset ≠ 0 ∧ offset + 4 ≤ src.length ∧ ∃ tag table,
        registry.lookup? tag = some table ∧ ReadsFrom (read table) (src.drop (offset + 4)) value) := by
  rw [getField] at found
  obtain ⟨value?, any, rfl⟩ := map_ok_iff.mp found
  obtain ⟨offset, place, ⟨null, rfl⟩ | ⟨present, inside, -, tag, table, inner, -, known, reads, rfl⟩⟩ :=
    getAny_ok.mp any
  · exact ⟨offset, place, .inl ⟨null, rfl⟩⟩
  · exact ⟨offset, place, .inr ⟨present, inside, tag, table, known, reads⟩⟩

theorem getField_enum_ok {name first : String} {kind : IntKind}
    (found : getField catalog registry read src slot (.enum name kind first) = .ok value) :
    ∃ decl position, catalog.enum? name = some decl ∧ position < decl.values.length ∧
      value = .enum position := by
  rw [getField] at found
  obtain ⟨n, -, known⟩ := bind_ok_iff.mp found
  unfold Catalog.enumValue at known
  split at known
  · simp [abort] at known
  · next decl named =>
    split at known
    · next numbered => exact ⟨decl, n.toNat, named, numbered.2, (Except.ok.inj known).symm⟩
    · simp [reject] at known

/-- The elements of an array were read from ranges behind its entries. -/
theorem getField_array_ok {name : String}
    (found : getField catalog registry read src slot (.tableArray name) = .ok value) :
    ∃ table offset items starts, catalog.table? name = some table ∧ getOffset src slot = .ok offset ∧
      offset ≤ src.length ∧ value = .list items ∧ getOffset (src.drop offset) 0 = .ok items.length ∧
      Spread (src.drop offset) 4 (4 + 4 * items.length) starts items ∧
      List.Forall₂ (fun start item => start ≤ (src.drop offset).length ∧
        ReadsFrom (read table) ((src.drop offset).drop start) item) starts items ∧
      arrayLength (items.map Value.body) ≤ (src.drop offset).length := by
  rw [getField] at found
  cases named : catalog.table? name with
  | none => simp [named, abort] at found
  | some table =>
    simp only [named] at found
    obtain ⟨items, array, rfl⟩ := map_ok_iff.mp found
    obtain ⟨offset, count, place, inside, counted, room, -, elements⟩ := getArray_ok.mp array
    obtain ⟨rfl, starts, spread, each⟩ := getItems_spread elements
    have total := getItems_sum elements room
    refine ⟨table, offset, items, starts, rfl, place, inside, rfl, counted, spread, each, ?_⟩
    rwa [arrayLength_eq, List.length_map]

section
variable {storage : StorageClass} (found : getField catalog registry read src slot storage = .ok value)
include found

/-- A record was read from where its slot points, and from fewer bytes than the record around it. -/
theorem Points.reads (serves : registry.Serves catalog) {body : Bytes} {inner : Value}
    (points : Points src slot storage value body inner) :
    body.length < src.length ∧ ∃ table ∈ catalog.tables, ReadsFrom (read table) body inner := by
  cases points with
  | sub place present =>
    obtain ⟨table, offset, named, placed, kept⟩ := getField_table_ok found
    obtain rfl := Except.ok.inj (place.symm.trans placed)
    have room := (getOffset_bounds place).1
    rcases kept with ⟨null, -⟩ | ⟨-, inside, reads⟩
    · exact absurd null present
    · refine ⟨?_, table, Catalog.mem_of_table? named, reads⟩
      rw [List.length_drop]
      omega
  | any place present =>
    obtain ⟨offset, placed, kept⟩ := getField_any_ok found
    obtain rfl := Except.ok.inj (place.symm.trans placed)
    rcases kept with ⟨null, -⟩ | ⟨-, inside, tag, table, known, reads⟩
    · exact absurd null present
    · refine ⟨?_, table, serves tag table known, reads⟩
      rw [List.length_drop]
      omega
  | @item name offset i start items inner place element entry =>
    obtain ⟨table, other, others, starts, named, placed, inside, same, -, spread, each, -⟩ := getField_array_ok found
    obtain rfl := Except.ok.inj (place.symm.trans placed)
    obtain rfl := Value.list.inj same
    obtain ⟨first, there, listed⟩ := spread.place element
    obtain rfl := Except.ok.inj (entry.symm.trans listed)
    have behind := spread.behind start (List.mem_of_getElem? there)
    obtain ⟨-, reads⟩ := (List.forall₂_iff_zip.mp each).2 (mem_zip_of_getElem? there element)
    have room := (getOffset_bounds entry).1
    refine ⟨?_, table, Catalog.mem_of_table? named, reads⟩
    rw [List.length_drop] at room
    rw [List.length_drop, List.length_drop]
    omega

variable (records : ∀ table body inner, read table body = .ok inner → inner.table? = some table)
include records

/-- Slots point at all records that a field holds. -/
theorem getField_points {inner : Value} (held : inner ∈ value.held) :
    ∃ body, Points src slot storage value body inner := by
  cases storage with
  | table name =>
    obtain ⟨table, offset, named, place, ⟨null, rfl⟩ | ⟨present, inside, reads⟩⟩ := getField_table_ok found
    · simp [Value.held] at held
    · obtain ⟨members, rfl⟩ := Value.eq_record_of_table? (records _ _ _ reads.1)
      obtain rfl := List.mem_singleton.mp held
      exact ⟨_, .sub place present⟩
  | any =>
    obtain ⟨offset, place, ⟨null, rfl⟩ | ⟨present, inside, tag, table, known, reads⟩⟩ := getField_any_ok found
    · simp [Value.held] at held
    · obtain ⟨members, rfl⟩ := Value.eq_record_of_table? (records _ _ _ reads.1)
      obtain rfl := List.mem_singleton.mp held
      exact ⟨_, .any place present⟩
  | tableArray name =>
    obtain ⟨table, offset, items, starts, named, place, inside, rfl, -, spread, -, -⟩ := getField_array_ok found
    obtain ⟨i, element⟩ := List.getElem?_of_mem held
    obtain ⟨start, -, listed⟩ := spread.place element
    exact ⟨_, .item place element listed⟩
  | primitive kind =>
    obtain ⟨n, -, rfl⟩ := map_ok_iff.mp found
    simp [Value.held] at held
  | string =>
    obtain ⟨s, -, rfl⟩ := map_ok_iff.mp found
    simp [Value.held] at held
  | enum name kind first =>
    obtain ⟨decl, position, -, -, rfl⟩ := getField_enum_ok found
    simp [Value.held] at held
  | bool => simp [getField, abort] at found

/-- A field that was read suits its class. -/
theorem getField_suits (serves : registry.Serves catalog) : Suits catalog storage value := by
  cases storage with
  | table name =>
    obtain ⟨table, offset, named, -, ⟨-, rfl⟩ | ⟨-, -, reads⟩⟩ := getField_table_ok found
    · trivial
    · obtain ⟨members, rfl⟩ := Value.eq_record_of_table? (records _ _ _ reads.1)
      exact named
  | any =>
    obtain ⟨offset, -, ⟨-, rfl⟩ | ⟨-, -, tag, table, known, reads⟩⟩ := getField_any_ok found
    · trivial
    · obtain ⟨members, rfl⟩ := Value.eq_record_of_table? (records _ _ _ reads.1)
      exact serves tag table known
  | tableArray name =>
    obtain ⟨table, offset, items, starts, named, -, -, rfl, -, spread, each, -⟩ := getField_array_ok found
    refine ⟨table, named, fun item member => ?_⟩
    obtain ⟨i, element⟩ := List.getElem?_of_mem member
    obtain ⟨start, there, -⟩ := spread.place element
    exact records _ _ _ ((List.forall₂_iff_zip.mp each).2 (mem_zip_of_getElem? there element)).2.1
  | primitive kind =>
    obtain ⟨n, stored, rfl⟩ := map_ok_iff.mp found
    exact getInt_fits stored
  | string =>
    obtain ⟨s, -, rfl⟩ := map_ok_iff.mp found
    trivial
  | enum name kind first =>
    obtain ⟨decl, position, named, numbered, rfl⟩ := getField_enum_ok found
    exact ⟨decl, named, numbered⟩
  | bool => simp [getField, abort] at found

/-- The tail of a field is no longer than the bytes that it was read from. -/
theorem getField_tail {rule : LengthRule} (ruled : storage.lengthRule? = some rule) :
    Value.measure rule value ≤ src.length := by
  cases storage with
  | primitive | bool | enum => simp [StorageClass.lengthRule?] at ruled
  | string =>
    obtain rfl := Option.some.inj ruled
    obtain ⟨s, text, rfl⟩ := map_ok_iff.mp found
    obtain ⟨offset, length, -, -, -, inside, spelled⟩ := getString_ok.mp text
    have bytes := congrArg List.length (Text.utf8_of_ofUtf8? spelled)
    rw [Text.length_utf8, List.length_take, List.length_drop] at bytes
    simp only [Value.measure, stringLength]
    omega
  | table name =>
    obtain rfl := Option.some.inj ruled
    obtain ⟨table, offset, -, -, ⟨-, rfl⟩ | ⟨-, inside, reads⟩⟩ := getField_table_ok found
    · simp [Value.measure, Value.body?, subLength]
    · have fits := reads.2.2
      obtain ⟨members, rfl⟩ := Value.eq_record_of_table? (records _ _ _ reads.1)
      rw [List.length_drop, Value.length] at fits
      simp only [Value.measure, Value.body?, subLength, Option.elim_some]
      omega
  | tableArray name =>
    obtain rfl := Option.some.inj ruled
    obtain ⟨table, offset, items, starts, -, -, -, rfl, -, -, -, total⟩ := getField_array_ok found
    rw [List.length_drop] at total
    simp only [Value.measure]
    omega
  | any =>
    obtain rfl := Option.some.inj ruled
    obtain ⟨offset, -, ⟨-, rfl⟩ | ⟨-, inside, tag, table, -, reads⟩⟩ := getField_any_ok found
    · simp [Value.measure, Value.body?, anyLength]
    · have fits := reads.2.2
      obtain ⟨members, rfl⟩ := Value.eq_record_of_table? (records _ _ _ reads.1)
      rw [List.length_drop, Value.length] at fits
      simp only [Value.measure, Value.body?, anyLength, Option.elim_some]
      omega

end
end

/-! ### Decoded records -/

/-- What is decoded as a table is a record of it. The induction is on the length of the bytes. -/
theorem decode_isRecord {catalog : Catalog} (wellFormed : catalog.WellFormed) {registry : Registry}
    (serves : registry.Serves catalog) {table : Table} (member : table ∈ catalog.tables) {src : Bytes}
    {value : Value} (decoded : decode catalog registry table src = .ok value) : IsRecord catalog table value := by
  induction size : src.length using Nat.strong_induction_on generalizing table src value with
  | _ size ih =>
    subst size
    obtain ⟨members, rfl⟩ := Value.eq_record_of_table? (decode_table? decoded)
    obtain ⟨same, each⟩ := decode_members wellFormed member decoded
    refine .record (List.forall₂_iff_zip.mpr ⟨same, fun {field value} pair => ?_⟩) ?_
    · rcases each pair with ⟨flag, b, rfl⟩ | ⟨-, slot, -, read⟩
      · rw [flag]
        trivial
      · exact getField_suits read (fun _ _ _ => decode_table?) serves
    · intro inner child innerTable tabled
      obtain ⟨field, value, pair, held⟩ := Value.exists_pair_of_child same child
      rcases each pair with ⟨-, b, rfl⟩ | ⟨-, slot, -, read⟩
      · simp [Value.held] at held
      · obtain ⟨body, points⟩ := getField_points read (fun _ _ _ => decode_table?) held
        obtain ⟨shorter, other, known, reads⟩ := points.reads read serves
        obtain rfl := Option.some.inj ((decode_table? reads.1).symm.trans tabled)
        exact ih body.length shorter known reads.1 rfl

end TableWire.Wire
