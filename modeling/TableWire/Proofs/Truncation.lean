import Mathlib
import TableWire.Proofs.Inflation
import TableWire.Proofs.RoundTrip

/-!
Cut records are noticed. No length is stored for a record as a whole, so it has to be some reader that misses the
bytes which are cut off. Each reader, on bytes from which some are missing at the end, gives what was written or
refuses, and when it gives something then what it stands for was not cut (`OnlyGives`). For nested records this is
the same statement one level down (`Withstands`). The last tail of a record ends where the record does, so a record
that is read was not cut at all.
-/
namespace TableWire.Wire
open Schema Layout

/-! ### One result or none -/

/-- An attempt that is refused, or gives one result and then only under a condition. -/
def OnlyGives {α : Type} (attempt : Attempt α) (a : α) (condition : Prop) : Prop :=
  (∃ error, attempt = reject error) ∨ attempt = .ok a ∧ condition

section
variable {α β : Type} {attempt : Attempt α} {a : α} {condition : Prop}

theorem onlyGives_reject (error : DecodeError) : OnlyGives (reject error) a condition := .inl ⟨error, rfl⟩

theorem onlyGives_of_ok (given : attempt = .ok a) (holds : condition) : OnlyGives attempt a condition :=
  .inr ⟨given, holds⟩

theorem OnlyGives.bind (first : OnlyGives attempt a condition) {next : α → Attempt β} {b : β} {goal : Prop}
    (second : condition → OnlyGives (next a) b goal) : OnlyGives (attempt >>= next) b goal := by
  rcases first with ⟨error, rfl⟩ | ⟨rfl, holds⟩
  · exact onlyGives_reject error
  · exact second holds

theorem OnlyGives.map (first : OnlyGives attempt a condition) (f : α → β) :
    OnlyGives (attempt.map f) (f a) condition := by
  rcases first with ⟨error, rfl⟩ | ⟨rfl, holds⟩
  · exact onlyGives_reject error
  · exact onlyGives_of_ok rfl holds

theorem OnlyGives.imp (only : OnlyGives attempt a condition) {goal : Prop}
    (implies : attempt = .ok a → condition → goal) : OnlyGives attempt a goal := by
  rcases only with refused | ⟨given, holds⟩
  · exact .inl refused
  · exact .inr ⟨given, implies given holds⟩

end

/-! ### Bytes with some missing behind them -/

section
variable {src missing : Bytes}

/-- Bytes that end before the cut stand where they stood. -/
theorem standsAt_of_append {offset : Nat} {bytes : Bytes} (stands : StandsAt (src ++ missing) offset bytes)
    (inside : offset + bytes.length ≤ src.length) : StandsAt src offset bytes := by
  unfold StandsAt at stands ⊢
  rw [List.drop_append_of_le_length (by omega)] at stands
  exact List.prefix_of_prefix_length_le stands (List.prefix_append _ _) (by rw [List.length_drop]; omega)

theorem standsAt_rest {offset start : Nat} {bytes : Bytes} (inside : offset ≤ src.length) :
    StandsAt (src.drop offset ++ missing) start bytes ↔ StandsAt (src ++ missing) (offset + start) bytes := by
  rw [← List.drop_append_of_le_length inside, standsAt_drop]

theorem slice_gives (src : Bytes) (offset length : Nat) :
    OnlyGives (slice src offset length) ((src.drop offset).take length) (offset + length ≤ src.length) := by
  by_cases inside : offset + length ≤ src.length
  · exact onlyGives_of_ok (slice_ok.mpr ⟨inside, rfl⟩) inside
  · rw [slice, if_neg inside]
    exact onlyGives_reject _

theorem slice_cut {offset : Nat} {bytes : Bytes} (stands : StandsAt (src ++ missing) offset bytes) :
    OnlyGives (slice src offset bytes.length) bytes (offset + bytes.length ≤ src.length) := by
  rcases slice_gives src offset bytes.length with refused | ⟨given, inside⟩
  · exact .inl refused
  · rw [← List.prefix_iff_eq_take.mp (standsAt_of_append stands inside)] at given
    exact .inr ⟨given, inside⟩

theorem rest_gives (src : Bytes) (offset : Nat) :
    OnlyGives (rest src offset) (src.drop offset) (offset ≤ src.length) := (slice_gives src offset 0).map _

theorem sized_gives {size : Nat} (small : size < sizeLimit) : OnlyGives (sized size) size True :=
  onlyGives_of_ok (sized_of_lt small) trivial

theorem fitted_gives {value : Value} {available offset : Nat} (small : value.length < sizeLimit)
    (fits : value.length ≤ available) : OnlyGives (fitted value available offset) value True :=
  onlyGives_of_ok (fitted_ok.mpr ⟨rfl, small, fits⟩) trivial

theorem getInt_cut {kind : IntKind} {offset : Nat} {n : Int} (fits : Fits kind n)
    (stands : StandsAt (src ++ missing) offset (encodeInt kind n)) :
    OnlyGives (getInt kind src offset) n (offset + kind.width ≤ src.length) := by
  have sliced := (slice_cut stands).map (decodeInt kind)
  rwa [decodeInt_encodeInt fits, length_encodeInt] at sliced

theorem getOffset_cut {slot n : Nat} (small : n < offsetLimit)
    (stands : StandsAt (src ++ missing) slot (encodeInt .uint32 n)) :
    OnlyGives (getOffset src slot) n (slot + 4 ≤ src.length) :=
  (getInt_cut (fits_offset small) stands).map Int.toNat

/-- Offset zero, which stands for no record. -/
theorem null_cut {slot : Nat} (stands : StandsAt (src ++ missing) slot (encodeInt .uint32 0)) :
    OnlyGives (getOffset src slot) 0 (slot + 4 ≤ src.length) := getOffset_cut (by decide) stands

/-- All bytes of bools are missed when one is: the first of them stands last. -/
theorem getFlags_cut {names : List (List String)} (sized : ∀ chunk ∈ names, ChunkSized chunk) {flags : List Bool}
    (all : flags.length = names.flatten.length) {start : Nat}
    (stands : StandsAt (src ++ missing) start (flagBytes names flags).reverse) :
    OnlyGives (getFlags src (chunksBelow (start + names.length) names)) flags True := by
  by_cases inside : start + names.length ≤ src.length
  · refine onlyGives_of_ok (getFlags_of_standsAt sized all (standsAt_of_append stands ?_)) trivial
    rwa [List.length_reverse, length_flagBytes]
  · cases names with
    | nil =>
      obtain rfl : flags = [] := List.length_eq_zero_iff.mp all
      exact onlyGives_of_ok rfl trivial
    | cons first names =>
      rw [List.length_cons] at inside ⊢
      rw [chunksBelow, getFlags, getInt, slice, if_neg (by simp only [IntKind.width]; omega)]
      exact onlyGives_reject _

/-! ### Tails -/

theorem getString_cut {slot tail : Nat} {s : String} (small : tail + stringLength s < offsetLimit)
    (header : StandsAt (src ++ missing) slot (encodeInt .uint32 tail))
    (stands : StandsAt (src ++ missing) tail (encodeInt .uint32 s.utf8ByteSize ++ Text.utf8 s)) :
    OnlyGives (getString src slot) s (tail + stringLength s ≤ src.length) := by
  have limits : offsetLimit < sizeLimit := by decide
  rw [stringLength] at small ⊢
  rw [standsAt_append, length_encodeInt] at stands
  unfold getString
  refine (getOffset_cut (by omega) header).bind fun _ => ?_
  refine (getOffset_cut (by omega) stands.1).bind fun _ => ?_
  refine (sized_gives (by omega)).bind fun _ => ?_
  refine (slice_cut stands.2).bind fun inside => ?_
  rw [Text.ofUtf8?_utf8]
  rw [Text.length_utf8] at inside
  exact onlyGives_of_ok rfl (by simp only [IntKind.width] at inside; omega)

/-- However the bytes of a record are cut, the record is read or refused, and what is read was not cut. -/
def Withstands (read : Bytes → Attempt Value) (value : Value) : Prop :=
  value.length < offsetLimit → ∀ src missing : Bytes, StandsAt (src ++ missing) 0 value.body.image →
    OnlyGives (read src) value (value.length ≤ src.length)

theorem getSub_null {read : Bytes → Attempt Value} {slot : Nat} {condition : Prop}
    (null : OnlyGives (getOffset src slot) 0 condition) : OnlyGives (getSub read src slot) none True :=
  null.bind fun _ => onlyGives_of_ok rfl trivial

theorem getSub_cut {read : Bytes → Attempt Value} {value : Value} (withstands : Withstands read value)
    {slot tail : Nat} (present : 0 < tail) (small : tail + value.length < offsetLimit)
    (header : StandsAt (src ++ missing) slot (encodeInt .uint32 tail))
    (stands : StandsAt (src ++ missing) tail value.body.image) :
    OnlyGives (getSub read src slot) (some value) (tail + value.length ≤ src.length) := by
  have limits : offsetLimit < sizeLimit := by decide
  unfold getSub
  refine (getOffset_cut (by omega) header).bind fun _ => ?_
  rw [if_neg (by omega)]
  refine (rest_gives src tail).bind fun inside => ?_
  refine (withstands (by omega) _ missing ((standsAt_rest inside).mpr stands)).bind fun fits => ?_
  refine (fitted_gives (by omega) fits).bind fun _ => ?_
  rw [List.length_drop] at fits
  exact onlyGives_of_ok rfl (by omega)

/-- Elements of a cut array. The induction is on the elements: each that is read ends before the cut, and the next
one starts where it ends. -/
theorem getItems_cut {read : Bytes → Attempt Value} {items : List Value}
    (each : ∀ item ∈ items, item.body.Exact ∧ Withstands read item) {offset entry cursor : Nat}
    (entries : StandsAt (src ++ missing) entry (itemOffsets cursor (items.map Value.body)))
    (elements : StandsAt (src ++ missing) cursor (itemBytes (items.map Value.body)))
    (small : offset + cursor + ((items.map Value.body).map (·.length)).sum < offsetLimit)
    (table : entry + 4 * items.length ≤ cursor) (room : cursor ≤ src.length) :
    OnlyGives (getItems read src offset items.length entry cursor) items
      (cursor + ((items.map Value.body).map (·.length)).sum ≤ src.length) := by
  induction items generalizing entry cursor with
  | nil => exact onlyGives_of_ok rfl room
  | cons item items ih =>
    have limits : offsetLimit < sizeLimit := by decide
    obtain ⟨exact, withstands⟩ := each item (List.mem_cons_self ..)
    have image : item.body.image.length = item.body.length := exact.length_image
    have length : item.length = item.body.length := rfl
    simp only [List.map_cons, List.sum_cons, itemOffsets, itemBytes, List.flatten_cons, List.length_cons,
      standsAt_append, length_encodeInt, IntKind.width, image] at entries elements small table ⊢
    rw [getItems]
    refine (sized_gives (by omega)).bind fun _ => ?_
    refine (getOffset_cut (by omega) entries.1).bind fun _ => ?_
    refine (sized_gives (by omega)).bind fun _ => ?_
    rw [if_neg (by omega)]
    refine (rest_gives src cursor).bind fun inside => ?_
    refine (withstands (by omega) _ missing ((standsAt_rest inside).mpr elements.1)).bind fun fits => ?_
    refine (fitted_gives (by omega) fits).bind fun _ => ?_
    rw [List.length_drop] at fits
    refine (sized_gives (by omega)).bind fun _ => ?_
    refine (ih (fun other member => each other (List.mem_cons_of_mem _ member)) entries.2 elements.2 (by omega)
      (by omega) (by omega)).bind fun ends => ?_
    exact onlyGives_of_ok rfl (by omega)

theorem getArray_cut {read : Bytes → Attempt Value} {items : List Value}
    (each : ∀ item ∈ items, item.body.Exact ∧ Withstands read item) {slot tail : Nat}
    (small : tail + arrayLength (items.map Value.body) < offsetLimit)
    (header : StandsAt (src ++ missing) slot (encodeInt .uint32 tail))
    (stands : StandsAt (src ++ missing) tail (arrayBytes (items.map Value.body))) :
    OnlyGives (getArray read src slot) items (tail + arrayLength (items.map Value.body) ≤ src.length) := by
  have limits : offsetLimit < sizeLimit := by decide
  rw [arrayLength_eq, List.length_map] at small ⊢
  simp only [arrayBytes, standsAt_append, length_encodeInt, length_itemOffsets, List.length_map, IntKind.width,
    Nat.add_assoc] at stands
  obtain ⟨countStands, entriesStand, itemsStand⟩ := stands
  unfold getArray
  refine (getOffset_cut (by omega) header).bind fun _ => ?_
  refine (rest_gives src tail).bind fun inside => ?_
  refine (getOffset_cut (by omega) ((standsAt_rest inside).mpr countStands)).bind fun _ => ?_
  refine (slice_gives _ 4 (4 * items.length)).bind fun room => ?_
  refine (sized_gives (by omega)).bind fun _ => ?_
  refine (getItems_cut each ((standsAt_rest inside).mpr entriesStand) ((standsAt_rest inside).mpr itemsStand)
    (by omega) (by omega) room).imp fun _ ends => ?_
  rw [List.length_drop] at ends
  omega

theorem getAny_null {registry : Registry} {read : Table → Bytes → Attempt Value} {slot : Nat} {condition : Prop}
    (null : OnlyGives (getOffset src slot) 0 condition) : OnlyGives (getAny registry read src slot) none True :=
  null.bind fun _ => onlyGives_of_ok rfl trivial

theorem getAny_cut {registry : Registry} {read : Table → Bytes → Attempt Value} {table : Table}
    {members : List Value} (withstands : Withstands (read table) (.record table members))
    (faithful : ∀ other, registry.lookup? table.tag = some other → other = table) {slot tail : Nat}
    (present : 0 < tail) (small : tail + (4 + (Value.record table members).length) < offsetLimit)
    (header : StandsAt (src ++ missing) slot (encodeInt .uint32 tail))
    (stands : StandsAt (src ++ missing) tail (table.tag.bytes ++ (Value.record table members).body.image)) :
    OnlyGives (getAny registry read src slot) (some (.record table members))
      (tail + (4 + (Value.record table members).length) ≤ src.length) := by
  have limits : offsetLimit < sizeLimit := by decide
  have tagWidth : table.tag.bytes.length = 4 := rfl
  rw [standsAt_append, tagWidth] at stands
  unfold getAny
  refine (getOffset_cut (by omega) header).bind fun _ => ?_
  rw [if_neg (by omega)]
  refine (rest_gives src tail).bind fun inside => ?_
  have tagStands : StandsAt (src.drop tail ++ missing) 0 table.tag.bytes := (standsAt_rest inside).mpr stands.1
  refine (slice_cut tagStands).bind fun room => ?_
  rw [tagWidth, List.length_drop] at room
  rw [Tag.ofBytes?_bytes]
  simp only
  cases known : registry.lookup? table.tag with
  | none => exact onlyGives_reject _
  | some other =>
    obtain rfl := faithful other known
    simp only [List.drop_drop]
    refine (withstands (by omega) _ missing ((standsAt_rest (by omega)).mpr stands.2)).bind fun fits => ?_
    refine (sized_gives (by omega)).bind fun _ => ?_
    refine (fitted_gives (by omega) fits).bind fun _ => ?_
    rw [List.length_drop] at fits
    exact onlyGives_of_ok rfl (by omega)

end

/-! ### Records -/

/-- A field whose slot and tail are written is read or refused, however the bytes are cut; when it is read its tail
was not cut. -/
def Survives (catalog : Catalog) (registry : Registry) (read : Table → Bytes → Attempt Value)
    (src missing : Bytes) (storage : StorageClass) (value : Value) : Prop :=
  ∀ slot tail : Nat, slot < tail → StandsAt (src ++ missing) slot (slotBytes tail storage value.cell) →
    StandsAt (src ++ missing) tail (tailBytes storage value.cell) →
    tail + tailLength storage value.cell < offsetLimit →
    OnlyGives (getField catalog registry read src slot storage) value
      (tailLength storage value.cell = 0 ∨ tail + tailLength storage value.cell ≤ src.length)

theorem Suits.survives {catalog : Catalog} {registry : Registry} {read : Table → Bytes → Attempt Value}
    {src missing : Bytes} {storage : StorageClass} {value : Value} (suits : Suits catalog storage value)
    (slotted : storage ≠ .bool) (resolves : catalog.Resolves storage)
    (each : ∀ inner ∈ value.held, inner.body.Exact ∧
      ∀ table, inner.table? = some table → Withstands (read table) inner)
    (faithful : storage = .any → ∀ table, value.table? = some table →
      ∀ other, registry.lookup? table.tag = some other → other = table) :
    Survives catalog registry read src missing storage value := by
  intro slot tail behind header stands small
  cases storage with
  | bool => exact absurd rfl slotted
  | primitive kind =>
    cases value with
    | int n =>
      rw [Value.cell] at header
      exact ((getInt_cut suits header).map _).imp fun _ _ => .inl rfl
    | _ => exact suits.elim
  | enum name kind first =>
    cases value with
    | enum position =>
      obtain ⟨decl, found, numbered⟩ := suits
      obtain ⟨same, foundAgain, few⟩ := resolves
      obtain rfl : decl = same := Option.some.inj (found.symm.trans foundAgain)
      rw [Value.cell] at header
      refine (getInt_cut (fits_of_valueCapacity (numbered.trans_le few)) header).bind fun _ => ?_
      refine onlyGives_of_ok ?_ (.inl rfl)
      simp [Catalog.enumValue, found, numbered]
    | _ => exact suits.elim
  | string =>
    cases value with
    | text s =>
      rw [Value.cell] at header stands small ⊢
      exact ((getString_cut small header stands).map _).imp fun _ => .inr
    | _ => exact suits.elim
  | table name =>
    cases value with
    | absent =>
      obtain ⟨table, found⟩ := resolves
      rw [Value.cell] at header
      rw [getField, found]
      exact ((getSub_null (null_cut header)).map _).imp fun _ _ => .inl rfl
    | record table members =>
      obtain ⟨-, withstands⟩ := each _ (List.mem_singleton.mpr rfl)
      rw [Value.cell_record] at header stands small ⊢
      rw [getField, suits]
      exact ((getSub_cut (withstands table rfl) (by omega) small header stands).map _).imp fun _ => .inr
    | _ => exact suits.elim
  | tableArray name =>
    cases value with
    | list items =>
      obtain ⟨table, found, all⟩ := suits
      rw [Value.cell_list] at header stands small ⊢
      rw [getField, found]
      have every : ∀ item ∈ items, item.body.Exact ∧ Withstands (read table) item := by
        intro item member
        obtain ⟨exact, withstands⟩ := each item member
        exact ⟨exact, withstands table (all item member)⟩
      exact ((getArray_cut every small header stands).map _).imp fun _ => .inr
    | _ => exact suits.elim
  | any =>
    cases value with
    | absent =>
      rw [Value.cell] at header
      exact ((getAny_null (null_cut header)).map _).imp fun _ _ => .inl rfl
    | record table members =>
      obtain ⟨-, withstands⟩ := each _ (List.mem_singleton.mpr rfl)
      have tag : (Value.record table members).body.tag = table.tag := by
        rw [Value.body_record]
        rfl
      rw [Value.cell_record] at header stands small ⊢
      rw [tailBytes, tag] at stands
      exact ((getAny_cut (withstands table rfl) (faithful rfl table rfl) (by omega) small header stands).map
        _).imp fun _ => .inr
    | _ => exact suits.elim

/-- Members of a cut record. The induction is on the members, the slots and the tails moving on together; the last
tail that is not empty ends where all tails do. -/
theorem getMembers_cut {catalog : Catalog} {registry : Registry} {read : Table → Bytes → Attempt Value}
    {src missing : Bytes} {members : List Member} {values : List Value}
    (each : List.Forall₂ (fun member value => Suits catalog member.storage value ∧
      Writable member.storage value.cell ∧
      (member.storage ≠ .bool → Survives catalog registry read src missing member.storage value)) members values)
    {slot tail : Nat} (behind : slot + slotWidths members ≤ tail)
    (header : StandsAt (src ++ missing) slot (headerBytes tail members (values.map Value.cell)))
    (tails : StandsAt (src ++ missing) tail (tailsBytes members (values.map Value.cell)))
    (small : tail + (tailLengths members (values.map Value.cell)).sum < offsetLimit) :
    OnlyGives (getMembers catalog registry read src members (slotsFrom slot members)
        (flagsOf (values.map Value.cell))) values
      ((tailLengths members (values.map Value.cell)).sum = 0 ∨
        tail + (tailLengths members (values.map Value.cell)).sum ≤ src.length) := by
  induction each generalizing slot tail with
  | nil => exact onlyGives_of_ok rfl (.inl rfl)
  | @cons member value members values head later ih =>
    obtain ⟨suits, writable, survives⟩ := head
    rw [List.map_cons] at *
    rw [sum_tailLengths_cons] at small ⊢
    rw [slotWidths_cons] at behind
    rw [tailsBytes, standsAt_append, length_tailBytes writable] at tails
    by_cases flag : member.storage = .bool
    · rw [headerBytes, if_pos flag] at header
      rw [flag] at suits behind tails small ⊢
      cases value with
      | bool b =>
        rw [tailLength_bool] at tails small ⊢
        rw [StorageClass.width_bool] at behind
        rw [Value.cell, flagsOf_bool, slotsFrom, if_pos flag, getMembers_bool flag]
        refine (ih (by omega) header tails.2 (by omega)).bind fun whole => ?_
        exact onlyGives_of_ok rfl (by omega)
      | _ => exact suits.elim
    · have wide := StorageClass.width_pos flag
      rw [headerBytes, if_neg flag, standsAt_append, length_slotBytes writable flag,
        length_tailBytes writable] at header
      rw [flagsOf_slot writable flag, slotsFrom, if_neg flag, getMembers_slot flag]
      refine (survives flag slot tail (by omega) header.1 tails.1 (by omega)).bind fun first => ?_
      refine (ih (by omega) header.2 tails.2 (by omega)).bind fun whole => ?_
      exact onlyGives_of_ok rfl (by omega)

theorem getRecord_cut {catalog : Catalog} {registry : Registry} {read : Table → Bytes → Attempt Value}
    {src missing : Bytes} {table : Table} {members : List Value} (computed : table.plan.Computed)
    (suited : List.Forall₂ (fun member value => Suits catalog member.storage value) table.plan.members members)
    (writable : List.Forall₂ (fun member cell => Writable member.storage cell) table.plan.members
      (members.map Value.cell))
    (survives : ∀ pair ∈ table.plan.members.zip members, pair.1.storage ≠ .bool →
      Survives catalog registry read src missing pair.1.storage pair.2)
    (stands : StandsAt (src ++ missing) 0 (recordBytes table.plan (members.map Value.cell)))
    (small : (Value.record table members).length < offsetLimit) :
    OnlyGives (getRecord catalog registry read table src) (.record table members)
      ((Value.record table members).length = table.plan.baseLength ∨
        (Value.record table members).length ≤ src.length) := by
  have length := Value.length_record table members
  rw [Plan.totalLength_eq] at length
  obtain ⟨headerStands, flagsStand, tailsStand⟩ := (standsAt_recordBytes computed writable).mp stands
  have flags : OnlyGives (getFlags src table.plan.chunks) (flagsOf (members.map Value.cell)) True := by
    rw [computed.chunks_eq, computed.baseLength_eq]
    refine getFlags_cut (chunkNames_sized _) ?_ flagsStand
    rw [flatten_chunkNames, length_flagsOf writable]
  have fields : OnlyGives (getMembers catalog registry read src table.plan.members table.plan.slots
      (flagsOf (members.map Value.cell))) members
      ((tailLengths table.plan.members (members.map Value.cell)).sum = 0 ∨ table.plan.baseLength +
        (tailLengths table.plan.members (members.map Value.cell)).sum ≤ src.length) := by
    rw [computed.slots_eq]
    refine getMembers_cut ?_ (by rw [computed.baseLength_eq]; omega) headerStands tailsStand (length ▸ small)
    rw [List.forall₂_map_right_iff] at writable
    exact List.forall₂_iff_zip.mpr ⟨suited.length_eq, fun pair =>
      ⟨(List.forall₂_iff_zip.mp suited).2 pair, (List.forall₂_iff_zip.mp writable).2 pair, survives _ pair⟩⟩
  rw [getRecord]
  refine flags.bind fun _ => fields.bind fun whole => ?_
  exact onlyGives_of_ok rfl (by omega)

/-- A record withstands every cut. The induction is on the nesting of records. -/
theorem IsRecord.withstands {catalog : Catalog} (wellFormed : catalog.WellFormed) {registry : Registry}
    {table : Table} {value : Value} (record : IsRecord catalog table value) (member : table ∈ catalog.tables)
    (faithful : registry.Faithful value) : Withstands (decode catalog registry table) value := by
  induction record with
  | @record table members suited nested ih =>
    intro small src missing stands
    have computed := wellFormed.computed table member
    have exact := exact_children wellFormed suited nested
    have writable := writable_members suited exact
    rw [Value.body_record, (body_exact computed writable).1] at stands
    have survives : ∀ pair ∈ table.plan.members.zip members, pair.1.storage ≠ .bool →
        Survives catalog registry (decode catalog registry) src missing pair.1.storage pair.2 := by
      rintro ⟨field, value⟩ pair slotted
      have suits := (List.forall₂_iff_zip.mp suited).2 pair
      have child : ∀ inner ∈ value.held, inner ∈ (Value.record table members).children :=
        fun inner held => Value.mem_children_of_member (List.of_mem_zip pair).2 held
      refine suits.survives slotted (wellFormed.resolved table member field (List.of_mem_zip pair).1)
        (fun inner held => ⟨exact inner (child inner held), ?_⟩) ?_
      · intro innerTable tabled
        obtain ⟨found, known, same⟩ := suits.held_table inner held
        obtain rfl : found = innerTable := Option.some.inj (same.symm.trans tabled)
        exact ih inner (child inner held) found tabled known (faithful.child (child inner held))
      · intro any innerTable tabled
        exact faithful _ .refl innerTable (Value.mem_anyTables.mpr ⟨field, value, pair, any, tabled⟩)
    have only := getRecord_cut computed suited writable survives stands small
    rw [← decode_eq] at only
    refine only.imp fun decoded whole => ?_
    have base := decode_baseLength wellFormed member decoded
    omega

/-- Bytes of a record from which some are missing at the end are refused, by every registry that binds the tags of
records of any table to their own tables or not at all. -/
theorem decode_truncated {catalog : Catalog} (accepted : catalog.Accepted) {table : Table}
    (member : table ∈ catalog.tables) {value : Value} (record : IsRecord catalog table value)
    (small : value.length < 2 ^ 32) {registry : Registry} (faithful : registry.Faithful value) :
    ∃ bytes, value.toBytes = .ok bytes ∧ bytes.length = value.length ∧
      ∀ n < value.length, ∃ error, decode catalog registry table (bytes.take n) = .error (.rejected error) := by
  have wellFormed := accepted.wellFormed
  have exact := record.exact wellFormed member
  refine ⟨value.body.image, exact.toBytes, exact.length_image, fun n cut => ?_⟩
  have whole : StandsAt (value.body.image.take n ++ value.body.image.drop n) 0 value.body.image := by
    rw [List.take_append_drop]
    exact List.prefix_rfl
  rcases record.withstands wellFormed member faithful small _ _ whole with refused | ⟨-, long⟩
  · exact refused
  · rw [List.length_take] at long
    omega

open Samples in
/-- All 99 ways to cut Rex are noticed. -/
theorem rex_truncated :
    IsRecord kennel dog rex ∧ rex.length = 99 ∧ (Registry.ofTables kennel.tables).Faithful rex ∧
    ∃ bytes, rex.toBytes = .ok bytes ∧ bytes.length = rex.length ∧
      ∀ n < rex.length, ∃ error,
        decode kennel (.ofTables kennel.tables) dog (bytes.take n) = .error (.rejected error) := by
  have length : rex.length = 99 := by decide +kernel
  have bound : ∀ table ∈ kennel.tables, (Registry.ofTables kennel.tables).lookup? table.tag = some table := by
    decide +kernel
  have faithful := (rex_isRecord.knows bound).faithful
  refine ⟨rex_isRecord, length, faithful, ?_⟩
  exact decode_truncated kennel_accepted (by simp [kennel]) rex_isRecord (by rw [length]; decide) faithful

open Samples in
/-- A registry that takes the tag of a leaf for that of a twin does not notice that the last byte is missing: a twin
is shorter than a leaf. -/
theorem cut_branch_decodes :
    grove.Accepted ∧ branch ∈ grove.tables ∧ IsRecord grove branch laden ∧ laden.length = 32 ∧
    (Registry.ofTables [twin]).Serves grove ∧ ∃ bytes, laden.toBytes = .ok bytes ∧
      decode grove (.ofTables [twin]) branch (bytes.take 31) =
        .ok (.record branch [.text "", .absent, .list [], .record twin [.int 7, .bool false]]) := by
  have leafRecord : IsRecord grove leaf (.record leaf [.int 7]) :=
    .record (.cons (show Fits .int32 7 by decide) .nil) (by simp [Value.children, Value.held])
  have record : IsRecord grove branch laden := by
    refine .record ?_ ?_
    · exact .cons trivial (.cons trivial (.cons ⟨leaf, rfl, by simp⟩ (.cons (by simp [Suits, grove]) .nil)))
    · intro inner child innerTable tabled
      obtain rfl : inner = .record leaf [.int 7] := by simpa [Value.children, Value.held] using child
      exact Option.some.inj tabled ▸ leafRecord
  have served : ∀ table ∈ [twin], table ∈ grove.tables := by simp [grove]
  refine ⟨grove_accepted, by simp [grove], record, by decide +kernel, Registry.serves_ofTables served, ?_⟩
  exact ⟨_, rfl, by decide +kernel⟩

end TableWire.Wire
