import Mathlib
import TableWire.Proofs.RoundTrip

/-!
Tails anywhere in a buffer. A record puts its tails behind its header, but the writers of tails do not ask for that:
the slot and the tail may stand anywhere, in any order, as long as they do not overlap (`Room`). Then the writer fills
these two places and no others, and the reader gives back what was written (`Stores`). Writers of tails are all alike in
that they put bytes that do not depend on the buffer where they are told to (`Puts`).
-/
namespace TableWire.Wire
open Schema Layout

/-! ### Bytes one by one -/

theorem standsAt_iff_getElem? {src bytes : Bytes} {offset : Nat} :
    StandsAt src offset bytes ↔ ∀ i < bytes.length, src[offset + i]? = bytes[i]? := by
  unfold StandsAt
  rw [List.prefix_iff_getElem?]
  constructor
  · intro stands i inside
    rw [← List.getElem?_drop, stands i inside, List.getElem?_eq_getElem inside]
  · intro each i inside
    rw [List.getElem?_drop, each i inside, List.getElem?_eq_getElem inside]

theorem exists_overwrite {dest bytes : Bytes} {offset : Nat} (inside : offset + bytes.length ≤ dest.length) :
    ∃ result, overwrite dest offset bytes = .ok result := ⟨_, overwrite_ok.mpr ⟨inside, rfl⟩⟩

/-- Bytes are put where they are told to, and all others stay. -/
theorem getElem?_of_overwrite {dest bytes result : Bytes} {offset : Nat}
    (written : overwrite dest offset bytes = .ok result) (i : Nat) :
    result[i]? = if offset ≤ i ∧ i < offset + bytes.length then bytes[i - offset]? else dest[i]? := by
  obtain ⟨inside, rfl⟩ := overwrite_ok.mp written
  have front : (dest.take offset).length = offset := by
    rw [List.length_take]
    omega
  by_cases before : i < offset
  · rw [if_neg (by omega), List.append_assoc, List.getElem?_append_left (by omega), List.getElem?_take_of_lt before]
  by_cases within : i < offset + bytes.length
  · rw [if_pos (by omega), List.append_assoc, List.getElem?_append_right (by omega), front,
      List.getElem?_append_left (by omega)]
  · rw [if_neg (by omega), List.getElem?_append_right (by rw [List.length_append]; omega), List.getElem?_drop,
      List.length_append, front]
    congr 1
    omega

/-- Bytes that were put somewhere stand there. -/
theorem standsAt_of_overwrite {dest bytes result : Bytes} {offset : Nat}
    (written : overwrite dest offset bytes = .ok result) : StandsAt result offset bytes := by
  rw [standsAt_iff_getElem?]
  intro i inside
  rw [getElem?_of_overwrite written, if_pos (by omega), Nat.add_sub_cancel_left]

/-- Bytes stay where they are when others are put somewhere else. -/
theorem StandsAt.overwrite {dest bytes others result : Bytes} {offset other : Nat} (stands : StandsAt dest other others)
    (written : overwrite dest offset bytes = .ok result)
    (apart : ∀ i, other ≤ i → i < other + others.length → ¬ (offset ≤ i ∧ i < offset + bytes.length)) :
    StandsAt result other others := by
  rw [standsAt_iff_getElem?] at stands ⊢
  intro i inside
  rw [getElem?_of_overwrite written, if_neg (apart _ (by omega) (by omega)), stands i inside]

/-! ### Slots and tails -/

/-- A slot and a tail of some length have their places in a buffer, apart from each other, and four bytes can hold where
the tail starts and how long it is. -/
structure Room (dest : Bytes) (slot offset length : Nat) : Prop where
  slotInside : slot + 4 ≤ dest.length
  tailInside : offset + length ≤ dest.length
  apart : ∀ i, slot ≤ i → i < slot + 4 → ¬ (offset ≤ i ∧ i < offset + length)
  near : offset < 2 ^ 32
  short : length < 2 ^ 32

/-- Writing succeeds and takes as many bytes as announced, no byte outside the slot and the tail changes, and reading
gives the value. -/
def Stores {α : Type} (dest : Bytes) (slot offset length : Nat) (put : Attempt (Bytes × Nat))
    (get : Bytes → Attempt α) (value : α) : Prop :=
  ∃ result, put = .ok (result, length) ∧ result.length = dest.length ∧
    (∀ i, ¬ (slot ≤ i ∧ i < slot + 4) → ¬ (offset ≤ i ∧ i < offset + length) → result[i]? = dest[i]?) ∧
    get result = .ok value

/-- A writer that puts the same bytes wherever it is told to. -/
def Puts (write : Bytes → Nat → Attempt (Bytes × Nat)) (bytes : Bytes) : Prop :=
  ∀ front rest : Bytes, bytes.length ≤ rest.length →
    write (front ++ rest) front.length = .ok (front ++ (bytes ++ rest.drop bytes.length), bytes.length)

theorem Puts.eq_overwrite {write : Bytes → Nat → Attempt (Bytes × Nat)} {bytes dest : Bytes} {offset : Nat}
    (puts : Puts write bytes) (inside : offset + bytes.length ≤ dest.length) :
    ∃ result, write dest offset = .ok (result, bytes.length) ∧ overwrite dest offset bytes = .ok result := by
  have room : bytes.length ≤ (dest.drop offset).length := by
    rw [List.length_drop]
    omega
  have written := puts (dest.take offset) (dest.drop offset) room
  have same := overwrite_behind (dest.take offset) (dest.drop offset) bytes room
  rw [List.take_append_drop, List.length_take, Nat.min_eq_left (by omega)] at written same
  exact ⟨_, written, same⟩

/-- A slot is filled and bytes are put somewhere else: both stand where they belong, so that a reader which asks for
nothing else finds its value. -/
theorem Puts.stores {write : Bytes → Nat → Attempt (Bytes × Nat)} {bytes dest : Bytes} {slot offset : Nat}
    (puts : Puts write bytes) (room : Room dest slot offset bytes.length) {α : Type} {get : Bytes → Attempt α}
    {value : α} (reads : ∀ result : Bytes, StandsAt result slot (encodeInt .uint32 offset) →
      StandsAt result offset bytes → offset ≤ result.length → get result = .ok value) :
    Stores dest slot offset bytes.length (putOffset dest slot offset >>= (write · offset)) get value := by
  have width : (encodeInt .uint32 offset).length = 4 := length_encodeInt _ _
  have inside := room.slotInside
  have fits : slot + (encodeInt .uint32 offset).length ≤ dest.length := by omega
  obtain ⟨middle, slotted⟩ := exists_overwrite fits
  have sameMiddle := overwrite_length slotted
  have tailInside : offset + bytes.length ≤ middle.length := sameMiddle ▸ room.tailInside
  obtain ⟨result, written, tailed⟩ := puts.eq_overwrite tailInside
  have same := overwrite_length tailed
  refine ⟨result, ?_, same.trans sameMiddle, ?_, ?_⟩
  · rw [putOffset, putInt, slotted]
    exact written
  · intro i outsideSlot outsideTail
    rw [getElem?_of_overwrite tailed, if_neg outsideTail, getElem?_of_overwrite slotted, width, if_neg outsideSlot]
  · refine reads result ?_ (standsAt_of_overwrite tailed) ?_
    · refine (standsAt_of_overwrite slotted).overwrite tailed ?_
      rw [width]
      exact room.apart
    · omega

/-! ### Tails -/

theorem length_textBytes (s : String) : (encodeInt .uint32 s.utf8ByteSize ++ Text.utf8 s).length = stringLength s := by
  rw [List.length_append, length_encodeInt, Text.length_utf8]
  rfl

theorem length_taggedBytes {body : Body} (exact : body.Exact) :
    (body.tag.bytes ++ body.image).length = anyLength (some body) := by
  rw [List.length_append, exact.length_image]
  rfl

section
variable {dest : Bytes} {slot offset : Nat}

theorem stores_string {s : String} (room : Room dest slot offset (stringLength s)) :
    Stores dest slot offset (stringLength s) (putString dest slot offset s) (getString · slot) s := by
  have puts : Puts (fun dest offset => do
      let dest ← putOffset dest offset s.utf8ByteSize
      let dest ← overwrite dest (offset + 4) (Text.utf8 s)
      return (dest, stringLength s)) (encodeInt .uint32 s.utf8ByteSize ++ Text.utf8 s) := by
    intro front rest room
    rw [length_textBytes] at room ⊢
    exact putText_behind front rest s room
  have short := room.short
  rw [← length_textBytes] at room ⊢
  refine puts.stores room fun result header stands inside => ?_
  exact getString_of_standsAt room.near header inside short stands

theorem stores_array {read : Bytes → Attempt Value} {items : List Value} (exact : ∀ item ∈ items, item.body.Exact)
    (nested : ∀ item ∈ items, item.length < offsetLimit →
      ∀ extra : Bytes, read (item.body.image ++ extra) = .ok item)
    (room : Room dest slot offset (arrayLength (items.map Value.body))) :
    Stores dest slot offset (arrayLength (items.map Value.body)) (putArray dest slot offset (items.map Value.body))
      (getArray read · slot) items := by
  have bodies : ∀ body ∈ items.map Value.body, body.Exact := by simpa using exact
  have puts : Puts (fun dest offset => writeAt dest offset fun array => do
      let array ← putOffset array 0 (items.map Value.body).length
      putItems array 4 (4 + 4 * (items.map Value.body).length) (items.map Value.body))
      (arrayBytes (items.map Value.body)) := by
    intro front rest room
    rw [length_arrayBytes bodies] at room ⊢
    exact putArray_behind bodies front rest room
  have short := room.short
  rw [← length_arrayBytes bodies] at room ⊢
  refine puts.stores room fun result header stands inside => ?_
  exact getArray_of_standsAt room.near header inside exact nested short stands

variable {value : Value} (exact : value.body.Exact)
include exact

/-- Offset zero stands for no record, whatever was written there. -/
theorem stores_sub {read : Bytes → Attempt Value}
    (nested : value.length < offsetLimit → ∀ extra : Bytes, read (value.body.image ++ extra) = .ok value)
    (room : Room dest slot offset (subLength (some value.body))) :
    Stores dest slot offset (subLength (some value.body)) (putSub dest slot offset (some value.body))
      (getSub read · slot) (if offset = 0 then none else some value) := by
  have puts : Puts (fun dest offset => writeAt dest offset value.body.write) value.body.image := by
    intro front rest room
    rw [exact.length_image] at room ⊢
    exact writeAt_exact exact front rest room
  have short : value.length < offsetLimit := room.short
  have length : value.body.image.length = subLength (some value.body) := exact.length_image
  rw [← length] at room ⊢
  refine puts.stores room fun result header stands inside => ?_
  by_cases null : offset = 0
  · rw [if_pos null]
    exact getSub_ok.mpr ⟨offset, getOffset_of_standsAt room.near header, .inl ⟨null, rfl⟩⟩
  · rw [if_neg null]
    exact getSub_of_standsAt room.near header inside null exact short (nested short) stands

theorem stores_any {registry : Registry} {read : Table → Bytes → Attempt Value} {table : Table}
    (tabled : value.table? = some table) (known : registry.lookup? table.tag = some table)
    (nested : value.length < offsetLimit → ∀ extra : Bytes, read table (value.body.image ++ extra) = .ok value)
    (room : Room dest slot offset (anyLength (some value.body))) :
    Stores dest slot offset (anyLength (some value.body)) (putAny dest slot offset (some value.body))
      (getAny registry read · slot) (if offset = 0 then none else some value) := by
  have puts : Puts (fun dest offset => do
      let dest ← overwrite dest offset value.body.tag.bytes
      let result ← writeAt dest (offset + 4) value.body.write
      return (result.1, 4 + result.2)) (value.body.tag.bytes ++ value.body.image) := by
    intro front rest room
    rw [length_taggedBytes exact] at room ⊢
    exact putTagged_behind exact front rest room
  have short : 4 + value.length < offsetLimit := room.short
  rw [← length_taggedBytes exact] at room ⊢
  refine puts.stores room fun result header stands inside => ?_
  by_cases null : offset = 0
  · rw [if_pos null]
    exact getAny_ok.mpr ⟨offset, getOffset_of_standsAt room.near header, .inl ⟨null, rfl⟩⟩
  · rw [if_neg null]
    exact getAny_of_standsAt room.near header inside null exact (by omega) tabled known (nested (by omega)) stands

end

/-- Nothing is put anywhere but into the slot when there is no record. -/
theorem stores_absent {dest : Bytes} {slot : Nat} (offset : Nat) (inside : slot + 4 ≤ dest.length) {α : Type}
    {get : Bytes → Attempt α} {value : α} (reads : ∀ result, getOffset result slot = .ok 0 → get result = .ok value) :
    Stores dest slot offset 0 (do
      let dest ← putOffset dest slot 0
      return (dest, 0)) get value := by
  have width : (encodeInt .uint32 0).length = 4 := length_encodeInt _ _
  have fits : slot + (encodeInt .uint32 0).length ≤ dest.length := by omega
  obtain ⟨result, slotted⟩ := exists_overwrite fits
  refine ⟨result, ?_, overwrite_length slotted, ?_, ?_⟩
  · exact bind_ok_iff.mpr ⟨result, slotted, rfl⟩
  · intro i outside _
    rw [getElem?_of_overwrite slotted, width, if_neg outside]
  · exact reads result (getOffset_of_standsAt (by decide) (standsAt_of_overwrite slotted))

/-- The writers and readers of tails work wherever slot and tail are. A record at offset zero is taken for none. -/
theorem tails_anywhere {catalog : Catalog} (accepted : catalog.Accepted) (registry : Registry) (dest : Bytes)
    (slot offset : Nat) :
    (∀ s, Room dest slot offset (stringLength s) →
      Stores dest slot offset (stringLength s) (putString dest slot offset s) (getString · slot) s) ∧
    (∀ table ∈ catalog.tables, ∀ value, IsRecord catalog table value → registry.Knows value →
      (Room dest slot offset (subLength (some value.body)) →
        Stores dest slot offset (subLength (some value.body)) (putSub dest slot offset (some value.body))
          (getSub (decode catalog registry table) · slot) (if offset = 0 then none else some value)) ∧
      (registry.lookup? table.tag = some table → Room dest slot offset (anyLength (some value.body)) →
        Stores dest slot offset (anyLength (some value.body)) (putAny dest slot offset (some value.body))
          (getAny registry (decode catalog registry) · slot) (if offset = 0 then none else some value))) ∧
    (∀ table ∈ catalog.tables, ∀ items, (∀ item ∈ items, IsRecord catalog table item ∧ registry.Knows item) →
      Room dest slot offset (arrayLength (items.map Value.body)) →
      Stores dest slot offset (arrayLength (items.map Value.body)) (putArray dest slot offset (items.map Value.body))
        (getArray (decode catalog registry table) · slot) items) ∧
    (slot + 4 ≤ dest.length →
      (∀ table, Stores dest slot offset (subLength none) (putSub dest slot offset none)
        (getSub (decode catalog registry table) · slot) none) ∧
      Stores dest slot offset (anyLength none) (putAny dest slot offset none)
        (getAny registry (decode catalog registry) · slot) none) := by
  have wellFormed := accepted.wellFormed
  refine ⟨?_, ?_, ?_, ?_⟩
  · intro s room
    exact stores_string room
  · intro table member value record knows
    have exact := record.exact wellFormed member
    have nested := decode_image wellFormed record member knows
    constructor
    · intro room
      exact stores_sub exact nested room
    · intro known room
      have tabled : value.table? = some table := by
        cases record
        rfl
      exact stores_any exact tabled known nested room
  · intro table member items records room
    refine stores_array ?_ ?_ room
    · intro item listed
      exact (records item listed).1.exact wellFormed member
    · intro item listed
      exact decode_image wellFormed (records item listed).1 member (records item listed).2
  · intro inside
    constructor
    · intro table
      refine stores_absent offset inside fun result null => ?_
      exact getSub_ok.mpr ⟨0, null, .inl ⟨rfl, rfl⟩⟩
    · refine stores_absent offset inside fun result null => ?_
      exact getAny_ok.mpr ⟨0, null, .inl ⟨rfl, rfl⟩⟩

section
open Samples

/-- Rex, two pups and a name in a dirty buffer, each in front of the slot that leads there. -/
theorem rex_anywhere :
    (∀ length ≤ 103, Room (List.replicate 250 255) 200 7 length) ∧ subLength (some rex.body) = 99 ∧
    Stores (List.replicate 250 255) 200 7 (stringLength "Rex") (putString (List.replicate 250 255) 200 7 "Rex")
      (getString · 200) "Rex" ∧
    Stores (List.replicate 250 255) 200 7 (subLength (some rex.body))
      (putSub (List.replicate 250 255) 200 7 (some rex.body))
      (getSub (decode kennel (.ofTables kennel.tables) dog) · 200) (some rex) ∧
    Stores (List.replicate 250 255) 200 7 (anyLength (some rex.body))
      (putAny (List.replicate 250 255) 200 7 (some rex.body))
      (getAny (.ofTables kennel.tables) (decode kennel (.ofTables kennel.tables)) · 200) (some rex) ∧
    Stores (List.replicate 250 255) 200 7 (arrayLength ([pip, pip].map Value.body))
      (putArray (List.replicate 250 255) 200 7 ([pip, pip].map Value.body))
      (getArray (decode kennel (.ofTables kennel.tables) dog) · 200) [pip, pip] := by
  have room : ∀ length ≤ 103, Room (List.replicate 250 255) 200 7 length := by
    intro length few
    have long : (List.replicate 250 (255 : UInt8)).length = 250 := List.length_replicate
    exact ⟨by omega, by omega, by omega, by omega, by omega⟩
  have bound : ∀ table ∈ kennel.tables, (Registry.ofTables kennel.tables).lookup? table.tag = some table := by
    decide +kernel
  have member : dog ∈ kennel.tables := by simp [kennel]
  have recordLength : subLength (some rex.body) = 99 := by decide +kernel
  have anyLength : anyLength (some rex.body) = 103 := by decide +kernel
  have pupsLength : arrayLength ([pip, pip].map Value.body) ≤ 103 := by decide +kernel
  obtain ⟨texts, records, arrays, -⟩ :=
    tails_anywhere kennel_accepted (.ofTables kennel.tables) (List.replicate 250 255) 200 7
  obtain ⟨sub, any⟩ := records dog member rex rex_isRecord (rex_isRecord.knows bound)
  refine ⟨room, recordLength, texts "Rex" (room _ (by decide)), sub (room _ (by omega)),
    any (bound dog member) (room _ (by omega)), arrays dog member [pip, pip] ?_ (room _ pupsLength)⟩
  simpa using ⟨pip_isRecord, pip_isRecord.knows bound⟩

/-- A registry that does not know the leaf in a branch cannot give the branch back, wherever it stands. -/
theorem unknown_leaf_refused :
    grove.Accepted ∧ branch ∈ grove.tables ∧ IsRecord grove branch laden ∧
    Room (List.replicate 64 0) 0 4 (subLength (some laden.body)) ∧
    ∃ result, putSub (List.replicate 64 0) 0 4 (some laden.body) = .ok (result, subLength (some laden.body)) ∧
      getSub (decode grove .empty branch) result 0 = reject (.unknownTag leaf.tag) := by
  have leafRecord : IsRecord grove leaf (.record leaf [.int 7]) :=
    .record (.cons (show Fits .int32 7 by decide) .nil) (by simp [Value.children, Value.held])
  have record : IsRecord grove branch laden := by
    refine .record ?_ ?_
    · exact .cons trivial (.cons trivial (.cons ⟨leaf, rfl, by simp⟩ (.cons (by simp [Suits, grove]) .nil)))
    · intro inner child innerTable tabled
      obtain rfl : inner = .record leaf [.int 7] := by simpa [Value.children, Value.held] using child
      exact Option.some.inj tabled ▸ leafRecord
  have length : subLength (some laden.body) = 32 := by decide +kernel
  refine ⟨grove_accepted, by simp [grove], record, ?_, ?_⟩
  · have long : (List.replicate 64 (0 : UInt8)).length = 64 := List.length_replicate
    exact ⟨by omega, by omega, by omega, by omega, by omega⟩
  · refine ⟨_, rfl, ?_⟩
    decide +kernel

end
end TableWire.Wire
