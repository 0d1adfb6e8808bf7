import Mathlib
import TableWire.Proofs.Inflation
import TableWire.Proofs.RoundTrip

/-!
Writing a decoded record brings its bytes into the one form that records are written in. Foreign bytes may share
tails, leave gaps, set bits that stand for no bool or go on behind the record; whatever is decoded from them is a
record that can be written and read again. For records of any table this asks that a tag which led to a table is
the tag that the table is written with (`Registry.OwnTags`).
-/
namespace TableWire.Wire
open Schema Layout

section
variable {catalog : Catalog} (wellFormed : catalog.WellFormed) {registry : Registry} {src : Bytes} {value : Value}
include wellFormed

/-- The registry found the table of every record that a field of any table holds in a decoded record. -/
theorem Decodes.exists_lookup? (decodes : Decodes catalog registry src value) {anyTable : Table}
    (listed : anyTable ∈ value.anyTables) : ∃ tag, registry.lookup? tag = some anyTable := by
  obtain ⟨table, member, decoded⟩ := decodes
  obtain ⟨members, rfl⟩ := Value.eq_record_of_table? (decode_table? decoded)
  obtain ⟨field, held, pair, any, tabled⟩ := Value.mem_anyTables.mp listed
  rcases (decode_members wellFormed member decoded).2 pair with ⟨-, b, rfl⟩ | ⟨-, slot, -, read⟩
  · simp [Value.table?] at tabled
  · rw [any] at read
    obtain ⟨offset, -, ⟨-, rfl⟩ | ⟨-, -, tag, found, known, reads⟩⟩ := getField_any_ok read
    · simp [Value.table?] at tabled
    · obtain rfl := Option.some.inj (tabled.symm.trans (decode_table? reads.1))
      exact ⟨tag, known⟩

/-- A registry knows what it has decoded, at any depth, when its tags lead to tables that are written with them. -/
theorem Decodes.knows (serves : registry.Serves catalog) (own : registry.OwnTags)
    (decodes : Decodes catalog registry src value) : registry.Knows value := by
  intro inner within anyTable listed
  obtain ⟨body, unfolds⟩ := decodes.exists_unfolds wellFormed serves within
  obtain ⟨tag, known⟩ := (unfolds.decodes wellFormed serves decodes).exists_lookup? wellFormed listed
  rwa [own tag anyTable known]

end

/-- A decoded record is decoded again from the bytes that it is written as, and so these bytes do not change when
they are decoded and written once more. -/
theorem decode_reencoded {catalog : Catalog} (accepted : catalog.Accepted) {registry : Registry}
    (serves : registry.Serves catalog) (own : registry.OwnTags) {table : Table} (member : table ∈ catalog.tables)
    {src : Bytes} {value : Value} (decoded : decode catalog registry table src = .ok value)
    (small : value.length < 2 ^ 32) :
    ∃ bytes, value.toBytes = .ok bytes ∧ decode catalog registry table bytes = .ok value ∧
      (do
        let again ← decode catalog registry table bytes
        again.toBytes) = .ok bytes := by
  have wellFormed := accepted.wellFormed
  have decodes : Decodes catalog registry src value := ⟨table, member, decoded⟩
  have record := decode_isRecord wellFormed serves member decoded
  have written := (record.exact wellFormed member).toBytes
  have again := decode_image wellFormed record member (decodes.knows wellFormed serves own) small []
  rw [List.append_nil] at again
  refine ⟨value.body.image, written, again, ?_⟩
  rw [again]
  exact written

open Samples in
/-- The dog in the 52 bytes of `knot` takes 61 bytes when it is written with tails of its own, and stays the same. -/
theorem knot_reencoded :
    decode kennel (.ofTables kennel.tables) dog knot = .ok unknotted ∧ knot.length = 52 ∧ unknotted.length = 61 ∧
    ∃ bytes, unknotted.toBytes = .ok bytes ∧ decode kennel (.ofTables kennel.tables) dog bytes = .ok unknotted ∧
      (do
        let again ← decode kennel (.ofTables kennel.tables) dog bytes
        again.toBytes) = .ok bytes := by
  have decoded : decode kennel (.ofTables kennel.tables) dog knot = .ok unknotted := by decide +kernel
  have length : unknotted.length = 61 := by decide +kernel
  refine ⟨decoded, rfl, length, ?_⟩
  exact decode_reencoded kennel_accepted (Registry.serves_ofTables fun _ => id) (Registry.ownTags_ofTables _)
    (by simp [kennel]) decoded (by rw [length]; decide)

end TableWire.Wire
