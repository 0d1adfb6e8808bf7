import Mathlib
import TableWire.Wire.Catalog

/-!
Registries by what they find. A tag leads to the table that it was last bound to (`lookup?_bind`), so in a registry
of tables it leads to the last table with that tag (`lookup?_ofTables`).
-/
namespace TableWire.Wire

theorem Tag.bytes_injective : Function.Injective Tag.bytes := by
  intro tag other same
  simp only [bytes, List.cons.injEq, and_true] at same
  obtain ⟨first, second, third, fourth⟩ := same
  cases tag
  cases other
  simp_all

/-- Tags that compare as equal are equal. -/
instance : Std.LawfulEqOrd Tag where
  eq_of_compare same := Tag.bytes_injective (Std.compare_eq_iff_eq.mp same)

namespace Registry

theorem lookup?_empty (tag : Tag) : empty.lookup? tag = none := by simp [lookup?, empty]

theorem lookup?_bind (registry : Registry) (tag : Tag) (table : Table) (other : Tag) :
    (registry.bind tag table).lookup? other = if tag = other then some table else registry.lookup? other := by
  unfold lookup? bind
  rw [Std.TreeMap.getElem?_insert]
  simp only [Std.compare_eq_iff_eq]

/-- Of tables with the same tag the last one is found. -/
theorem lookup?_ofTables (tables : List Table) (tag : Tag) :
    (ofTables tables).lookup? tag = tables.reverse.find? (·.tag = tag) := by
  induction tables using List.reverseRecOn with
  | nil => exact lookup?_empty tag
  | append_singleton tables table ih =>
    have last : ofTables (tables ++ [table]) = (ofTables tables).register table := by simp [ofTables]
    rw [last, register, lookup?_bind, ih, List.reverse_append, List.reverse_singleton, List.singleton_append,
      List.find?_cons]
    by_cases own : table.tag = tag
    · simp [own]
    · simp [own]

/-! ### Registries of a catalog -/

/-- The tables of a registry are those of a catalog. -/
def Serves (registry : Registry) (catalog : Catalog) : Prop :=
  ∀ tag table, registry.lookup? tag = some table → table ∈ catalog.tables

theorem serves_empty (catalog : Catalog) : Registry.empty.Serves catalog := by
  intro tag table bound
  simp [lookup?_empty] at bound

theorem Serves.bind {registry : Registry} {catalog : Catalog} (serves : registry.Serves catalog)
    (tag : Tag) {table : Table} (known : table ∈ catalog.tables) : (registry.bind tag table).Serves catalog := by
  intro other found bound
  rw [lookup?_bind] at bound
  split at bound
  · exact Option.some.inj bound ▸ known
  · exact serves other found bound

/-- A registry of a catalog's tables has no others. -/
theorem serves_ofTables {catalog : Catalog} {tables : List Table}
    (known : ∀ table ∈ tables, table ∈ catalog.tables) : (ofTables tables).Serves catalog := by
  intro tag table bound
  rw [lookup?_ofTables] at bound
  exact known table (List.mem_reverse.mp (List.mem_of_find?_eq_some bound))

/-- Tags are bound to tables that have them. -/
def OwnTags (registry : Registry) : Prop := ∀ tag table, registry.lookup? tag = some table → table.tag = tag

theorem ownTags_ofTables (tables : List Table) : (ofTables tables).OwnTags := by
  intro tag table bound
  rw [lookup?_ofTables] at bound
  simpa using List.find?_some bound

/-! ### Larger registries -/

/-- Every tag that the smaller registry binds is bound to the same table in the larger one. -/
def Sub (smaller larger : Registry) : Prop :=
  ∀ tag table, smaller.lookup? tag = some table → larger.lookup? tag = some table

theorem sub_refl (registry : Registry) : registry.Sub registry := fun _ _ => id

/-- A registry grows when a free tag is bound. -/
theorem sub_bind {registry : Registry} {tag : Tag} (free : registry.lookup? tag = none) (table : Table) :
    registry.Sub (registry.bind tag table) := by
  intro other found bound
  have apart : tag ≠ other := by
    rintro rfl
    simp [free] at bound
  rw [lookup?_bind, if_neg apart, bound]

end Registry
end TableWire.Wire
