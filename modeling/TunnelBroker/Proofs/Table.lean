import TunnelBroker.Table

/-!
Tables and their entries. What is looked up is an entry, and a table is put together again
from its entries in order.
-/

set_option autoImplicit false

namespace TunnelBroker

variable {α β : Type}

theorem Entries.insert_of_lt {key : String} (value : α) {entries : List (String × α)}
    (greatest : ∀ entry ∈ entries, entry.1 < key) :
    insert key value entries = entries ++ [(key, value)] := by
  induction entries with
  | nil => rfl
  | cons head rest ih =>
    have ⟨first, others⟩ := List.forall_mem_cons.1 greatest
    have notLess : ¬ key < head.1 := String.lt_asymm first
    have differ : key ≠ head.1 := fun same => String.lt_irrefl key (same ▸ first)
    simp [insert, notLess, differ, ih others]

theorem Entries.find?_eq (key : String) (entries : List (String × α)) :
    find? key entries = (entries.find? (·.1 = key)).map Prod.snd := by
  induction entries with
  | nil => rfl
  | cons head rest ih =>
    by_cases same : head.1 = key
    · simp [find?, same]
    · simp [find?, same, ih]

theorem Entries.find?_map (f : α → β) (key : String) (entries : List (String × α)) :
    find? key (entries.map fun entry => (entry.1, f entry.2)) = (find? key entries).map f := by
  induction entries with
  | nil => rfl
  | cons head rest ih =>
    by_cases same : head.1 = key
    · simp [find?, same]
    · simp [find?, same, ih]

theorem Entries.map_insert (f : α → β) (key : String) (value : α)
    (entries : List (String × α)) :
    (insert key value entries).map (fun entry => (entry.1, f entry.2)) =
      insert key (f value) (entries.map fun entry => (entry.1, f entry.2)) := by
  induction entries with
  | nil => rfl
  | cons head rest ih =>
    simp only [insert, List.map_cons]
    split
    · rfl
    · split
      · rfl
      · rw [List.map_cons, ih]

-- No key occurs twice.
theorem Entries.filter_eq {entries : List (String × α)} (ascending : Ascending entries)
    (key : String) :
    entries.filter (·.1 = key) = ((find? key entries).map (Prod.mk key)).toList := by
  induction entries with
  | nil => rfl
  | cons head rest ih =>
    have ⟨first, others⟩ := List.pairwise_cons.1 ascending
    by_cases same : head.1 = key
    · have alone : rest.filter (·.1 = key) = [] := by
        refine List.filter_eq_nil_iff.2 fun entry found => ?_
        have later : key < entry.1 := same ▸ first entry found
        have unlike : entry.1 ≠ key := fun again => String.lt_irrefl key (again ▸ later)
        simpa using unlike
      have shape : head = (key, head.2) := by rw [← same]
      simp [find?, same, alone, ← shape]
    · simp [find?, same, ih others]

namespace Table

theorem mem_of_get? {table : Table α} {key : String} {value : α}
    (found : table.get? key = some value) : (key, value) ∈ table.entries := by
  rw [get?, Entries.find?_eq] at found
  obtain ⟨entry, first, rfl⟩ := Option.map_eq_some_iff.1 found
  have same : entry.1 = key := by simpa using List.find?_some first
  exact same ▸ List.mem_of_find?_eq_some first

theorem ext_entries {first second : Table α} (same : first.entries = second.entries) :
    first = second := by
  obtain ⟨entries, ascending⟩ := first
  subst same
  rfl

@[simp]
theorem get?_map (f : α → β) (table : Table α) (key : String) :
    (table.map f).get? key = (table.get? key).map f :=
  Entries.find?_map f key table.entries

@[simp]
theorem map_insert (f : α → β) (table : Table α) (key : String) (value : α) :
    (table.insert key value).map f = (table.map f).insert key (f value) :=
  ext_entries (Entries.map_insert f key value table.entries)

theorem foldl_insert (table : Table α) (entries : List (String × α))
    (ascending : Entries.Ascending (table.entries ++ entries)) :
    (entries.foldl (fun table entry => table.insert entry.1 entry.2) table).entries =
      table.entries ++ entries := by
  induction entries generalizing table with
  | nil => simp
  | cons entry entries ih =>
    have greatest : ∀ earlier ∈ table.entries, earlier.1 < entry.1 := fun earlier found =>
      (List.pairwise_append.1 ascending).2.2 earlier found entry List.mem_cons_self
    have inserted : (table.insert entry.1 entry.2).entries = table.entries ++ [entry] :=
      Entries.insert_of_lt entry.2 greatest
    rw [List.foldl_cons, ih, inserted, List.append_assoc, List.singleton_append]
    rwa [inserted, List.append_assoc, List.singleton_append]

@[simp]
theorem ofList_entries (table : Table α) : ofList table.entries = table :=
  ext_entries (foldl_insert empty table.entries table.ascending)

end Table

end TunnelBroker
