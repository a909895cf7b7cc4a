/-!
Tables from texts to values, in ascending order of their keys. Each key occurs once,
so two tables with the same lookups are the same table.
-/

set_option autoImplicit false

namespace TunnelBroker

variable {α β : Type}

namespace Entries

def insert (key : String) (value : α) : List (String × α) → List (String × α)
  | [] => [(key, value)]
  | entry :: rest =>
    if key < entry.1 then (key, value) :: entry :: rest
    else if key = entry.1 then (key, value) :: rest
    else entry :: insert key value rest

def find? (key : String) : List (String × α) → Option α
  | [] => none
  | entry :: rest => if entry.1 = key then some entry.2 else find? key rest

def Ascending (entries : List (String × α)) : Prop :=
  entries.Pairwise fun a b => a.1 < b.1

theorem lt_of_mem_insert {bound key : String} {value : α} {entries : List (String × α)}
    (small : bound < key) (all : ∀ entry ∈ entries, bound < entry.1) :
    ∀ entry ∈ insert key value entries, bound < entry.1 := by
  induction entries with
  | nil => simpa [insert] using small
  | cons head rest ih =>
    have ⟨first, others⟩ := List.forall_mem_cons.1 all
    unfold insert
    split
    · exact List.forall_mem_cons.2 ⟨small, all⟩
    · split
      · exact List.forall_mem_cons.2 ⟨small, others⟩
      · exact List.forall_mem_cons.2 ⟨first, ih others⟩

theorem ascending_insert {key : String} {value : α} {entries : List (String × α)}
    (sorted : Ascending entries) : Ascending (insert key value entries) := by
  induction entries with
  | nil => simp [insert, Ascending]
  | cons head rest ih =>
    have ⟨first, others⟩ := List.pairwise_cons.1 sorted
    unfold insert
    split
    · next less =>
      refine List.pairwise_cons.2 ⟨?_, sorted⟩
      intro entry found
      rcases List.mem_cons.1 found with rfl | found
      · exact less
      · exact String.lt_trans less (first entry found)
    · next notLess =>
      split
      · next same =>
        subst same
        exact List.pairwise_cons.2 ⟨first, others⟩
      · next differ =>
        refine List.pairwise_cons.2 ⟨?_, ih others⟩
        refine lt_of_mem_insert ?_ first
        have le : head.1 ≤ key := String.not_lt.1 notLess
        exact Std.lt_of_le_of_ne le fun same => differ same.symm

theorem find?_insert (key other : String) (value : α) (entries : List (String × α)) :
    find? other (insert key value entries) =
      if key = other then some value else find? other entries := by
  induction entries with
  | nil => rfl
  | cons head rest ih =>
    unfold insert
    split
    · rfl
    · split
      · next same => by_cases h : key = other <;> simp_all [find?]
      · next differ =>
        by_cases h : head.1 = other
        · have : key ≠ other := fun same => differ (same.trans h.symm)
          simp [find?, h, this]
        · simp [find?, h, ih]

end Entries

structure Table (α : Type) where
  entries : List (String × α)
  ascending : Entries.Ascending entries
  deriving DecidableEq

namespace Table

def empty : Table α := ⟨[], .nil⟩

instance : EmptyCollection (Table α) := ⟨empty⟩

instance : Inhabited (Table α) := ⟨empty⟩

def insert (table : Table α) (key : String) (value : α) : Table α :=
  ⟨Entries.insert key value table.entries, Entries.ascending_insert table.ascending⟩

def get? (table : Table α) (key : String) : Option α :=
  Entries.find? key table.entries

def contains (table : Table α) (key : String) : Bool :=
  (table.get? key).isSome

def keys (table : Table α) : List String :=
  table.entries.map Prod.fst

def values (table : Table α) : List α :=
  table.entries.map Prod.snd

def size (table : Table α) : Nat :=
  table.entries.length

def ofList (entries : List (String × α)) : Table α :=
  entries.foldl (fun table entry => table.insert entry.1 entry.2) empty

def map (f : α → β) (table : Table α) : Table β where
  entries := table.entries.map fun entry => (entry.1, f entry.2)
  ascending := by
    rw [Entries.Ascending, List.pairwise_map]
    exact table.ascending

@[simp]
theorem get?_empty (key : String) : (empty : Table α).get? key = none := rfl

@[simp]
theorem get?_insert (table : Table α) (key other : String) (value : α) :
    (table.insert key value).get? other = if key = other then some value else table.get? other :=
  Entries.find?_insert ..

end Table

end TunnelBroker
