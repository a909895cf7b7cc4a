/-!
TOML documents as trees, by the rules of TOML 1.0. Tables keep their entries in order and remember
how they were written, because that decides what may still be added to them: a table has one header
at most, dotted keys extend only what dotted keys or longer headers have made, and what stands in
braces or in an array is complete. Floats and times are checked and not kept, as nothing reads them.
-/

set_option autoImplicit false

namespace TunnelBroker.Toml

inductive Origin where
  | header
  /-- As a part of a longer header. -/
  | implied
  | dotted
  /-- Between braces; such a table is complete. -/
  | braces
  deriving DecidableEq, Repr

inductive Value where
  | string (text : String)
  | integer (value : Int)
  | float
  | boolean
  | datetime
  | array (items : List Value)
  /-- Tables written one by one under a header in double brackets. -/
  | tables (items : List (List (String × Value)))
  | table (origin : Origin) (entries : List (String × Value))

abbrev Entries := List (String × Value)

namespace Entries

def replace (key : String) (value : Value) (entries : Entries) : Entries :=
  entries.map fun entry => if entry.1 = key then (key, value) else entry

def erase (key : String) (entries : Entries) : Entries :=
  entries.filter fun entry => entry.1 ≠ key

end Entries

structure Draft where
  origin : Origin
  entries : Entries

/--
Change the table at the end of `path`, making the tables on the way that are missing.
Dotted keys reach only tables that have no header of their own.
-/
def modifyAt (dotted : Bool) (change : Draft → Option Draft) : List String → Draft → Option Draft
  | [], draft => change draft
  | key :: path, draft =>
    match draft.entries.lookup key with
    | none => do
      let made : Draft := ⟨if dotted then .dotted else .implied, []⟩
      let child ← modifyAt dotted change path made
      return { draft with
        entries := draft.entries ++ [(key, .table child.origin child.entries)] }
    | some (.table .braces _) => none
    | some (.table origin entries) =>
      if dotted && origin == .header then none
      else do
        let child ← modifyAt dotted change path ⟨origin, entries⟩
        return { draft with
          entries := draft.entries.replace key (.table child.origin child.entries) }
    | some (.tables items) => do
      let last ← items.getLast?
      let child ← modifyAt dotted change path ⟨.header, last⟩
      return { draft with
        entries := draft.entries.replace key (.tables (items.dropLast ++ [child.entries])) }
    | some _ => none

/-- Add an entry to a table. A table takes either dotted keys or plain ones, and no key twice. -/
def addEntry (draft : Draft) (path : List String) (key : String) (value : Value) :
    Option Draft :=
  modifyAt true
    (fun table =>
      if (table.origin == .dotted) == path.isEmpty then none
      else if (table.entries.lookup key).isSome then none
      else some { table with entries := table.entries ++ [(key, value)] })
    path draft

structure Entry where
  path : List String
  key : String
  value : Value

def addEntries (draft : Draft) (entries : List Entry) : Option Draft :=
  entries.foldlM (fun draft entry => addEntry draft entry.path entry.key entry.value) draft

structure Section where
  repeated : Bool
  path : List String
  key : String
  entries : List Entry

def Section.place (part : Section) (parent : Draft) : Option Draft :=
  if part.repeated then
    match parent.entries.lookup part.key with
    | none => do
      let table ← addEntries ⟨.header, []⟩ part.entries
      return { parent with entries := parent.entries ++ [(part.key, .tables [table.entries])] }
    | some (.tables items) => do
      let table ← addEntries ⟨.header, []⟩ part.entries
      return { parent with
        entries := parent.entries.replace part.key (.tables (items ++ [table.entries])) }
    | some _ => none
  else do
    let present ←
      match parent.entries.lookup part.key with
      | none => some []
      | some (.table .implied entries) => some entries
      | some _ => none
    let table ← addEntries ⟨.header, present⟩ part.entries
    return { parent with
      entries := parent.entries.erase part.key ++ [(part.key, .table .header table.entries)] }

def ofSections (entries : List Entry) (sections : List Section) : Option Entries := do
  let root ← addEntries ⟨.header, []⟩ entries
  let document ← sections.foldlM (fun draft part => modifyAt false part.place part.path draft) root
  return document.entries

end TunnelBroker.Toml
