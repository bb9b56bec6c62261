import BuiltinWrappers.Toml.Value

/-!
# Documents under construction

A draft remembers how each table came about, because that decides what may
still be added to it.  A table that a header only passes through may get a
header of its own later, or entries through dotted keys; one that dotted keys
made or passed through may get more of them, and no header any more; one that
has its own header may only get entries under that header.
-/

namespace BuiltinWrappers.Toml

inductive Origin where
  | passed
  | dotted
  | defined
  deriving DecidableEq, Repr

inductive Draft where
  | closed (value : Value)
  | table (origin : Origin) (entries : List (String × Draft))
  | tables (earlier : List (List (String × Draft))) (latest : List (String × Draft))

namespace Draft

abbrev Entries := List (String × Draft)

/-! ## Closing a draft -/

mutual

def close : Draft → Value
  | .closed value => value
  | .table _ entries => .table (closeEntries entries)
  | .tables earlier latest =>
      .array (closeTables earlier ++ [.table (closeEntries latest)])

def closeEntries : List (String × Draft) → List (String × Value)
  | [] => []
  | (key, draft) :: entries => (key, close draft) :: closeEntries entries

def closeTables : List (List (String × Draft)) → List Value
  | [] => []
  | entries :: others => .table (closeEntries entries) :: closeTables others

end

/-! ## Changing one table -/

/--
Change the table at the end of a path.  Missing tables on the way are made, the
last table of an array of tables stands for the array, and dotted keys may not
pass through a table that has its own header but take any other for theirs.
-/
def change (dotted : Bool) (edit : Origin → Entries → Option Entries) :
    List String → Origin → Entries → Option Entries
  | [], origin, entries => edit origin entries
  | key :: path, _, entries =>
      match lookup? key entries with
      | none => do
          let origin := if dotted then .dotted else .passed
          let inner ← change dotted edit path origin []
          return insertEntry key (.table origin inner) entries
      | some (.closed _) => none
      | some (.table origin inner) =>
          if dotted ∧ origin = .defined then none
          else do
            let origin := if dotted then .dotted else origin
            let inner ← change dotted edit path origin inner
            return insertEntry key (.table origin inner) entries
      | some (.tables earlier latest) => do
          let latest ← change dotted edit path .defined latest
          return insertEntry key (.tables earlier latest) entries

/-! ## The three edits -/

def addNew (key : String) (draft : Draft) (entries : Entries) : Option Entries :=
  match lookup? key entries with
  | none => some (insertEntry key draft entries)
  | some _ => none

def assign (path : List String) (key : String) (value : Value) :
    Origin → Entries → Option Entries :=
  change true
    (fun origin entries =>
      if (origin = .dotted) = (path = []) then none
      else addNew key (.closed value) entries)
    path

def defineTable (key : String) (_ : Origin) (entries : Entries) : Option Entries :=
  match lookup? key entries with
  | none => some (insertEntry key (.table .defined []) entries)
  | some (.table .passed inner) => some (insertEntry key (.table .defined inner) entries)
  | some _ => none

def appendTable (key : String) (_ : Origin) (entries : Entries) : Option Entries :=
  match lookup? key entries with
  | none => some (insertEntry key (.tables [] []) entries)
  | some (.tables earlier latest) =>
      some (insertEntry key (.tables (earlier ++ [latest]) []) entries)
  | some _ => none

/-! ## Inline tables -/

def inlineTable? (assignments : List ((List String × String) × Value)) : Option Value :=
  let entries? := assignments.foldlM
    (fun entries ((path, key), value) => assign path key value .defined entries) []
  entries?.map fun entries => .table (closeEntries entries)

end Draft

end BuiltinWrappers.Toml
