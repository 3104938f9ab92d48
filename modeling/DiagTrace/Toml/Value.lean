/-!
TOML documents as tables of values. A table remembers how it came into being, because that decides who may
add to it: headers open a table once, dotted keys add only to tables made by dotted keys, and a table
written in one line is closed.
-/
namespace DiagTrace

/-- How a table was made. -/
inductive TableKind where
  /-- By a header of its own, or the document itself. -/
  | header
  /-- By the header of a table inside it. -/
  | implied
  | dotted
  | inline
deriving DecidableEq

inductive Toml where
  | text (value : String)
  | bool (value : Bool)
  /-- A number; which one does not matter to any reader here. -/
  | number
  /-- A date, a time of day or both; which one does not matter either. -/
  | moment
  | array (items : List Toml)
  | table (kind : TableKind) (entries : List (String × Toml))
  /-- Tables under one repeated header, newest first. -/
  | tables (items : List (List (String × Toml)))
deriving Inhabited

namespace Toml

abbrev Entries := List (String × Toml)

/-- Gives a key a new value that depends on the old one; a refused value refuses the whole. -/
def change (key : String) (value : Option Toml → Option Toml) : Entries → Option Entries
  | [] => (value none).map fun value => [(key, value)]
  | (other, old) :: rest =>
    if other == key then (value (some old)).map fun value => (key, value) :: rest
    else (change key value rest).map ((other, old) :: ·)

def add (key : String) (value : Toml) : Entries → Option Entries :=
  change key fun
    | none => some value
    | some _ => none

/-- Walks down a path from table to table, makes those that are missing, and changes the last one. Of
repeated tables the path goes through the newest. -/
def within (dotted : Bool) (edit : TableKind → Entries → Option Entries) :
    List String → TableKind → Entries → Option Entries
  | [], kind, entries => edit kind entries
  | key :: path, _, entries =>
    let made := if dotted then TableKind.dotted else .implied
    change key (fun
      | none => (within dotted edit path made []).map (.table made)
      | some (.table kind inner) =>
        if kind = .inline || (dotted && kind = .header) then none
        else (within dotted edit path kind inner).map (.table kind)
      | some (.tables (inner :: earlier)) =>
        (within dotted edit path .header inner).map fun inner => .tables (inner :: earlier)
      | some _ => none) entries

def assign (path : List String) (key : String) (value : Toml) (kind : TableKind) (entries : Entries) :
    Option Entries :=
  within true (fun last entries =>
    if path.isEmpty || last = .dotted then add key value entries else none) path kind entries

/-- Opens the table of a header; one that only other headers implied may still be opened. -/
def openTable (path : List String) (key : String) (entries : Entries) : Option Entries :=
  within false (fun _ entries =>
    change key (fun
      | none => some (.table .header [])
      | some (.table .implied inner) => some (.table .header inner)
      | some _ => none) entries) path .header entries

def openRepeated (path : List String) (key : String) (entries : Entries) : Option Entries :=
  within false (fun _ entries =>
    change key (fun
      | none => some (.tables [[]])
      | some (.tables items) => some (.tables ([] :: items))
      | some _ => none) entries) path .header entries

end Toml

end DiagTrace
