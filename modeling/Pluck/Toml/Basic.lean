import Pluck.Entries

/-! TOML values and the tables in which a document gathers them. -/

namespace Pluck

namespace Toml

/-- How a table came to be, which decides who may still write into it. -/
inductive Origin where
  /-- Written between braces; nothing may be added. -/
  | inline
  /-- Opened by a header of its own. -/
  | header
  /-- Named only on the way to the table of another header, and not yet opened. -/
  | passing
  /-- Made by a key with dots. -/
  | dotted
deriving DecidableEq

end Toml

/-- A value of a document. Floating-point numbers and dates are known by their kind alone. -/
inductive Toml where
  | string (s : String)
  | integer (n : Int)
  | float
  | boolean (b : Bool)
  | date
  | array (elements : List Toml)
  | table (origin : Toml.Origin) (entries : List (String × Toml))
  /-- Tables under one header that comes again; only the last one can be written. -/
  | tables (earlier : List (List (String × Toml))) (last : List (String × Toml))

namespace Toml

/-- The entries of a table while a document is read. -/
abbrev Table := Entries Toml

/-- Goes down to the table of a header and changes it. Tables on the way are made as needed. -/
def changeAt (change : Table → Option Table) : List String → Table → Option Table
  | [], entries => change entries
  | key :: path, entries =>
      match Entries.get? key entries with
      | none =>
          (changeAt change path []).map fun t => Entries.insert key (.table .passing t) entries
      | some (.table .inline _) => none
      | some (.table origin inner) =>
          (changeAt change path inner).map fun t => Entries.insert key (.table origin t) entries
      | some (.tables earlier last) =>
          (changeAt change path last).map fun t => Entries.insert key (.tables earlier t) entries
      | some _ => none

/-- Opens the table of a header, which may only have been named in passing. -/
def openTable (key : String) (entries : Table) : Option Table :=
  match Entries.get? key entries with
  | none => some (Entries.insert key (.table .header []) entries)
  | some (.table .passing inner) => some (Entries.insert key (.table .header inner) entries)
  | some _ => none

/-- Opens one more table under a header that may come again. -/
def openNext (key : String) (entries : Table) : Option Table :=
  match Entries.get? key entries with
  | none => some (Entries.insert key (.tables [] []) entries)
  | some (.tables earlier last) =>
      some (Entries.insert key (.tables (earlier ++ [last]) []) entries)
  | some _ => none

/-- Writes a value under a key that may have dots. No key is written twice. Dots lead through the
last of the tables under a header that comes again and through single tables that no header
opened; the table to which the last dot leads must come from dots itself. -/
def assign (value : Toml) : List String → Table → Option Table
  | [], _ => none
  | [key], entries =>
      match Entries.get? key entries with
      | none => some (Entries.insert key value entries)
      | some _ => none
  | key :: next :: path, entries =>
      match Entries.get? key entries with
      | none =>
          (assign value (next :: path) []).map fun t =>
            Entries.insert key (.table .dotted t) entries
      | some (.table .dotted inner) =>
          (assign value (next :: path) inner).map fun t =>
            Entries.insert key (.table .dotted t) entries
      | some (.table .passing inner) =>
          if path.isEmpty then none
          else
            (assign value (next :: path) inner).map fun t =>
              Entries.insert key (.table .passing t) entries
      | some (.tables earlier last) =>
          if path.isEmpty then none
          else
            (assign value (next :: path) last).map fun t =>
              Entries.insert key (.tables earlier t) entries
      | some _ => none

end Toml
end Pluck
