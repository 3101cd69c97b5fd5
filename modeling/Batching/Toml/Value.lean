namespace Batching.Toml

/-! What a document says: values under names, in tables within tables.

How a table came to be decides what may still be added to it.
-/

inductive Origin where
  /-- A header names it. -/
  | header
  /-- A header names a table within it. -/
  | implied
  /-- A dotted key leads through it. -/
  | dotted
  /-- It is written in braces. -/
  | inline
deriving DecidableEq, Repr

/-- Of a number with a fraction or an exponent, and of a date or time, it is only known
that it is one. -/
inductive Value where
  | text (content : String)
  | integer (number : Int)
  | decimal
  | truth (value : Bool)
  | moment
  | list (items : List Value)
  | table (origin : Origin) (entries : List (String × Value))
  /-- Tables that share a name; the latest of them is the one that can grow. -/
  | tables (latest : List (String × Value)) (earlier : List (List (String × Value)))
deriving Repr

/-- The values under the names of one table; a name comes once. -/
abbrev Entries := List (String × Value)

/-- A name, and the names of the tables that lead to it. -/
structure Key where
  parents : List String := []
  name : String
deriving DecidableEq, Repr

namespace Entries

def value? (entries : Entries) (name : String) : Option Value :=
  entries.lookup name

/-- Changes what a name stands for, if that can be changed; a new name goes last. -/
def alter (name : String) (change : Option Value → Option Value) :
    Entries → Option Entries
  | [] => do return [(name, ← change none)]
  | (other, value) :: rest =>
      if other = name then do return (other, ← change (some value)) :: rest
      else do return (other, value) :: (← alter name change rest)

def add (name : String) (value : Value) (entries : Entries) : Option Entries :=
  entries.alter name fun
    | none => some value
    | some _ => none

/-- Changes the table at the end of a path, which headers have led to.  Tables that are
missing on the way are made. -/
def within (change : Entries → Option Entries) : List String → Entries → Option Entries
  | [], entries => change entries
  | part :: path, entries => entries.alter part fun
      | none => do return .table .implied (← within change path [])
      | some (.table .inline _) => none
      | some (.table origin inner) => do return .table origin (← within change path inner)
      | some (.tables latest earlier) => do
          return .tables (← within change path latest) earlier
      | some _ => none

/-- Gives a value to the name at the end of a dotted key.  The tables on the way may not
be ones that a header names or braces hold, and the one that gets the name is made by
dotted keys only. -/
def assign (name : String) (value : Value) : List String → Entries → Option Entries
  | [], entries => entries.add name value
  | part :: path, entries => entries.alter part fun
      | none => do return .table .dotted (← assign name value path [])
      | some (.table .dotted inner) => do
          return .table .dotted (← assign name value path inner)
      | some (.table .implied inner) =>
          if path.isEmpty then none
          else do return .table .implied (← assign name value path inner)
      | some (.tables latest earlier) =>
          if path.isEmpty then none
          else do return .tables (← assign name value path latest) earlier
      | some _ => none

def openTable (key : Key) (entries : Entries) : Option Entries :=
  entries.within (fun parent => parent.alter key.name fun
    | none => some (.table .header [])
    | some (.table .implied inner) => some (.table .header inner)
    | some _ => none) key.parents

def openElement (key : Key) (entries : Entries) : Option Entries :=
  entries.within (fun parent => parent.alter key.name fun
    | none => some (.tables [] [])
    | some (.tables latest earlier) => some (.tables [] (latest :: earlier))
    | some _ => none) key.parents

end Entries

end Batching.Toml
