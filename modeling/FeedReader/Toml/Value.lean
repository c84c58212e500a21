/-!
# TOML values

A TOML text describes a table of named values. **A table is remembered with the way in which it
came about**, since that decides who may add to it: a table written in braces is complete, while one
that was only mentioned on the way to another can still be described.
-/

namespace FeedReader.Toml

/-- How a table came about. -/
inductive Origin
  /-- It is written in braces. -/
  | braces
  /-- It has a header of its own. -/
  | header
  /-- The header of a table inside it mentions it. -/
  | mentioned
  /-- A key with points leads through it. -/
  | pointed
deriving DecidableEq, Repr

/-- A TOML value. Numbers with a fraction or an exponent, dates and times are kept as they were
written. -/
inductive Value
  | string (text : String)
  | integer (n : Int)
  | float (text : String)
  | boolean (b : Bool)
  | time (text : String)
  | array (items : List Value)
  | table (origin : Origin) (entries : List (String × Value))
  /-- The tables that have this header in double brackets, the latest first. -/
  | tables (elements : List (List (String × Value)))
deriving Repr

/-- The entries of a table, in the order in which they were first mentioned. -/
abbrev Entries := List (String × Value)

/-- The value of a key. -/
def Entries.find? (entries : Entries) (key : String) : Option Value := entries.lookup key

/-- The entries with another value for a key that they have. -/
def Entries.replace (entries : Entries) (key : String) (value : Value) : Entries :=
  entries.map fun e => if e.1 = key then (key, value) else e

/-- The entries with one more at the end. -/
def Entries.add (entries : Entries) (key : String) (value : Value) : Entries :=
  entries ++ [(key, value)]

end FeedReader.Toml
