import FeedReader.Toml.Value

/-!
# Putting values into tables

A table may be described in pieces, but **nothing may be said twice**: no key gets two values, no
table two headers, and a table that is complete gets no further entries. There are three ways to add
to a table, each with its own view of what may be extended:

* a key with points adds to tables that keys with points have made,
* a header describes a table that is new or was only mentioned,
* a header in double brackets adds one more table to those with the same header.
-/

namespace FeedReader.Toml

namespace Entries

/-- The entries with a value for a key that may have points. `isOwn` tells whether the table is
one that such a key may end in: the one that is being described, or one that keys with points have
made. -/
def insert? (isOwn : Bool) (value : Value) : List String → Entries → Option Entries
  | [], _ => none
  | [key], entries =>
    if isOwn && (entries.find? key).isNone then some (entries.add key value) else none
  | key :: rest, entries =>
    match entries.find? key with
    | none => do
      pure (entries.add key (.table .pointed (← insert? true value rest [])))
    | some (.table .pointed inner) => do
      pure (entries.replace key (.table .pointed (← insert? true value rest inner)))
    | some (.table .mentioned inner) => do
      pure (entries.replace key (.table .mentioned (← insert? false value rest inner)))
    | some (.tables (latest :: earlier)) => do
      pure (entries.replace key (.tables ((← insert? false value rest latest) :: earlier)))
    | _ => none

/-- Changes the entries of the table at the end of a path. Tables on the path that do not exist yet
are mentioned by it, and of several tables with one header the path leads into the latest. -/
def within? (change : Entries → Option Entries) : List String → Entries → Option Entries
  | [], entries => change entries
  | key :: rest, entries =>
    match entries.find? key with
    | none => do pure (entries.add key (.table .mentioned (← within? change rest [])))
    | some (.table .braces _) => none
    | some (.table origin inner) => do
      pure (entries.replace key (.table origin (← within? change rest inner)))
    | some (.tables (latest :: earlier)) => do
      pure (entries.replace key (.tables ((← within? change rest latest) :: earlier)))
    | _ => none

/-- Begins the description of a table. -/
def define? (key : String) (entries : Entries) : Option Entries :=
  match entries.find? key with
  | none => some (entries.add key (.table .header []))
  | some (.table .mentioned inner) => some (entries.replace key (.table .header inner))
  | _ => none

/-- Begins the description of one more table with this header. -/
def defineNext? (key : String) (entries : Entries) : Option Entries :=
  match entries.find? key with
  | none => some (entries.add key (.tables [[]]))
  | some (.tables elements) => some (entries.replace key (.tables ([] :: elements)))
  | _ => none

end Entries

end FeedReader.Toml
