import FeedReader.Text.Numeral

/-!
# Arguments

The arguments of the program are options, each with its value behind it or behind an equals sign.
**Nothing is guessed**: an option that is unknown, given twice, without value or with a wrong one
makes the program refuse all arguments, and so does an argument that is no option. Only feeds may
be given repeatedly, and at least one has to be.

An argument that begins with a dash is not taken for the value of the option before it. The level
is the exception, as there is a negative one.
-/

namespace FeedReader.CommandLine

/-- What the user has asked for. -/
structure Arguments where
  feeds : List Int := []
  /-- The number of pages, if it is given. -/
  pages : Option Nat := none
  /-- The number of the level, if it is given. -/
  level : Option Int := none
  /-- The file with the configuration, if another one than usual. -/
  config : Option String := none
  offline : Bool := false
deriving DecidableEq, Repr

/-- An option that has a value. -/
inductive ValueOption
  | feed
  | pages
  | level
  | config
deriving DecidableEq, Repr

namespace ValueOption

def ofName? (name : String) : Option ValueOption :=
  if name = "--feed" then some feed
  else if name = "--pages" then some pages
  else if name = "--intelligence" then some level
  else if name = "--config" then some config
  else none

end ValueOption

/-- Whether an argument can be the value of the option before it. -/
def isValueOf (option : ValueOption) (argument : String) : Bool :=
  match argument.toList with
  | '-' :: [] => true
  | '-' :: rest => option == .level && rest.all Char.isDigit
  | _ => true

namespace Arguments

/-- The arguments with the value of one more option. -/
def setValue? (arguments : Arguments) (option : ValueOption) (value : String) : Option Arguments :=
  match option with
  | .feed => do pure { arguments with feeds := arguments.feeds ++ [← Text.int64? value.toList] }
  | .pages => do
    let n ← Text.int64? value.toList
    if arguments.pages.isSome ∨ n < 0 ∨ word32 ≤ n then none
    else pure { arguments with pages := some n.toNat }
  | .level => do
    let n ← Text.int64? value.toList
    if arguments.level.isSome then none else pure { arguments with level := some n }
  | .config =>
    if arguments.config.isSome ∨ value = "" then none
    else some { arguments with config := some value }

/-- The arguments, if there is nothing wrong with them as a whole. -/
def complete? (arguments : Arguments) : Option Arguments :=
  if arguments.feeds.isEmpty then none else some arguments

end Arguments

/-- What the arguments tell the program to do. -/
inductive Wish
  | read (arguments : Arguments)
  /-- To tell how it is used. -/
  | help
  /-- Nothing that it understands. -/
  | refused
deriving DecidableEq, Repr

/-- The wish for arguments that are right or wrong. -/
def Wish.ofArguments : Option Arguments → Wish
  | some arguments => read arguments
  | none => refused

/-- Reads the arguments behind those that have been read. -/
def Wish.readFrom (before : Arguments) : List String → Wish
  | [] => ofArguments before.complete?
  | argument :: rest =>
    if argument = "--" then if rest.isEmpty then ofArguments before.complete? else refused
    else if argument = "--help" ∨ argument.startsWith "-h" then help
    else if argument = "--offline" then
      if before.offline then refused else readFrom { before with offline := true } rest
    else
      let name := argument.toList.takeWhile (· != '=')
      match ValueOption.ofName? (String.ofList name), argument.toList.drop name.length with
      | none, _ => refused
      | some option, _ :: value =>
        match before.setValue? option (String.ofList value) with
        | some arguments => readFrom arguments rest
        | none => refused
      | some option, [] =>
        match rest with
        | [] => refused
        | value :: rest =>
          if isValueOf option value then
            match before.setValue? option value with
            | some arguments => readFrom arguments rest
            | none => refused
          else refused

/-- What the arguments of the program tell it to do. -/
def Wish.ofList (arguments : List String) : Wish := readFrom {} arguments

/-- How the program is used. -/
def usage : List String :=
  ["Page through a NewsBlur feed or river from the terminal",
   "",
   "Usage: feedpager [OPTIONS] --feed <ID>",
   "",
   "Options:",
   "      --feed <ID>",
   "          Feed ID to read; repeat to read several feeds as one river",
   "      --pages <PAGES>",
   "          Number of pages to fetch [default: 1]",
   "      --intelligence <INTELLIGENCE>",
   "          Intelligence filter: -1 (all), 0 (neutral and up), 1 (focus only)",
   "      --config <FILE>",
   "          Config file (default: ~/.config/feedpager/config.toml)",
   "      --offline",
   "          Only show stories from the offline cache",
   "  -h, --help",
   "          Print help"]

end FeedReader.CommandLine
