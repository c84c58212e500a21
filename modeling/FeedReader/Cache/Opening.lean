/-!
# Opening the offline cache

The cache is kept in a database file. Opening it takes two steps: the database engine
**connects** to the file, creating it if needed, and then the tables are **prepared**. Either
step may fail, and the engine says why in a text only. What the user is told depends on
whether that text speaks of a lock, which most likely is held by the same program running
a second time.
-/

namespace FeedReader

/-! ### Phrases -/

namespace Text

/-- Whether the phrase stands somewhere in the text, without a gap. -/
def contains (phrase : List Char) : List Char → Bool
  | [] => phrase.isEmpty
  | c :: cs => phrase.isPrefixOf (c :: cs) || contains phrase cs

/-- The small letter for a capital of the Latin alphabet. The Kelvin sign is one of these:
its small letter is a plain `k`. Every other capital has a small letter outside ASCII, except
the capital `I` with a dot, which keeps its dot as a character of its own. -/
def smallLetter (c : Char) : Char :=
  if c = '\u212a' then 'k' else c.toLower

/-- Whether the phrase, given in small letters of ASCII, stands somewhere in the text in any
mixture of small letters and capitals. -/
def containsAnyCase (phrase : List Char) (text : List Char) : Bool :=
  contains phrase (text.map smallLetter)

end Text

/-! ### The engine and its faults -/

/-- The two steps of opening the cache. -/
inductive OpeningStep
  | connecting
  | preparing
deriving DecidableEq, Repr

/-- Why the engine does not take a file. -/
inductive EngineFault
  /-- The file can be neither opened nor created. -/
  | cannotOpen
  | notADatabase
  /-- The path of the file has a question mark, and what follows is no setting of the engine. -/
  | unknownSetting (name : String)
deriving DecidableEq, Repr

namespace EngineFault

/-- What the engine says. -/
def message : EngineFault → String
  | cannotOpen => "error returned from database: (code: 14) unable to open database file"
  | notADatabase => "error returned from database: (code: 26) file is not a database"
  | unknownSetting name =>
    s!"error with configuration: unknown query parameter `{name}` while parsing connection URL"

/-- The step that fails. A file is not read before the tables are prepared. -/
def step : EngineFault → OpeningStep
  | cannotOpen | unknownSetting _ => .connecting
  | notADatabase => .preparing

/-- The fault of a path with a question mark. -/
def ofPath? (path : String) : Option EngineFault :=
  match path.toList.dropWhile (· != '?') with
  | _ :: settings =>
    some (.unknownSetting (String.ofList (settings.takeWhile fun c => c != '=' && c != '&')))
  | [] => none

end EngineFault

/-! ### What the user is told -/

/-- Why the cache could not be opened. -/
inductive CacheOpenError
  | locked
  /-- The tables could not be created. -/
  | unprepared (detail : String)
  | unusable (detail : String)
deriving DecidableEq, Repr

namespace CacheOpenError

/-- What the engine says when somebody else holds the file. A file that cannot be opened
at all counts as held. -/
def lockPhrases : List String :=
  ["database is locked", "database table is locked", "sqlite_busy", "sqlite_locked",
   "unable to open database file"]

/-- Whether a text of the engine speaks of a lock. -/
def speaksOfLock (text : String) : Bool :=
  lockPhrases.any fun phrase => Text.containsAnyCase phrase.toList text.toList

/-- The error for a step that failed, by what the engine says about it. -/
def ofFailure (step : OpeningStep) (text : String) : CacheOpenError :=
  if speaksOfLock text then locked
  else
    match step with
    | .connecting => unusable text
    | .preparing => unprepared text

def ofFault (fault : EngineFault) : CacheOpenError := ofFailure fault.step fault.message

/-- What the user is told. -/
def message : CacheOpenError → String
  | locked =>
    "The offline cache is locked by another process. Please close it and try again."
  | unprepared detail => s!"Database migration failed: {detail}"
  | unusable detail => s!"Database error: {detail}"

end CacheOpenError

end FeedReader
