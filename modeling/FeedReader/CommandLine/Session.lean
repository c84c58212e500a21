import FeedReader.Cache.Opening
import FeedReader.CommandLine.Arguments
import FeedReader.Config
import FeedReader.Listing
import FeedReader.Paging.Arrival
import FeedReader.Remote.Call

/-!
# A session at the terminal

The program reads some pages of a stream and lists their stories as they come. First everything is
put together that it needs, and **the first thing that is missing ends it**: a home, a
configuration, a level, a cache, and the URL of a server. From then on nothing ends it early, as a
page that does not arrive is only reported.

What the program writes is a list of lines. Some of them are what it was asked for, the others are
about what went wrong.
-/

namespace FeedReader.CommandLine

/-- A line that the program writes. -/
inductive Line
  | shown (text : String)
  | error (message : String)
deriving DecidableEq, Repr

/-! ### Setting out -/

/-- Why the program ends before it reads anything. -/
inductive StartError
  | noHome
  | noConfig (path : String) (cause : ConfigError)
  | noLevel (cause : InvalidLevel)
  | noCache (cause : CacheOpenError)
  | noServer (cause : FetchError)
deriving DecidableEq, Repr

/-- What the user is told. -/
def StartError.message : StartError → String
  | noHome => "HOME environment variable not set"
  | noConfig path _ => s!"Failed to load config from {path}"
  | noLevel cause => cause.message
  | noCache .locked => "The offline cache is locked by another feedpager process."
  | noCache cause => s!"Failed to open offline cache: {cause.message}"
  | noServer _ => "Invalid base_url in config"

/-- A file in a directory, both given by their paths. A path from the root stays as it is. -/
def inDirectory (directory file : String) : String :=
  if file.startsWith "/" ∨ directory = "" then file
  else if directory.endsWith "/" then directory ++ file
  else directory ++ "/" ++ file

/-- The directory for what the program keeps. -/
def ownDirectory (home : String) : String :=
  inDirectory (inDirectory home ".config") "feedpager"

/-- The path of the configuration. -/
def Arguments.configPath (arguments : Arguments) (home : String) : String :=
  arguments.config.getD (inDirectory (ownDirectory home) "config.toml")

/-- What the program is going to do. -/
structure Plan where
  context : Context
  /-- The number of pages that are asked for. -/
  pages : Nat
  config : Config
  cachePath : String
  session : Option String
deriving DecidableEq, Repr

/-- The source for the feeds that the user has named. A single one is no river. -/
def Arguments.source (arguments : Arguments) : Source :=
  match arguments.feeds with
  | [id] => .feed id
  | ids => .ofFeeds ids

/-- The level that the user has chosen. -/
def Arguments.chosenLevel (arguments : Arguments) (config : Config) : Except InvalidLevel Level :=
  match arguments.level with
  | some n => Level.ofInt n
  | none => .ok config.level

/-- Plans what to do, given the configuration and the session that the environment tells. -/
def Plan.make (arguments : Arguments) (home : String) (config : Config)
    (sessionOfEnvironment : Option String) : Except StartError Plan :=
  match arguments.chosenLevel config with
  | .error cause => .error (.noLevel cause)
  | .ok level =>
    .ok
      { context := { source := arguments.source, level }
        pages := if arguments.offline then 0 else arguments.pages.getD 1
        config
        cachePath := config.cachePath.getD (inDirectory (ownDirectory home) "cache.db")
        session := config.session sessionOfEnvironment }

/-- The server that is asked. -/
def Plan.server (plan : Plan) : Except StartError Remote.Server :=
  match Remote.Server.ofUrl plan.config.baseUrl plan.session plan.config.serverOptions with
  | .error cause => .error (.noServer cause)
  | .ok server => .ok server

/-! ### Reading -/

/-- What is written about an event. -/
def Line.ofEvent (level : Level) : Event → List Line
  | .added stories => (Listing.lines level stories).map shown
  | .replaced stories =>
    shown "-- refreshed from server --" :: (Listing.lines level stories).map shown
  | .error e => [error e.message]
  | .fetchState _ | .changed _ | .level _ => []

/-- The first line of a listing. -/
def header (context : Context) : String := s!"== {context.key} ({context.level.name}) =="

/-- The last line of a listing. -/
def footer (l : Loader) : String :=
  let finished := if l.fetch.finished then ", end of feed" else ""
  let offline := if l.fetch.online then "" else ", offline"
  s!"-- {l.visible.length} stories, {l.unreadCount} unread, {l.fetch.page} page(s)" ++ finished ++
    offline ++ " --"

/-- Asks for one page after another, up to a number of pages. The last page of the stream ends it,
and so does a page that does not arrive. -/
def readPages {σ : Type} (server : Remote.Server) (network : Remote.Network σ) :
    Nat → Loader → σ → Loader × σ
  | 0, l, known => (l, known)
  | pages + 1, l, known =>
    match l.requestPage.2 with
    | none => (l, known)
    | some ticket =>
      let (completion, known) := server.complete network (.page ticket) known
      match l.fetchPage [completion] with
      | (fetched, some (.ok (.loaded _ false)), _) => readPages server network pages fetched known
      | (fetched, _, _) => (fetched, known)

/-- Reads as planned. Returns the loader as it is then, which holds what has happened. -/
def Plan.read {σ : Type} (plan : Plan) (server : Remote.Server) (network : Remote.Network σ)
    (cache : Cache) (known : σ) : Loader × σ :=
  let begun := (Loader.new plan.context cache plan.config.pageSize).reset plan.context
  readPages server network plan.pages begun known

/-- What is written about the reading of a stream. -/
def listing (context : Context) (l : Loader) : List Line :=
  [.shown (header context)] ++ l.events.flatMap (Line.ofEvent context.level) ++ [.shown (footer l)]

/-! ### The whole session -/

/-- What the program finds around it. -/
structure Surroundings (σ : Type) where
  /-- The directory of the user. -/
  home : Option String
  /-- The session of the user, if the environment tells one. -/
  session : Option String
  configFile : String → ConfigFile
  openCache : String → Except CacheOpenError Cache
  network : Remote.Network σ
  /-- What the network knows in the beginning. -/
  known : σ

/-- What the program leaves. -/
structure Report (σ : Type) where
  lines : List Line
  /-- Zero for success. -/
  status : Nat := 0
  /-- The path of the cache and what it holds, if it was opened. -/
  cache : Option (String × Cache) := none
  /-- What the network knows in the end. -/
  known : σ

/-- What is read as the arguments say, up to the first thing that is missing. -/
def prepare {σ : Type} (arguments : Arguments) (around : Surroundings σ) : Except StartError Plan :=
  match around.home with
  | none => .error .noHome
  | some home =>
    let path := arguments.configPath home
    match Config.ofFile (around.configFile path) with
    | .error cause => .error (.noConfig path cause)
    | .ok config => Plan.make arguments home config around.session

/-- The report of a session that ends before it has begun. -/
def Report.ofError {σ : Type} (known : σ) (e : StartError) : Report σ :=
  { lines := [.error e.message], status := 1, known }

/-- Reads a stream as the arguments say. -/
def read {σ : Type} (arguments : Arguments) (around : Surroundings σ) : Report σ :=
  match prepare arguments around with
  | .error e => Report.ofError around.known e
  | .ok plan =>
    match around.openCache plan.cachePath with
    | .error cause => Report.ofError around.known (.noCache cause)
    | .ok cache =>
      match plan.server with
      | .error e => { Report.ofError around.known e with cache := some (plan.cachePath, cache) }
      | .ok server =>
        let (l, known) := plan.read server around.network cache around.known
        { lines := listing plan.context l, cache := some (plan.cachePath, l.cache), known }

/-- Does what the arguments say. -/
def run {σ : Type} (arguments : List String) (around : Surroundings σ) : Report σ :=
  match Wish.ofList arguments with
  | .refused => { lines := [], status := 2, known := around.known }
  | .help => { lines := usage.map .shown, known := around.known }
  | .read arguments => read arguments around

end FeedReader.CommandLine
