import FeedReader.Paging.Loader
import FeedReader.Remote.Server
import FeedReader.Text.Basic
import FeedReader.Toml.Document

/-!
# The configuration

The user describes server, cache and habits in a TOML file. **Every key may be left out**, and a
file that is missing or blank is as good as one that leaves out all keys. Keys that mean nothing
are no mistake, but a value of the wrong kind is. Two values are corrected instead of being
refused: a page of no stories, and more repetitions than are any good.
-/

namespace FeedReader

/-- What the user has configured. -/
structure Config where
  baseUrl : String := "https://newsblur.com"
  /-- The number of stories on a page that is not the last. -/
  pageSize : Nat := Loader.standardPageSize
  /-- The level at which a stream is opened. -/
  level : Level := .standard
  timeoutSeconds : Nat := 30
  maxRetries : Nat := 3
  cachePath : Option String := none
  sessionCookie : Option String := none
deriving DecidableEq, Repr

/-- What is found in the place of the file. -/
inductive ConfigFile
  | missing
  | unreadable (reason : String)
  | content (bytes : List UInt8)
deriving Repr

/-- Why there is no configuration. -/
inductive ConfigError
  | unreadable (reason : String)
  | malformed (reason : String)
  | tooLarge (size : Nat)
deriving DecidableEq, Repr

namespace Config

/-- The greatest size of a file, in bytes. -/
def maxFileSize : Nat := 1048576

/-- The greatest number of repetitions. -/
def retryLimit : Nat := 10

end Config

/-- What the user is told. -/
def ConfigError.message : ConfigError → String
  | unreadable reason => s!"Failed to read config file: {reason}"
  | malformed reason => s!"Invalid TOML in config file: {reason}"
  | tooLarge size =>
    s!"Config file too large: Config file is {size} bytes (max {Config.maxFileSize} bytes)"

namespace Config

/-! ### Values -/

open Toml (Value Entries)

def text? : Value → Option String
  | .string text => some text
  | _ => none

/-- A number from zero to the given limit, which it does not reach. -/
def natural? (limit : Nat) : Value → Option Nat
  | .integer n => if 0 ≤ n ∧ n < limit then some n.toNat else none
  | _ => none

def level? : Value → Option Level
  | .integer n => Level.ofInt? n
  | _ => none

/-- The value of a key, or a default if the key is left out. -/
def field? {α : Type} (entries : Entries) (key : String) (default : α) (read : Value → Option α) :
    Option α :=
  match entries.find? key with
  | none => some default
  | some value => read value

/-- The configuration as the values of a table say, before anything is corrected. -/
def ofEntries? (entries : Entries) : Option Config := do
  let standard : Config := {}
  pure
    { baseUrl := ← field? entries "base_url" standard.baseUrl text?
      pageSize := ← field? entries "page_size" standard.pageSize (natural? word64)
      level := ← field? entries "default_intelligence" standard.level level?
      timeoutSeconds :=
        ← field? entries "request_timeout_secs" standard.timeoutSeconds (natural? word64)
      maxRetries := ← field? entries "max_retries" standard.maxRetries (natural? word32)
      cachePath := ← field? entries "cache_path" none (fun v => (text? v).map some)
      sessionCookie := ← field? entries "session_cookie" none (fun v => (text? v).map some) }

/-- The configuration with values that are of use. -/
def corrected (c : Config) : Config :=
  { c with
    pageSize := if c.pageSize = 0 then Loader.standardPageSize else c.pageSize
    maxRetries := min c.maxRetries retryLimit }

/-! ### The file -/

/-- The configuration that a text describes. -/
def ofText? (cs : List Char) : Option Config :=
  if cs.all Text.isBlank then some {}
  else (Toml.ofText? cs).bind fun entries => (ofEntries? entries).map corrected

/-- The configuration that a file describes. -/
def ofFile : ConfigFile → Except ConfigError Config
  | .missing => .ok {}
  | .unreadable reason => .error (.unreadable reason)
  | .content bytes =>
    if maxFileSize < bytes.length then .error (.tooLarge bytes.length)
    else
      match Text.ofBytes? bytes with
      | none => .error (.unreadable "stream did not contain valid UTF-8")
      | some text =>
        match ofText? text.toList with
        | none => .error (.malformed "TOML parse error")
        | some config => .ok config

/-! ### What follows from it -/

/-- The session of the user, of which the environment may tell another one than the file. A blank
one is none. -/
def session (c : Config) (ofEnvironment : Option String) : Option String :=
  let isGiven (s : String) : Bool := !Text.isAllBlank s
  (ofEnvironment.filter isGiven).or (c.sessionCookie.filter isGiven)

/-- How patient to be with the server. -/
def serverOptions (c : Config) : Remote.Options :=
  { timeout := { seconds := c.timeoutSeconds }, maxRetries := c.maxRetries }

/-- The name of a level in a summary. -/
def levelWord : Level → String
  | .all => "All"
  | .neutral => "Neutral"
  | .focus => "Focus"

/-- The configuration as it is shown to somebody who looks for a mistake. -/
def summary (c : Config) : String :=
  "Config \x7b base_url: " ++ Text.quoted c.baseUrl ++ ", page_size: " ++ toString c.pageSize ++
    ", default_intelligence: " ++ levelWord c.level ++ ", request_timeout_secs: " ++
    toString c.timeoutSeconds ++ ", max_retries: " ++ toString c.maxRetries ++ ", cache_path: " ++
    Text.optional Text.quotedPath c.cachePath ++ ", session_cookie: " ++
    Text.optional (fun _ => Remote.redacted) c.sessionCookie ++ " \x7d"

end Config

end FeedReader
