import FeedReader.CommandLine.Session

/-!
# The program

Reads the environment and the file with the configuration, runs a session, and writes its lines.
What the session does is decided in `FeedReader.CommandLine.Session`, for any network and any
cache. **The program itself brings neither**: every server is out of its reach, and its cache is
empty in the beginning and forgotten in the end.
-/

open FeedReader CommandLine

/-- What is found in the place of the configuration. -/
def readConfigFile (path : String) : IO ConfigFile := do
  try
    return .content (← IO.FS.readBinFile path).toList
  catch
    | .noFileOrDirectory .. => return .missing
    | e => return .unreadable (toString e)

/-- The network of a machine that has none. -/
def noNetwork : Remote.Network Unit := fun request _ =>
  (.failed (.unreachable request.url.text), ())

/-- Writes a line to where it belongs. -/
def writeLine : Line → IO Unit
  | .shown text => IO.println text
  | .error message => IO.eprintln ("Error: " ++ message)

def main (arguments : List String) : IO UInt32 := do
  let home ← IO.getEnv "HOME"
  let file ← match Wish.ofList arguments, home with
    | .read wanted, some home => readConfigFile (wanted.configPath home)
    | _, _ => pure .missing
  let report := run arguments {
    home
    session := ← IO.getEnv "NEWSBLUR_SESSION"
    configFile := fun _ => file
    openCache := fun _ => .ok {}
    network := noNetwork
    known := () }
  report.lines.forM writeLine
  if report.status = 2 then
    IO.eprintln "error: these arguments are not understood; try --help"
  return UInt32.ofNat report.status
