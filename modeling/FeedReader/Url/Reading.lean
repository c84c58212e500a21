import FeedReader.Url.Basic

/-!
# Reading a URL

A text is taken apart from left to right: the scheme, who is asked and where, the path, the query,
the fragment. Blanks and controls at the ends of the text do not count, nor do tabs and line ends
anywhere. The schemes of the web are read generously: **any number of slashes, in both directions,
leads to the host**, and dots in a path are resolved, as are dots that are escaped.
-/

namespace FeedReader.Url

/-- How a scheme wants its URLs read. -/
inductive SchemeKind
  /-- A scheme of the web: there is always a host. -/
  | web
  /-- Files, perhaps of another host. -/
  | file
  | other
deriving DecidableEq, Repr

namespace SchemeKind

def ofScheme (scheme : String) : SchemeKind :=
  if scheme = "file" then file
  else if ["http", "https", "ws", "wss", "ftp"].contains scheme then web
  else other

/-- Whether a character separates the parts of a path. -/
def isSlash (kind : SchemeKind) (c : Char) : Bool := c == '/' || (kind != other && c == '\\')

/-- Whether a character ends the part that names the host. -/
def endsAuthority (kind : SchemeKind) (c : Char) : Bool :=
  kind.isSlash c || c == '?' || c == '#'

end SchemeKind

/-- The port of a scheme for which none is given. -/
def standardPort? (scheme : String) : Option Nat :=
  if scheme = "http" ∨ scheme = "ws" then some 80
  else if scheme = "https" ∨ scheme = "wss" then some 443
  else if scheme = "ftp" then some 21
  else none

/-! ### What does not count -/

/-- A blank or a control of ASCII. -/
def isTrimmed (c : Char) : Bool := c.toNat ≤ 0x20

/-- A tab or a line end. -/
def isIgnored (c : Char) : Bool := c == '\t' || c == '\n' || c == '\r'

/-- The characters of a text that count. -/
def significant (cs : List Char) : List Char :=
  (((cs.dropWhile isTrimmed).reverse.dropWhile isTrimmed).reverse).filter (!isIgnored ·)

/-! ### The scheme -/

def isLetter (c : Char) : Bool := ('a' ≤ c && c ≤ 'z') || ('A' ≤ c && c ≤ 'Z')

/-- A character of a scheme behind the first. -/
def isSchemeChar (c : Char) : Bool :=
  isLetter c || c.isDigit || c == '+' || c == '-' || c == '.'

/-- The scheme in small letters, and what stands behind its colon. -/
def scheme? (cs : List Char) : Option (String × List Char) :=
  match cs, cs.dropWhile isSchemeChar with
  | c :: _, ':' :: rest =>
    if isLetter c then
      some (String.ofList ((cs.takeWhile isSchemeChar).map Char.toLower), rest)
    else none
  | _, _ => none

/-! ### User, host and port -/

/-- Where the port begins: at the first colon that is not between brackets. -/
def hostLength (inBrackets : Bool) : List Char → Nat
  | [] => 0
  | c :: cs =>
    if c = ':' ∧ !inBrackets then 0
    else hostLength ((inBrackets || c == '[') && c != ']') cs + 1

/-- The number of a port and what stands behind it. -/
def readPort (kind : SchemeKind) (cs : List Char) : Except UrlError (Option Nat × List Char) :=
  let digits := cs.takeWhile Char.isDigit
  let rest := cs.dropWhile Char.isDigit
  let number := (Text.numeral? 10 digits).getD 0
  -- behind the port of a scheme that is not of the web, a backslash begins the path
  let ends := match kind, rest with
    | _, [] => true
    | .other, '\\' :: _ => true
    | _, _ => false
  if 65536 ≤ number ∨ !ends then .error .invalidPort
  else .ok (if digits.isEmpty then none else some number, rest)

/-- Who is asked, and where. -/
structure Authority where
  username : List Char := []
  password : List Char := []
  host : Option Host := none
  port : Option Nat := none
  /-- What stands behind the port. -/
  rest : List Char := []

/-- Reads the host and the port. An empty host is none. -/
def readHost (kind : SchemeKind) (scheme : String) (cs : List Char) :
    Except UrlError Authority := do
  let length := hostLength false cs
  let name := cs.take length
  let behind := cs.drop length
  if name.isEmpty then
    if kind = .other ∧ behind.isEmpty then .ok {} else .error .emptyHost
  else
    let host ← if kind = .other then Host.ofOther name else Host.ofWeb name
    match behind with
    | [] => .ok { host := some host }
    | _ :: digits =>
      let (port, rest) ← readPort kind digits
      .ok { host := some host, port := port.filter (standardPort? scheme != some ·), rest }

/-- Reads what stands between the two slashes and the path. -/
def readAuthority (kind : SchemeKind) (scheme : String) (cs : List Char) :
    Except UrlError Authority := do
  match Text.splitAtLast? '@' cs with
  | none => readHost kind scheme cs
  | some (user, behind) =>
    let username := user.takeWhile (· != ':')
    let password := (user.dropWhile (· != ':')).drop 1
    let authority ← readHost kind scheme behind
    if authority.host.isNone ∧ (!username.isEmpty ∨ !password.isEmpty) then .error .emptyHost
    else
      .ok { authority with
        username := escape escapedInUser username
        password := escape escapedInUser password }

/-! ### The path -/

/-- Whether a name in a path stands for the directory that it is in. -/
def isDot (name : List Char) : Bool :=
  [".", "%2e"].contains (String.ofList (name.map Char.toLower))

/-- Whether a name in a path stands for the directory above. -/
def isDoubleDot (name : List Char) : Bool :=
  ["..", ".%2e", "%2e.", "%2e%2e"].contains (String.ofList (name.map Char.toLower))

/-- A letter that names a drive, with a colon or a bar behind it. -/
def isDrive (name : List Char) : Bool :=
  match name with
  | [letter, mark] => isLetter letter && (mark == ':' || mark == '|')
  | _ => false

/-- The names of a path that lead to the directory above. The names are in reverse. A drive has
no directory above. -/
def above (kind : SchemeKind) : List (List Char) → List (List Char)
  | [] => []
  | [name] => if kind = .file ∧ isDrive name then [name] else []
  | _ :: names => names

/-- Resolves the dots in the names of a path. The names before are in reverse. A path that ends in
dots leads to a directory, so it ends in an empty name. -/
def resolve (kind : SchemeKind) (before : List (List Char)) : List (List Char) → List (List Char)
  | [] => before.reverse
  | name :: names =>
    if isDoubleDot name then
      let parent := above kind before
      resolve kind (if names.isEmpty then [] :: parent else parent) names
    else if isDot name then resolve kind (if names.isEmpty then [] :: before else before) names
    else resolve kind (escape escapedInPath name :: before) names

/-- Reads a path. The slash that it begins with may be left out. -/
def readPath (kind : SchemeKind) (cs : List Char) : List (List Char) :=
  let names := match cs with
    | c :: rest => if kind.isSlash c then rest else c :: rest
    | [] => []
  resolve kind [] (Text.split kind.isSlash names)

/-! ### The whole -/

/-- Reads what stands behind the host, or behind the scheme if there is no host. -/
def finish (url : Url) (kind : SchemeKind) (cs : List Char) (read : List Char → Path) : Url :=
  let path := cs.takeWhile fun c => c != '?' && c != '#'
  let behind := cs.dropWhile fun c => c != '?' && c != '#'
  let isEscaped := if kind = .other then escapedInQuery else escapedInWebQuery
  let query := match behind with
    | '?' :: rest => some (String.ofList (escape isEscaped (rest.takeWhile (· != '#'))))
    | _ => none
  let fragment := match behind.dropWhile (· != '#') with
    | '#' :: rest => some (String.ofList (escape escapedInFragment rest))
    | _ => none
  { url with path := read path, query, fragment }

/-- The path of a URL that has a host. -/
def pathOf (kind : SchemeKind) (cs : List Char) : Path :=
  if kind = .other ∧ cs.isEmpty then .segments []
  else .segments ((readPath kind cs).map String.ofList)

/-- Reads a URL behind the slashes that its host stands behind. -/
def readWithHost (kind : SchemeKind) (scheme : String) (cs : List Char) : Except UrlError Url := do
  let text := cs.takeWhile (!kind.endsAuthority ·)
  let behind := cs.dropWhile (!kind.endsAuthority ·)
  if text = ['@'] ∧ !behind.isEmpty then
    .error .emptyHost
  let authority ← readAuthority kind scheme text
  let url : Url := {
    scheme
    username := String.ofList authority.username
    password := String.ofList authority.password
    host := authority.host
    port := authority.port
    path := .segments [] }
  .ok (finish url kind (authority.rest ++ behind) (pathOf kind))

/-- The host of a file. The machine itself needs no name. -/
def fileHost (cs : List Char) : Except UrlError (Option Host) := do
  if cs.isEmpty then .ok none
  else
    let host ← Host.ofWeb cs
    .ok (if host = .name "localhost" then none else some host)

/-- Reads the host of a file, and keeps what stands behind it. What names a drive is no host. -/
def readFileHost (cs : List Char) : Except UrlError (Option Host × List Char) :=
  let kind := SchemeKind.file
  match cs with
  | a :: b :: behind =>
    if kind.isSlash a && kind.isSlash b then
      let name := behind.takeWhile (!kind.endsAuthority ·)
      if isDrive name then .ok (none, behind)
      else (fileHost name).map fun host => (host, behind.dropWhile (!kind.endsAuthority ·))
    else .ok (none, cs)
  | _ => .ok (none, cs)

/-- Reads the URL of a file behind the scheme. A path that begins with a drive leads to a file of
the machine itself. -/
def readFile (cs : List Char) : Except UrlError Url := do
  let (host, rest) ← readFileHost cs
  let kind := SchemeKind.file
  let url := finish { scheme := "file", path := .segments [] } kind rest (pathOf kind)
  match url.path with
  | .segments (first :: _) =>
    .ok { url with host := if isDrive first.toList then none else host }
  | _ => .ok { url with host }

/-- Reads a URL of a scheme that is not of the web, behind the scheme. -/
def readOther (scheme : String) (cs : List Char) : Except UrlError Url :=
  let url : Url := { scheme, path := .segments [] }
  match cs with
  | '/' :: '/' :: rest => readWithHost .other scheme rest
  | '/' :: _ => .ok (finish url .other cs (pathOf .other))
  | _ =>
    .ok (finish url .other cs fun path => .bare (String.ofList (escape escapedInOpaque path)))

/-- Reads a URL. -/
def ofText (text : String) : Except UrlError Url :=
  match scheme? (significant text.toList) with
  | none => .error .noScheme
  | some (scheme, rest) =>
    match SchemeKind.ofScheme scheme with
    | .web => readWithHost .web scheme (rest.dropWhile SchemeKind.web.isSlash)
    | .file => readFile rest
    | .other => readOther scheme rest

end FeedReader.Url
