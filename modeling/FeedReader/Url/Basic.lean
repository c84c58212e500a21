import FeedReader.Text.Split
import FeedReader.Url.Host

/-!
# URLs

A URL in its parts. The parts are in the form in which they stand in the URL, with the characters
escaped that they cannot hold, so **the text of a URL is its parts with their marks between**.
-/

namespace FeedReader

/-- What a URL leads to on its host. -/
inductive Url.Path
  /-- Names with slashes before them. -/
  | segments (names : List String)
  /-- A text in which slashes mean nothing. -/
  | bare (text : String)
deriving DecidableEq, Repr

/-- A URL. -/
structure Url where
  scheme : String
  username : String := ""
  password : String := ""
  host : Option Url.Host := none
  /-- The port, if it is not the standard one of the scheme. -/
  port : Option Nat := none
  path : Url.Path
  query : Option String := none
  fragment : Option String := none
deriving DecidableEq, Repr

namespace Url

def Path.text : Path → String
  | segments names => String.join (names.map ("/" ++ ·))
  | bare text => text

/-- The user with the mark behind it. -/
def userText (url : Url) : String :=
  if url.username = "" ∧ url.password = "" then ""
  else if url.password = "" then url.username ++ "@"
  else url.username ++ ":" ++ url.password ++ "@"

/-- Host, user and port with the marks before them. -/
def authorityText (url : Url) : String :=
  match url.host with
  | none => ""
  | some host =>
    let port := match url.port with
      | none => ""
      | some n => ":" ++ toString n
    "//" ++ url.userText ++ String.ofList host.text ++ port

/-- A part of a URL with its mark before it. -/
def marked (mark : String) : Option String → String
  | none => ""
  | some text => mark ++ text

/-- The whole URL in writing. -/
def text (url : Url) : String :=
  url.scheme ++ ":" ++ url.authorityText ++ url.path.text ++ marked "?" url.query ++
    marked "#" url.fragment

end Url

end FeedReader
