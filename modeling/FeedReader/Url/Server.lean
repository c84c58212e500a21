import FeedReader.Url.Reading

/-!
# The URL of the server

Whoever sees the requests of the reader sees the session of the user. The server is therefore
asked through an **encrypted** connection, or on the machine itself, where nobody can listen.
Whether a host is the machine itself is told by its text, which names an address in one way only.
-/

namespace FeedReader

/-- Why a text is not the URL of a server. -/
inductive ServerUrlError
  | invalid (cause : UrlError)
  | missingHost
  /-- The scheme is not one of the two that pages are fetched with. -/
  | unsupportedScheme (scheme : String)
  /-- The connection is not encrypted. -/
  | insecure
deriving DecidableEq, Repr

/-- What the user is told. -/
def ServerUrlError.message : ServerUrlError → String
  | invalid cause => s!"Invalid URL: {cause.message}"
  | missingHost => "URL has no host"
  | unsupportedScheme scheme => s!"Unsupported scheme: {scheme} (only http/https allowed)"
  | insecure => "Insecure server URL: HTTPS required (except localhost for testing)"

namespace Url

/-- The text of a host without the brackets around an address. -/
def withoutBrackets (host : List Char) : List Char :=
  match host, host.getLast? with
  | '[' :: rest, some ']' => rest.dropLast
  | _, _ => host

/-- Whether the text of a host names the machine itself. -/
def isLoopbackText (host : List Char) : Bool :=
  if host = "localhost".toList then true
  else
    let address := withoutBrackets host
    match Ipv4.ofBytesText? address with
    | some a => a.isLoopback
    | none =>
      match Ipv6.ofText? address with
      | some a => a.isLoopback
      | none => false

/-- The URL of the server that a text stands for. -/
def server (text : String) : Except ServerUrlError Url :=
  match ofText text with
  | .error cause => .error (.invalid cause)
  | .ok url =>
    match url.host with
    | none => .error .missingHost
    | some host =>
      if url.scheme = "https" then .ok url
      else if url.scheme = "http" then
        if isLoopbackText host.text then .ok url else .error .insecure
      else .error (.unsupportedScheme url.scheme)

end Url

end FeedReader
