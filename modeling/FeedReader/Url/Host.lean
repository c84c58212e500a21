import FeedReader.Url.Domain
import FeedReader.Url.Ipv6
import FeedReader.Url.Percent

/-!
# Hosts

The host of a URL is a name or an address. How it is read depends on the scheme: the schemes of the
web take **names in the form in which they are looked up**, and take a name that ends in a number
for an address of four bytes. Other schemes take any text that does not end the host early.
-/

namespace FeedReader

/-- Why a text is no URL. -/
inductive UrlError
  | emptyHost
  /-- The host is no name that can be looked up. -/
  | invalidName
  | invalidPort
  | invalidIpv4
  | invalidIpv6
  /-- The host has a character that would end it. -/
  | invalidHostCharacter
  /-- The text does not begin with a scheme. -/
  | noScheme
deriving DecidableEq, Repr

/-- What the user is told. -/
def UrlError.message : UrlError → String
  | emptyHost => "empty host"
  | invalidName => "invalid international domain name"
  | invalidPort => "invalid port number"
  | invalidIpv4 => "invalid IPv4 address"
  | invalidIpv6 => "invalid IPv6 address"
  | invalidHostCharacter => "invalid domain character"
  | noScheme => "relative URL without a base"

namespace Url

/-- The host of a URL. -/
inductive Host
  | name (text : String)
  | ipv4 (address : Ipv4)
  | ipv6 (address : Ipv6)
deriving DecidableEq, Repr

namespace Host

/-- The host as it stands in a URL. -/
def text : Host → List Char
  | name text => text.toList
  | ipv4 address => address.text
  | ipv6 address => '[' :: address.text ++ [']']

/-- The text between brackets, if the text begins with a bracket. The closing bracket has to be
there. -/
def bracketed? : List Char → Option (Except UrlError (List Char))
  | '[' :: rest =>
    match rest.reverse with
    | ']' :: inner => some (.ok inner.reverse)
    | _ => some (.error .invalidIpv6)
  | _ => none

/-- The address between brackets. -/
def ofBrackets (inner : Except UrlError (List Char)) : Except UrlError Host := do
  match Ipv6.ofText? (← inner) with
  | some address => .ok (.ipv6 address)
  | none => .error .invalidIpv6

/-- The host of a URL whose scheme is one of the web. -/
def ofWeb (cs : List Char) : Except UrlError Host :=
  match bracketed? cs with
  | some inner => ofBrackets inner
  | none =>
    match Domain.ofBytes? (unescape (cs.flatMap String.utf8EncodeChar)) with
    | none => .error .invalidName
    | some [] => .error .emptyHost
    | some domain =>
      if Ipv4.endsInNumber domain then
        match Ipv4.ofHost? domain with
        | some address => .ok (.ipv4 address)
        | none => .error .invalidIpv4
      else .ok (.name (String.ofList domain))

/-- The characters that would end a host. -/
def endsHost (c : Char) : Bool := "\x00\t\n\r #/:<>?@[\\]^|".toList.contains c

/-- The host of a URL of another scheme. -/
def ofOther (cs : List Char) : Except UrlError Host :=
  match bracketed? cs with
  | some inner => ofBrackets inner
  | none =>
    if cs.any endsHost then .error .invalidHostCharacter
    else .ok (.name (String.ofList (escape escapedInOpaque cs)))

end Host

end Url

end FeedReader
