import FeedReader.Url.Reading

/-!
# References

A reference is a text that is read beside a URL, its base, and leaves out what both have in common.
**What it says replaces that part of the base and all that stands behind**, except that a path
without a slash before it begins in the directory that the base lies in.

All bases here are URLs of the web.
-/

namespace FeedReader.Url

/-- The names of the directory that a URL lies in. -/
def directory (url : Url) : List String :=
  match url.path with
  | .segments names => names.dropLast
  | .bare _ => []

/-- Where a path leads from a directory. -/
def pathIn (directory : List String) (cs : List Char) : Path :=
  let before := (directory.map String.toList).reverse
  .segments ((resolve .web before (Text.split SchemeKind.web.isSlash cs)).map String.ofList)

/-- Reads a reference that has no scheme, or the one of the base. -/
def readReference (base : Url) (cs : List Char) : Except UrlError Url :=
  let kind := SchemeKind.web
  match cs with
  | [] | '#' :: _ => .ok { finish base kind cs (fun _ => base.path) with query := base.query }
  | '?' :: _ => .ok (finish base kind cs fun _ => base.path)
  | c :: rest =>
    if !kind.isSlash c then .ok (finish base kind cs (pathIn base.directory))
    else if rest.head?.any kind.isSlash then
      readWithHost kind base.scheme (rest.dropWhile kind.isSlash)
    else .ok (finish base kind cs (pathOf kind))

/-- Whether a text begins with two slashes. -/
def leadsToHost (cs : List Char) : Bool :=
  match cs with
  | a :: b :: _ => SchemeKind.web.isSlash a && SchemeKind.web.isSlash b
  | _ => false

/-- The URL that a reference stands for beside a base. -/
def join (base : Url) (reference : String) : Except UrlError Url :=
  let cs := significant reference.toList
  match scheme? cs with
  | none => readReference base cs
  | some (scheme, rest) =>
    -- the scheme of the base may be repeated before what is no more than a path
    if scheme = base.scheme ∧ !leadsToHost rest then readReference base rest
    else ofText reference

/-- The URL with another path. The path does not end at a question mark or at a hash sign. -/
def withPath (url : Url) (path : List Char) : Url :=
  { url with path := pathOf .web (path.filter (!isIgnored ·)) }

end FeedReader.Url
