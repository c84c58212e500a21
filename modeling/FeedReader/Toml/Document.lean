import FeedReader.Toml.Nesting

/-!
# TOML documents

The last stage of reading a TOML text. The tokens are taken by **lines**, where a line goes on as
long as a bracket or brace is open. A line says one of three things: that a table is described
from here on, that one more table of a header is, or that a key has a value in the table that is
being described. It may also say nothing.
-/

namespace FeedReader.Toml

/-! ### Lines -/

/-- The number of brackets and braces that are open behind a token. -/
def Token.depthBehind (depth : Nat) : Token → Nat
  | .openBracket | .openBrace => depth + 1
  | .closeBracket | .closeBrace => depth - 1
  | _ => depth

/-- The lines of a text. The lines before, and the tokens of the line that is being read, are kept
in reverse. -/
def linesFrom (lines : List (List Token)) (line : List Token) (depth : Nat) :
    List Token → List (List Token)
  | [] => (line.reverse :: lines).reverse
  | token :: rest =>
    if token = .lineEnd ∧ depth = 0 then linesFrom (line.reverse :: lines) [] 0 rest
    else linesFrom lines (token :: line) (token.depthBehind depth) rest

/-- The lines that the tokens of a text make up. -/
def lines (tokens : List Token) : List (List Token) := linesFrom [] [] 0 tokens

/-- A line without the blanks at its ends. -/
def trimmed (line : List Token) : List Token :=
  ((line.dropWhile (· == .blank)).reverse.dropWhile (· == .blank)).reverse

/-- What a line says. -/
inductive Statement
  | nothing
  | header (key : List String)
  | nextHeader (key : List String)
  | entry (key : List String) (value : Value)
deriving Repr

/-- What a line in brackets says. -/
def headerStatement? (line : List Token) : Option Statement :=
  match line with
  | .openBracket :: .openBracket :: rest =>
    match rest.reverse with
    | .closeBracket :: .closeBracket :: inner => (key? inner.reverse).map .nextHeader
    | _ => none
  | .openBracket :: rest =>
    match rest.reverse with
    | .closeBracket :: inner => (key? inner.reverse).map .header
    | _ => none
  | _ => none

/-- What a line says. -/
def statement? (line : List Token) : Option Statement :=
  match trimmed line with
  | [] => some .nothing
  | .openBracket :: rest => headerStatement? (.openBracket :: rest)
  | tokens => do
    match tokens.dropWhile (· != .equals) with
    | _ :: value =>
      pure (.entry (← key? (tokens.takeWhile (· != .equals))) (← Value.ofTokens? value))
    | [] => none

/-! ### Documents -/

/-- What a document has described so far, and the path of the table that it describes now. -/
structure Document where
  entries : Entries := []
  current : List String := []

/-- Changes the table that the last name of a key stands for, in the table that the other names lead
to. -/
def Document.changeAt? (change : String → Entries → Option Entries) (key : List String)
    (doc : Document) : Option Document := do
  let entries ← Entries.within? (change (← key.getLast?)) key.dropLast doc.entries
  pure { entries, current := key }

/-- The document with one more statement. -/
def Document.add? (doc : Document) : Statement → Option Document
  | .nothing => some doc
  | .header key => doc.changeAt? Entries.define? key
  | .nextHeader key => doc.changeAt? Entries.defineNext? key
  | .entry key value => do
    pure { doc with
      entries := ← Entries.within? (Entries.insert? true value key) doc.current doc.entries }

/-- The table that a TOML text describes. -/
def ofText? (cs : List Char) : Option Entries := do
  let statements ← (lines (← tokens? cs)).mapM statement?
  let doc ← statements.foldlM Document.add? {}
  pure doc.entries

end FeedReader.Toml
