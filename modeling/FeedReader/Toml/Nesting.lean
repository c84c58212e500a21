import FeedReader.Toml.Entry
import FeedReader.Toml.Scalar
import FeedReader.Toml.Token

/-!
# TOML values from tokens

The second stage of reading a TOML text: the tokens behind an equals sign as a value. A value is
read with a stack of the arrays and tables in braces that it lies in, so that **one pass over the
tokens suffices**. An array may go over several lines and may have a comma behind its last item.
A table in braces may do neither. Arrays and tables are nested only so deep.
-/

namespace FeedReader.Toml

/-- The number of arrays and tables around a value, and of parts of a key, that is too great. -/
def depthLimit : Nat := 80

/-! ### Keys -/

/-- A part of a key, or a point between two parts. -/
inductive KeyPart
  | name (text : String)
  | point
deriving DecidableEq, Repr

/-- The parts that a word of a key consists of. -/
def keyParts (word : List Char) : List KeyPart :=
  match word with
  | [] => []
  | c :: cs =>
    if c = '.' then .point :: keyParts cs
    else
      match keyParts cs with
      | .name text :: parts => .name (String.ofList (c :: text.toList)) :: parts
      | parts => .name (String.singleton c) :: parts

/-- The parts that a token of a key consists of. -/
def Token.keyParts? : Token → Option (List KeyPart)
  | .blank => some []
  | .word chars =>
    if chars.all fun c => isKeyChar c || c == '.' then some (keyParts chars) else none
  | .string text false => some [.name text]
  | _ => none

/-- The names of a key, with a point between any two. -/
def namesOfParts? : List KeyPart → Option (List String)
  | [.name text] => some [text]
  | .name text :: .point :: rest => (namesOfParts? rest).map (text :: ·)
  | _ => none

/-- The names of the key that these tokens spell. -/
def key? (tokens : List Token) : Option (List String) := do
  let names ← namesOfParts? (← tokens.mapM Token.keyParts?).flatten
  if names.length < depthLimit then pure names else none

/-! ### Values -/

/-- An array or table of which a part has been read. -/
inductive Frame
  /-- The items are in reverse. -/
  | array (items : List Value)
  /-- The names are the key of the entry whose value comes next. -/
  | table (entries : Entries) (names : List String)
deriving Repr

/-- What may come next while a value is read. -/
inductive Expecting
  | value
  /-- An item of an array, or its end. -/
  | item (items : List Value)
  /-- A comma or the end of an array. -/
  | itemEnd (items : List Value)
  /-- More of a key and an equals sign. The tokens of the key are in reverse. At the beginning of a
  table its end may come instead. -/
  | key (entries : Entries) (tokens : List Token) (mayClose : Bool)
  /-- A comma or the end of a table. -/
  | entryEnd (entries : Entries)
  /-- Nothing but blanks. -/
  | nothing (read : Value)
deriving Repr

/-- What to expect behind a value. -/
def Expecting.behind? (stack : List Frame) (read : Value) : Option (Expecting × List Frame) :=
  match stack with
  | [] => some (nothing read, [])
  | .array items :: outer => some (itemEnd (read :: items), outer)
  | .table entries names :: outer => do
    pure (entryEnd (← Entries.insert? true read names entries), outer)

/-- What to expect behind the first token of a value. An array that has been opened is put on the
stack with its next item, and a table with its next key, so the brackets that are open are those on
the stack and the one of which an end may come. -/
def Expecting.begin? (stack : List Frame) (token : Token) : Option (Expecting × List Frame) :=
  match token with
  | .openBracket => if stack.length + 1 < depthLimit then some (item [], stack) else none
  | .openBrace => if stack.length + 1 < depthLimit then some (key [] [] true, stack) else none
  | .word chars => (Value.ofWord? chars).bind (behind? stack)
  | .string text _ => behind? stack (.string text)
  | _ => none

/-- Reads one token. -/
def Expecting.step? (stack : List Frame) (token : Token) :
    Expecting → Option (Expecting × List Frame)
  | value =>
    match token with
    | .blank => some (value, stack)
    | token => begin? stack token
  | item items =>
    match token with
    | .blank | .lineEnd => some (item items, stack)
    | .closeBracket => behind? stack (.array items.reverse)
    | token => begin? (.array items :: stack) token
  | itemEnd items =>
    match token with
    | .blank | .lineEnd => some (itemEnd items, stack)
    | .comma => some (item items, stack)
    | .closeBracket => behind? stack (.array items.reverse)
    | _ => none
  | key entries tokens mayClose =>
    match token with
    | .closeBrace =>
      if mayClose && tokens.all (· == .blank) then behind? stack (.table .braces entries) else none
    | .equals => do pure (value, .table entries (← key? tokens.reverse) :: stack)
    | token => some (key entries (token :: tokens) mayClose, stack)
  | entryEnd entries =>
    match token with
    | .blank => some (entryEnd entries, stack)
    | .comma => some (key entries [] false, stack)
    | .closeBrace => behind? stack (.table .braces entries)
    | _ => none
  | nothing read =>
    match token with
    | .blank => some (nothing read, stack)
    | _ => none

/-- Reads all tokens, to the end of the outermost value. -/
def Expecting.run? : Expecting → List Frame → List Token → Option Value
  | nothing read, _, [] => some read
  | _, _, [] => none
  | expecting, stack, token :: tokens =>
    match expecting.step? stack token with
    | none => none
    | some (next, stack) => next.run? stack tokens

/-- The value that these tokens spell. -/
def Value.ofTokens? (tokens : List Token) : Option Value := Expecting.value.run? [] tokens

end FeedReader.Toml
