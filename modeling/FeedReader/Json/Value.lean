import FeedReader.Json.Token

/-!
# JSON values

The second stage of reading a JSON text: its tokens as a tree. A value is read with a stack
of the arrays and objects that it lies in, so that **one pass over the tokens suffices**
whatever the depth of the nesting. An object keeps its members in order and keeps repeated
names, so that whoever reads the tree can refuse them.
-/

namespace FeedReader.Json

/-- A JSON value. -/
inductive Value
  | null
  | bool (value : Bool)
  /-- A number written without fraction and exponent, other than a zero with a minus sign. -/
  | int (value : Int)
  /-- Any other number. -/
  | otherNumber
  | string (value : StringToken)
  | array (items : List Value)
  | object (members : List (StringToken × Value))
deriving Repr

/-- An array or object of which a part has been read, the latest item first. -/
inductive Frame
  | array (items : List Value)
  | object (members : List (StringToken × Value)) (name : StringToken)
deriving Repr

/-- What may come next while a value is read. -/
inductive Expecting
  | value
  /-- A value, or the end of the array that has just been opened. -/
  | valueOrClose
  /-- The name of a member. -/
  | name (members : List (StringToken × Value))
  /-- The name of a member, or the end of the object that has just been opened. -/
  | nameOrClose
  | colon (members : List (StringToken × Value)) (name : StringToken)
  /-- A comma or an end, after a complete value. -/
  | separator (read : Value)
deriving Repr

/-- The value that a token is by itself. -/
def Token.scalar? : Token → Option Value
  | .null => some .null
  | .bool b => some (.bool b)
  | .int n => some (.int n)
  | .otherNumber => some .otherNumber
  | .string s => some (.string s)
  | _ => none

/-- What to expect after the first token of a value, and the stack then. -/
def Expecting.begin? (stack : List Frame) (token : Token) : Option (Expecting × List Frame) :=
  match token with
  | .openArray => some (valueOrClose, stack)
  | .openObject => some (nameOrClose, stack)
  | token => token.scalar?.map fun v => (separator v, stack)

/-- Reads one token. An array that has just been opened is pushed on the stack with its first
item, so `valueOrClose` and `nameOrClose` speak of a structure that is not on the stack yet. -/
def Expecting.step? (stack : List Frame) (token : Token) :
    Expecting → Option (Expecting × List Frame)
  | value => begin? stack token
  | valueOrClose =>
    match token with
    | .closeArray => some (separator (.array []), stack)
    | token => begin? (.array [] :: stack) token
  | name members =>
    match token with
    | .string s => some (colon members s, stack)
    | _ => none
  | nameOrClose =>
    match token with
    | .closeObject => some (separator (.object []), stack)
    | .string s => some (colon [] s, stack)
    | _ => none
  | colon members s =>
    match token with
    | .colon => some (value, .object members s :: stack)
    | _ => none
  | separator v =>
    match stack, token with
    | .array items :: outer, .comma => some (value, .array (v :: items) :: outer)
    | .array items :: outer, .closeArray => some (separator (.array (v :: items).reverse), outer)
    | .object members s :: outer, .comma => some (name ((s, v) :: members), outer)
    | .object members s :: outer, .closeObject =>
      some (separator (.object ((s, v) :: members).reverse), outer)
    | _, _ => none

/-- Reads all tokens, to the end of the outermost value. -/
def Expecting.run? : Expecting → List Frame → List Token → Option Value
  | separator v, [], [] => some v
  | _, _, [] => none
  | expecting, stack, token :: tokens =>
    match expecting.step? stack token with
    | none => none
    | some (next, stack) => next.run? stack tokens

/-- The value that these tokens spell. -/
def Value.ofTokens? (tokens : List Token) : Option Value := Expecting.value.run? [] tokens

/-- The value that a JSON text spells. -/
def Value.ofBytes? (bs : List UInt8) : Option Value := (tokens? bs).bind ofTokens?

end FeedReader.Json
