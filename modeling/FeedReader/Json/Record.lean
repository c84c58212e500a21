import FeedReader.Json.Value
import FeedReader.Text.Numeral

/-!
# Records in JSON

A *record* has named fields in a fixed order. In JSON it is written as an object, whose
members may come in any order and may include members of other names; or as an array that
gives the fields in their order and may leave out the last ones.

**A field that is given twice is an error, and so is a member whose name is not text**; a
member of an unknown name is skipped. What an absent field means is decided by the reader of
the field: `required` refuses it, `withDefault` fills it in. An `optional` field may be left
out of an object but not out of an array.
-/

namespace FeedReader.Json

/-- A field of a record as it was found. -/
inductive Field
  | given (value : Value)
  /-- An object has no member of this name. -/
  | unnamed
  /-- An array has ended before this field. -/
  | cutOff
deriving Repr

/-- The field of this name among the members of an object, unless the name occurs twice. -/
def field? (name : String) (members : List (StringToken × Value)) : Option Field :=
  match members.filter (fun m => m.1 == some name) with
  | [] => some .unnamed
  | [(_, v)] => some (.given v)
  | _ => none

/-- The fields that an array gives, for the names of a record in order. -/
def arrayFields? : List String → List Value → Option (List Field)
  | [], [] => some []
  | [], _ :: _ => none
  | _ :: names, [] => (arrayFields? names []).map (.cutOff :: ·)
  | _ :: names, v :: vs => (arrayFields? names vs).map (.given v :: ·)

/-- The fields of a record, for its names in order. -/
def Value.fields? (names : List String) : Value → Option (List Field)
  | object members =>
    if members.all (fun m => m.1.isSome) then names.mapM (field? · members) else none
  | array items => arrayFields? names items
  | _ => none

namespace Field

def required {α : Type} (read : Value → Option α) : Field → Option α
  | given v => read v
  | unnamed | cutOff => none

def withDefault {α : Type} (default : α) (read : Value → Option α) : Field → Option α
  | given v => read v
  | unnamed | cutOff => some default

/-- A field that may be absent from an object, or be null. -/
def optional {α : Type} (read : Value → Option α) : Field → Option (Option α)
  | given .null => some none
  | given v => (read v).map some
  | unnamed => some none
  | cutOff => none

/-- A field that may be absent or null anywhere. -/
def optionalWithDefault {α : Type} (read : Value → Option α) : Field → Option (Option α)
  | given .null => some none
  | given v => (read v).map some
  | unnamed | cutOff => some none

end Field

namespace Value

def text? : Value → Option String
  | string s => s
  | _ => none

def bool? : Value → Option Bool
  | bool b => some b
  | _ => none

/-- An integer of 64 bits with a sign. -/
def int64? : Value → Option Int
  | int n => if isInt64 n then some n else none
  | _ => none

def list? {α : Type} (read : Value → Option α) : Value → Option (List α)
  | array items => items.mapM read
  | _ => none

end Value

end FeedReader.Json
