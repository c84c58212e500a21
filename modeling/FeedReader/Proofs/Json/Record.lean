import FeedReader.Json.Record
import FeedReader.Proofs.Text.Integer

/-!
# The fields of an object

An object that is read as a record may name the fields in any order, and may have members of other
names among them. What counts is that no field is named twice and that every name is text. **Then
each field is the member of its name**, or is absent
(`FeedReader.Json.IsRecord.fields?`).
-/

namespace FeedReader

namespace Json

/-! ### Members -/

/-- The member of this name, if there is one. -/
def member? (name : String) (members : List (StringToken × Value)) : Option Value :=
  (members.find? fun member => member.1 == some name).map Prod.snd

/-- The members of an object that gives a record with these names: no field is given twice. -/
structure IsRecord (names : List String) (members : List (StringToken × Value)) : Prop where
  named : ∀ member ∈ members, member.1.isSome = true
  once : ∀ name ∈ names, (members.map Prod.fst).count (some name) ≤ 1

/-- The field for the member of its name. -/
def Field.ofMember : Option Value → Field
  | some v => .given v
  | none => .unnamed

theorem field?_of_count {name : String} {members : List (StringToken × Value)}
    (h : (members.map Prod.fst).count (some name) ≤ 1) :
    field? name members = some (.ofMember (member? name members)) := by
  rw [List.count, List.countP_map, List.countP_eq_length_filter] at h
  change (members.filter fun member => member.1 == some name).length ≤ 1 at h
  rw [field?, member?, ← List.head?_filter]
  generalize members.filter (fun member => member.1 == some name) = found at h ⊢
  match found with
  | [] | [_] => rfl
  | _ :: _ :: _ => simp at h

/-- **The fields of a record are the members of their names.** -/
theorem IsRecord.fields? {names : List String} {members : List (StringToken × Value)}
    (h : IsRecord names members) :
    (Value.object members).fields? names =
      some (names.map fun name => .ofMember (member? name members)) := by
  rw [Value.fields?, if_pos (List.all_eq_true.mpr h.named)]
  exact mapM_of_forall fun name hname => field?_of_count (h.once name hname)

/-! ### Fields -/

/-- How a member is given that must be there. -/
inductive Required {α : Type} (Gives : α → Value → Prop) : α → Option Value → Prop
  | given {a : α} {v : Value} (h : Gives a v) : Required Gives a (some v)

/-- How a member is given that has a default: it may be left out. -/
inductive WithDefault {α : Type} (default : α) (Gives : α → Value → Prop) : α → Option Value → Prop
  | leftOut : WithDefault default Gives default none
  | given {a : α} {v : Value} (h : Gives a v) : WithDefault default Gives a (some v)

/-- How a member is given that need not have a value: it may be left out or null. -/
inductive Optionally {α : Type} (Gives : α → Value → Prop) : Option α → Option Value → Prop
  | leftOut : Optionally Gives none none
  | null : Optionally Gives none (some .null)
  | given {a : α} {v : Value} (h : Gives a v) : Optionally Gives (some a) (some v)

section Fields

variable {α : Type} {Gives : α → Value → Prop} {decode : Value → Option α}

theorem Required.read {a : α} {member : Option Value} (h : Required Gives a member)
    (hdecode : ∀ {a v}, Gives a v → decode v = some a) :
    (Field.ofMember member).required decode = some a := by
  obtain ⟨h⟩ := h
  exact hdecode h

theorem WithDefault.read {default a : α} {member : Option Value}
    (h : WithDefault default Gives a member) (hdecode : ∀ {a v}, Gives a v → decode v = some a) :
    (Field.ofMember member).withDefault default decode = some a := by
  cases h with
  | leftOut => rfl
  | given h => exact hdecode h

/-- Null stands for no value, so it must not be a value. -/
theorem Optionally.read {a : Option α} {member : Option Value} (h : Optionally Gives a member)
    (hdecode : ∀ {a v}, Gives a v → decode v = some a) (hnull : decode .null = none) :
    (Field.ofMember member).optional decode = some a ∧
      (Field.ofMember member).optionalWithDefault decode = some a := by
  cases h with
  | leftOut | null => exact ⟨rfl, rfl⟩
  | @given a v h =>
    have hsome := hdecode h
    cases v with
    | null =>
      rw [hnull] at hsome
      cases hsome
    | _ => exact ⟨congrArg (Option.map some) hsome, congrArg (Option.map some) hsome⟩

end Fields

/-! ### Values -/

/-- The value is this text. -/
def IsText (s : String) (v : Value) : Prop := v = .string (some s)

/-- The value is this list of texts. -/
def IsTextList (texts : List String) (v : Value) : Prop :=
  v = .array (texts.map fun s => .string (some s))

/-- The value is this integer, which fits a word. -/
def IsWord (n : Int) (v : Value) : Prop := v = .int n ∧ isInt64 n = true

theorem IsText.read {s : String} {v : Value} (h : IsText s v) : v.text? = some s := by
  rw [h]
  rfl

theorem IsTextList.read {texts : List String} {v : Value} (h : IsTextList texts v) :
    v.list? Value.text? = some texts := by
  rw [h, Value.list?, List.mapM_map]
  exact (mapM_of_forall fun _ _ => rfl).trans (congrArg some (List.map_id' texts))

theorem IsWord.read {n : Int} {v : Value} (h : IsWord n v) : v.int64? = some n := by
  rw [h.1, Value.int64?, if_pos h.2]

end Json

end FeedReader
