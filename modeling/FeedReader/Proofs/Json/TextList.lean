import FeedReader.Proofs.Json.Record
import FeedReader.Proofs.Json.Spelling.Value

/-!
# A list of texts survives being written as JSON

The cache keeps the pictures of a story as one text, so nothing may be lost between writing
a list of texts and reading it again. **Reading gives back every list that was written**
(`FeedReader.Json.textList?_ofTextList`), whatever characters its texts have: what is written is one
of the spellings of the array of the texts, and every spelling is read as what it spells.
-/

namespace FeedReader

namespace Json

theorem intercalate_cons {α : Type} (sep first : List α) (rest : List (List α)) :
    sep.intercalate (first :: rest) = first ++ rest.flatMap fun l => sep ++ l := by
  induction rest generalizing first with
  | nil => simp [List.intercalate]
  | cons second rest ih =>
    have h := ih second
    simp only [List.intercalate] at h ⊢
    simp [h]

/-- What is written behind an item of an array of texts. -/
theorem plain_laterItems (texts : List String) :
    (laterItems (texts.map fun s => .string (some s))).flatMap Token.plain =
      (texts.flatMap fun s => ',' :: quote s) ++ [']'] := by
  induction texts with
  | nil => rfl
  | cons s texts ih =>
    simp only [List.map_cons, laterItems, Value.tokens, List.singleton_append,
      List.flatMap_cons, ih]
    simp [Token.plain]

/-- **What is written for some texts is a spelling of their array.** -/
theorem spelling_ofTextList (texts : List String) :
    (Value.array (texts.map fun s => .string (some s))).Spelling (ofTextList texts) := by
  have hwritten : '[' :: [','].intercalate (texts.map quote) ++ [']'] =
      (Value.array (texts.map fun s => .string (some s))).tokens.flatMap Token.plain := by
    cases texts with
    | nil => rfl
    | cons s texts =>
      simp only [List.map_cons, Value.tokens, List.singleton_append, List.flatMap_cons,
        plain_laterItems, intercalate_cons, List.flatMap_map]
      simp [Token.plain]
  rw [Value.Spelling, ofTextList, String.toList_ofList, hwritten]
  exact tokensSpelling_plain _

/-- **A list of texts that is written as JSON is read again as it was.** -/
theorem textList?_ofTextList (texts : List String) : textList? (ofTextList texts) = some texts := by
  rw [textList?, (spelling_ofTextList texts).ofBytes?, Option.bind_some]
  exact IsTextList.read rfl

end Json

end FeedReader
