import FeedReader.Proofs.Url.Percent
import FeedReader.Text.Split
import FeedReader.Url.Percent

/-!
# A form survives being sent

A form is read as a server reads it: it is cut at the marks between its pairs, each pair at the
first mark behind a name, and then plus signs are spaces and percent signs are bytes. **Every form
that is written is read again as it was** (`FeedReader.Url.readForm?_form`), whatever characters its
names and values have.

What makes it work is that no mark is left in a name or a value that has been written
(`FeedReader.Url.ne_marks_of_mem_formText`), so that the cuts are where they were meant to be, and
that a plus sign can only come from a space. A name or a value is then read character by character,
and a character as the bytes that it was written as (`FeedReader.Url.unescape_formChar`).
-/

namespace FeedReader

namespace Url

/-! ### Reading -/

/-- The text of a name or a value in a form. -/
def readFormText? (cs : List Char) : Option String :=
  let spaced := cs.map fun c => if c = '+' then ' ' else c
  Text.ofBytes? (unescape (spaced.flatMap String.utf8EncodeChar))

/-- A pair of a form. Without a mark between them there is a name and no value. -/
def readFormPair? (cs : List Char) : Option (String × String) := do
  let name ← readFormText? (cs.takeWhile (· != '='))
  let value ← readFormText? ((cs.dropWhile (· != '=')).drop 1)
  pure (name, value)

/-- The pairs of a form, if all of them are texts. -/
def readForm? (form : String) : Option (List (String × String)) :=
  ((Text.split (· == '&') form.toList).filter (!·.isEmpty)).mapM readFormPair?

/-! ### Names and values -/

/-- What a character is written with in a form. -/
def formChar (c : Char) : List Char :=
  if c = ' ' then ['+'] else escapeChar (!isPlainInForm ·) c

theorem formText_eq_flatMap (s : String) : formText s = s.toList.flatMap formChar := rfl

/-- **No mark of a form is left in a name or a value**, except for the plus signs. -/
theorem ne_marks_of_mem_formText {s : String} {c : Char} (h : c ∈ formText s) :
    c ≠ '&' ∧ c ≠ '=' := by
  obtain ⟨d, -, hc⟩ := List.mem_flatMap.mp h
  have hmarks : ∀ c ∈ escapeMarks, c ≠ '&' ∧ c ≠ '=' :=
    forall_of_all (by decide)
  split at hc
  · rw [List.mem_singleton.mp hc]
    decide
  · rcases mem_escapeChar hc with hmark | ⟨rfl, -, -, hplain⟩
    · exact hmarks c hmark
    · refine ⟨?_, ?_⟩ <;> rintro rfl <;> revert hplain <;> decide

/-- The plus sign that a space was written as is a space again. -/
theorem spaced_formChar (c : Char) :
    ((formChar c).map fun d => if d = '+' then ' ' else d) =
      if c = ' ' then [' '] else formChar c := by
  have hmarks : ∀ d ∈ escapeMarks, d ≠ '+' :=
    forall_of_all (by decide)
  by_cases hspace : c = ' '
  · rw [formChar, if_pos hspace, if_pos hspace]
    rfl
  · rw [if_neg hspace, formChar, if_neg hspace]
    have hsame : ∀ d ∈ escapeChar (!isPlainInForm ·) c, (if d = '+' then ' ' else d) = id d := by
      intro d hd
      refine if_neg ?_
      rcases mem_escapeChar hd with hmark | ⟨rfl, -, -, hplain⟩
      · exact hmarks d hmark
      · rintro rfl
        revert hplain
        decide
    rw [List.map_congr_left hsame, List.map_id]

/-- **A character of a name or a value is read as its bytes.** -/
theorem unescape_formChar (c : Char) (rest : List UInt8) :
    unescape (((formChar c).map fun d => if d = '+' then ' ' else d).flatMap
        String.utf8EncodeChar ++ rest) = String.utf8EncodeChar c ++ unescape rest := by
  rw [spaced_formChar]
  by_cases hspace : c = ' '
  · rw [if_pos hspace, hspace, List.flatMap_singleton]
    exact unescape_ascii (by decide) (by decide) rest
  · rw [if_neg hspace, formChar, if_neg hspace]
    rcases escapeChar_cases (!isPlainInForm ·) c with ⟨heq, -, hascii, hplain⟩ | ⟨heq, -⟩
    · rw [heq, List.flatMap_singleton]
      refine unescape_ascii (by omega) ?_ rest
      rintro rfl
      revert hplain
      decide
    · rw [heq]
      exact unescape_escapedBytes _ rest

theorem readFormText?_formText (s : String) : readFormText? (formText s) = some s := by
  have hread : ∀ cs : List Char,
      unescape (((cs.flatMap formChar).map fun d => if d = '+' then ' ' else d).flatMap
        String.utf8EncodeChar) = cs.flatMap String.utf8EncodeChar := by
    intro cs
    induction cs with
    | nil => rfl
    | cons c cs ih =>
      rw [List.flatMap_cons, List.map_append, List.flatMap_append, unescape_formChar, ih,
        List.flatMap_cons]
  rw [readFormText?, formText_eq_flatMap, hread]
  exact Text.ofBytes?_bytes s

/-! ### Pairs -/

theorem readFormPair?_formPair (pair : String × String) :
    readFormPair? (formPair pair) = some pair := by
  have hname : ∀ c ∈ formText pair.1, (c != '=') = true := fun c hc =>
    bne_iff_ne.mpr (ne_marks_of_mem_formText hc).2
  have htake : (formPair pair).takeWhile (· != '=') = formText pair.1 := by
    rw [formPair, List.takeWhile_append_of_pos hname]
    simp
  have hdrop : ((formPair pair).dropWhile (· != '=')).drop 1 = formText pair.2 := by
    rw [formPair, List.dropWhile_append_of_pos hname]
    simp
  rw [readFormPair?, htake, hdrop, readFormText?_formText, readFormText?_formText]
  rfl

theorem split_form (pairs : List (String × String)) :
    (Text.split (· == '&') (form pairs).toList).filter (!·.isEmpty) = pairs.map formPair := by
  rw [form, String.toList_ofList]
  have hmark : ∀ p ∈ pairs.map formPair, ∀ c ∈ p, (c == '&') = false := by
    intro p hp c hc
    obtain ⟨pair, -, rfl⟩ := List.mem_map.mp hp
    rw [beq_eq_false_iff_ne]
    rcases List.mem_append.mp hc with hc | hc
    · exact (ne_marks_of_mem_formText hc).1
    · rcases List.mem_cons.mp hc with rfl | hc
      · decide
      · exact (ne_marks_of_mem_formText hc).1
  have hfull : ∀ p ∈ pairs.map formPair, (!p.isEmpty) = true := by
    intro p hp
    obtain ⟨pair, -, rfl⟩ := List.mem_map.mp hp
    simp [formPair]
  cases hparts : pairs.map formPair with
  | nil => rfl
  | cons first parts =>
    rw [hparts] at hmark hfull
    have hmarked : ['&'].intercalate (first :: parts) = first ++ parts.flatMap ('&' :: ·) :=
      Json.intercalate_cons ['&'] first parts
    rw [hmarked, Text.split_flatMap rfl hmark, List.filter_eq_self.mpr hfull]

/-- **A form is read as it was written.** -/
theorem readForm?_form (pairs : List (String × String)) : readForm? (form pairs) = some pairs := by
  rw [readForm?, split_form]
  induction pairs with
  | nil => rfl
  | cons pair pairs ih => simp [readFormPair?_formPair, ih]

end Url

end FeedReader
