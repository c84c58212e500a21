import FeedReader.Text.Terminal
import Mathlib.Data.List.Infix

/-!
# What printing takes out

Printing a text takes characters out of it and leaves the others in order. Of the control characters
of ASCII only tabs and line feeds are left, and no escape character, so **what is printed can be
printed again and stays the same**. A text that has nothing to take out is printed as it is.

What is taken out is said by cutting the text into *segments*, which are single characters and
complete escape sequences. Whatever a sequence contains, nothing of it is printed, and behind it the
reader is in no sequence (`FeedReader.Text.Segment.read`), so that no text behind it is swallowed. A
text that begins with complete segments is therefore printed segment by segment
(`FeedReader.Text.printable_of_segments`).
-/

namespace FeedReader.Text

/-! ### What is left -/

/-- Printing only takes characters out. -/
theorem printableFrom_sublist (mode : EscapeMode) (cs : List Char) :
    (printableFrom mode cs).Sublist cs := by
  induction cs generalizing mode with
  | nil => exact .slnil
  | cons c cs ih =>
    rw [printableFrom]
    split
    · exact (ih _).cons_cons c
    · exact (ih _).cons c

theorem printable_sublist (cs : List Char) : (printable cs).Sublist cs :=
  printableFrom_sublist .plain cs

theorem EscapeMode.isPrintable_of_keeps {mode : EscapeMode} {c : Char} (h : mode.keeps c = true) :
    isPrintable c = true := by
  cases mode with
  | plain => exact h
  | escape => exact (Bool.and_eq_true_iff.mp h).2
  | control | command | commandEscape => cases h

theorem isPrintable_of_mem_printableFrom {mode : EscapeMode} {cs : List Char} {c : Char}
    (h : c ∈ printableFrom mode cs) : isPrintable c = true := by
  induction cs generalizing mode with
  | nil => cases h
  | cons d cs ih =>
    rw [printableFrom] at h
    split at h
    · next hkeeps =>
      rcases List.mem_cons.mp h with rfl | h
      · exact EscapeMode.isPrintable_of_keeps hkeeps
      · exact ih h
    · exact ih h

/-- **What is printed can be printed as it is.** -/
theorem isSafe_printable (cs : List Char) : isSafe (printable cs) = true :=
  List.all_eq_true.mpr fun _ => isPrintable_of_mem_printableFrom

/-- Only two control characters of ASCII can be printed. -/
theorem eq_tab_or_eq_lineFeed {c : Char} (hprintable : isPrintable c = true)
    (hcontrol : isControl c = true) : c = '\t' ∨ c = '\n' := by
  simpa [isPrintable, hcontrol] using hprintable

/-- The escape character cannot be printed. -/
theorem ne_escapeChar_of_isPrintable {c : Char} (h : isPrintable c = true) : c ≠ escapeChar := by
  rintro rfl
  exact absurd h (by decide)

theorem EscapeMode.start_of_ne {c : Char} (h : c ≠ escapeChar) : start c = plain := if_neg h

/-- A text is printed as it is if and only if all its characters can be printed. -/
theorem printable_eq_self_iff {cs : List Char} : printable cs = cs ↔ isSafe cs = true := by
  constructor
  · intro h
    rw [← h]
    exact isSafe_printable cs
  · intro h
    induction cs with
    | nil => rfl
    | cons c cs ih =>
      obtain ⟨hc, hcs⟩ := Bool.and_eq_true_iff.mp (show (isPrintable c && isSafe cs) = true from h)
      -- No sequence begins, so the reader goes on in no sequence.
      have hplain : EscapeMode.plain.next c = .plain :=
        EscapeMode.start_of_ne (ne_escapeChar_of_isPrintable hc)
      rw [printable, printableFrom, if_pos (show EscapeMode.plain.keeps c = true from hc), hplain]
      exact congrArg (c :: ·) (ih hcs)

/-! ### Reading on -/

/-- The mode behind a text. -/
def EscapeMode.after (mode : EscapeMode) (cs : List Char) : EscapeMode := cs.foldl next mode

theorem EscapeMode.after_cons (mode : EscapeMode) (c : Char) (cs : List Char) :
    mode.after (c :: cs) = (mode.next c).after cs := rfl

theorem EscapeMode.after_append (mode : EscapeMode) (as bs : List Char) :
    mode.after (as ++ bs) = (mode.after as).after bs := List.foldl_append

/-- What is printed of a text depends on the text before it only by the mode. -/
theorem printableFrom_append (mode : EscapeMode) (as bs : List Char) :
    printableFrom mode (as ++ bs) = printableFrom mode as ++ printableFrom (mode.after as) bs := by
  induction as generalizing mode with
  | nil => rfl
  | cons c cs ih =>
    rw [List.cons_append, printableFrom, printableFrom, EscapeMode.after_cons, ih]
    split
    · rw [List.cons_append]
    · rfl

/-! ### Segments -/

/-- What ends a sequence that began with `]`. -/
inductive CommandEnd
  | bell
  | backslash
deriving DecidableEq, Repr

def CommandEnd.text : CommandEnd → List Char
  | bell => [Text.bell]
  | backslash => [escapeChar, '\\']

/-- A segment of a text: a character or a complete escape sequence. -/
inductive Segment
  /-- A character that begins no sequence. -/
  | char (c : Char) (hchar : c ≠ escapeChar)
  /-- A sequence that began with `[`. -/
  | control (parameters : List Char) (final : Char)
      (hparameters : ∀ c ∈ parameters, isFinal c = false) (hfinal : isFinal final = true)
  /-- A sequence that began with `]`. -/
  | command (payload : List Char) (close : CommandEnd)
      (hbell : bell ∉ payload) (hbackslash : ¬[escapeChar, '\\'] <:+: payload)

namespace Segment

def text : Segment → List Char
  | char c _ => [c]
  | control parameters final _ _ => escapeChar :: '[' :: (parameters ++ [final])
  | command payload close _ _ => escapeChar :: ']' :: (payload ++ close.text)

/-- The character that a segment consists of. -/
def char? : Segment → Option Char
  | char c _ => some c
  | control .. | command .. => none

end Segment

/-- The text that is made of some segments. -/
def textOf (segments : List Segment) : List Char := segments.flatMap Segment.text

namespace EscapeMode

/-- The reader stays in a sequence that began with `[` until it ends. -/
theorem read_parameters {cs : List Char} (h : ∀ c ∈ cs, isFinal c = false) :
    control.after cs = control ∧ printableFrom control cs = [] := by
  induction cs with
  | nil => exact ⟨rfl, rfl⟩
  | cons c cs ih =>
    have hnext : control.next c = control := by
      rw [next, h c List.mem_cons_self]
      rfl
    rw [after_cons, printableFrom, hnext]
    exact ih fun d hd => h d (List.mem_cons_of_mem c hd)

/-- The reader stays in a sequence that began with `]` until it ends. An escape character may have
been met, and then no backslash may follow. -/
theorem read_payload {mode : EscapeMode} {cs : List Char}
    (hmode : mode = command ∨ mode = commandEscape ∧ cs.head? ≠ some '\\')
    (hbell : bell ∉ cs) (hbackslash : ¬[escapeChar, '\\'] <:+: cs) :
    (mode.after cs = command ∨ mode.after cs = commandEscape) ∧ printableFrom mode cs = [] := by
  induction cs generalizing mode with
  | nil => exact ⟨hmode.imp_right And.left, rfl⟩
  | cons c cs ih =>
    obtain ⟨hc, hcs⟩ := not_or.mp (mt List.mem_cons.mpr hbell)
    have hnext : mode.next c = if c = escapeChar then commandEscape else command := by
      rcases hmode with rfl | ⟨rfl, hhead⟩
      · rw [next, if_neg (Ne.symm hc)]
      · have hslash : c ≠ '\\' := fun h => hhead (congrArg some h)
        rw [next, if_neg (not_or.mpr ⟨Ne.symm hc, hslash⟩)]
    have hkeeps : mode.keeps c = false := by
      rcases hmode with rfl | ⟨rfl, -⟩ <;> rfl
    rw [after_cons, printableFrom, hkeeps, hnext]
    refine ih ?_ hcs fun h => hbackslash (h.trans (List.suffix_cons c cs).isInfix)
    split
    · next hescape =>
      refine .inr ⟨rfl, fun hhead => hbackslash ?_⟩
      obtain ⟨ds, rfl⟩ := List.head?_eq_some_iff.mp hhead
      exact ⟨[], ds, by rw [hescape]; rfl⟩
    · exact .inl rfl

/-- Both ends close a sequence that began with `]`, also behind an escape character. -/
theorem read_close {mode : EscapeMode} (h : mode = command ∨ mode = commandEscape)
    (close : CommandEnd) :
    mode.after close.text = plain ∧ printableFrom mode close.text = [] := by
  rcases h with rfl | rfl <;> cases close <;> exact ⟨by decide, by decide⟩

end EscapeMode

namespace Segment

/-- **Behind a complete segment the reader is in no sequence, and it has printed the character if
the segment is one that can be printed.** -/
theorem read (segment : Segment) :
    EscapeMode.plain.after segment.text = .plain ∧
      printableFrom .plain segment.text = (segment.char?.filter isPrintable).toList := by
  cases segment with
  | char c hchar =>
    refine ⟨EscapeMode.start_of_ne hchar, ?_⟩
    rw [text, printableFrom, char?, Option.filter_some]
    split
    · next hkeeps => rw [if_pos (show isPrintable c = true from hkeeps)]; rfl
    · next hkeeps => rw [if_neg (show ¬isPrintable c = true from hkeeps)]; rfl
  | control parameters final hparameters hfinal =>
    obtain ⟨hafter, hprinted⟩ := EscapeMode.read_parameters hparameters
    have hnext : EscapeMode.control.next final = .plain := if_pos hfinal
    constructor
    · calc EscapeMode.plain.after (escapeChar :: '[' :: (parameters ++ [final]))
          = EscapeMode.control.after (parameters ++ [final]) := rfl
        _ = .plain := by rw [EscapeMode.after_append, hafter]; exact hnext
    · calc printableFrom .plain (escapeChar :: '[' :: (parameters ++ [final]))
          = printableFrom .control (parameters ++ [final]) := rfl
        _ = [] := by rw [printableFrom_append, hprinted, hafter]; rfl
  | command payload close hbell hbackslash =>
    obtain ⟨hafter, hprinted⟩ := EscapeMode.read_payload (.inl rfl) hbell hbackslash
    obtain ⟨hclosed, hsilent⟩ := EscapeMode.read_close hafter close
    constructor
    · calc EscapeMode.plain.after (escapeChar :: ']' :: (payload ++ close.text))
          = EscapeMode.command.after (payload ++ close.text) := rfl
        _ = .plain := by rw [EscapeMode.after_append, hclosed]
    · calc printableFrom .plain (escapeChar :: ']' :: (payload ++ close.text))
          = printableFrom .command (payload ++ close.text) := rfl
        _ = [] := by rw [printableFrom_append, hprinted, hsilent]; rfl

end Segment

/-- A text that begins with complete segments is printed segment by segment. -/
theorem printable_textOf_append (segments : List Segment) (cs : List Char) :
    printable (textOf segments ++ cs) =
      (segments.filterMap Segment.char?).filter isPrintable ++ printable cs := by
  induction segments with
  | nil => rfl
  | cons segment segments ih =>
    obtain ⟨hafter, hprinted⟩ := segment.read
    have hsplit : printable (textOf (segment :: segments) ++ cs) =
        (segment.char?.filter isPrintable).toList ++ printable (textOf segments ++ cs) := by
      rw [textOf, List.flatMap_cons, List.append_assoc, printable, printableFrom_append, hafter,
        hprinted]
      rfl
    rw [hsplit, ih, ← List.append_assoc]
    cases hchar : segment.char? with
    | none => rw [List.filterMap_cons_none hchar]; rfl
    | some c =>
      rw [List.filterMap_cons_some hchar, List.filter_cons, Option.filter_some]
      split <;> rfl

/-- **Printing takes out the escape sequences and the control characters of ASCII except tabs and
line feeds, and nothing else.** What is printed of a text is in the order of the text, has no other
control character of ASCII, and is printed again as it is; a text is printed as it is if and only if
all its characters can be printed. A text that begins with complete segments is printed segment by
segment: of these the characters are left that can be printed, and the text behind them is
printed as it would be by itself. -/
theorem printable_of_segments :
    (∀ cs : List Char,
      (∀ c ∈ printable cs, isControl c = true → c = '\t' ∨ c = '\n') ∧
        (printable cs).Sublist cs ∧
        printable (printable cs) = printable cs ∧
        (isSafe cs = true ↔ printable cs = cs)) ∧
      ∀ (segments : List Segment) (cs : List Char),
        printable (textOf segments ++ cs) = printable (textOf segments) ++ printable cs ∧
          printable (textOf segments) =
            (segments.filterMap Segment.char?).filter isPrintable := by
  refine ⟨fun cs => ⟨fun c hc => ?_, printable_sublist cs, ?_, printable_eq_self_iff.symm⟩,
    fun segments cs => ?_⟩
  · exact eq_tab_or_eq_lineFeed (isPrintable_of_mem_printableFrom hc)
  · exact printable_eq_self_iff.mpr (isSafe_printable cs)
  · have hsegments : printable (textOf segments) =
        (segments.filterMap Segment.char?).filter isPrintable := by
      have hnil := printable_textOf_append segments []
      rwa [List.append_nil, show printable [] = [] from rfl, List.append_nil] at hnil
    exact ⟨hsegments ▸ printable_textOf_append segments cs, hsegments⟩

/-- An escape character within a command ends it only before a backslash. -/
example : printable "\x1b]0;a\x1bb\x1b\x1b\\title".toList = "title".toList := by decide

end FeedReader.Text
