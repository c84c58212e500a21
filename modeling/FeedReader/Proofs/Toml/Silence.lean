import FeedReader.Proofs.Text.Integer
import FeedReader.Text.Basic
import FeedReader.Toml.Document
import Mathlib.Data.List.TakeWhile

/-!
# Texts that say nothing

A text of blanks and comments describes a table without entries, and nothing is wrong with it
(`FeedReader.Toml.IsSilent.ofText?`). The tokens of such a text are blanks and line ends, and **no
line of blanks says anything** (`FeedReader.Toml.ofText?_of_space`).

What is blank is not the same everywhere: Unicode has many kinds of white space, and only two of
them may stand between tokens. But white space that is a document at all consists of these two and
of line ends, and says nothing either (`FeedReader.Toml.eq_nil_of_isBlank`).
-/

namespace FeedReader.Toml

/-- A token that stands between others and says nothing. -/
def Token.IsSpace (token : Token) : Prop := token = .blank ∨ token = .lineEnd

/-! ### Lines of blanks -/

/-- A line that says nothing. -/
def IsBlankLine (line : List Token) : Prop := ∀ token ∈ line, token = .blank

theorem IsBlankLine.statement? {line : List Token} (h : IsBlankLine line) :
    statement? line = some .nothing := by
  have hnone : line.dropWhile (· == .blank) = [] :=
    List.dropWhile_eq_nil_iff.mpr fun token htoken => beq_iff_eq.mpr (h token htoken)
  rw [Toml.statement?, trimmed, hnone]
  rfl

theorem IsBlankLine.reverse {line : List Token} (h : IsBlankLine line) : IsBlankLine line.reverse :=
  fun token htoken => h token (List.mem_reverse.mp htoken)

/-- Lines that are cut from blanks and line ends are lines of blanks. -/
theorem isBlankLine_of_mem_linesFrom {done : List (List Token)} {line tokens : List Token}
    (hdone : ∀ line' ∈ done, IsBlankLine line') (hline : IsBlankLine line)
    (htokens : ∀ token ∈ tokens, token.IsSpace) :
    ∀ line' ∈ linesFrom done line 0 tokens, IsBlankLine line' := by
  induction tokens generalizing done line with
  | nil =>
    intro line' hline'
    exact List.forall_mem_cons.mpr ⟨hline.reverse, hdone⟩ line' (List.mem_reverse.mp hline')
  | cons token tokens ih =>
    obtain ⟨htoken, hrest⟩ := List.forall_mem_cons.mp htokens
    rcases htoken with rfl | rfl
    · exact ih hdone (List.forall_mem_cons.mpr ⟨rfl, hline⟩) hrest
    · exact ih (List.forall_mem_cons.mpr ⟨hline.reverse, hdone⟩) (List.forall_mem_nil _) hrest

theorem foldlM_nothing (doc : Document) (lines : List (List Token)) :
    (lines.map fun _ => Statement.nothing).foldlM Document.add? doc = some doc := by
  induction lines with
  | nil => rfl
  | cons line lines ih => exact ih

/-- **Blanks and line ends describe a table without entries.** -/
theorem ofText?_of_space {cs : List Char} {tokens : List Token} (h : tokens? cs = some tokens)
    (hspace : ∀ token ∈ tokens, token.IsSpace) : ofText? cs = some [] := by
  have hlines : (lines tokens).mapM statement? =
      some ((lines tokens).map fun _ => Statement.nothing) :=
    mapM_of_forall fun line hline => IsBlankLine.statement? <|
      isBlankLine_of_mem_linesFrom (List.forall_mem_nil _) (List.forall_mem_nil _) hspace line hline
  simp only [ofText?, h, Option.bind_eq_bind, Option.bind_some, hlines, foldlM_nothing]
  rfl

/-! ### Blanks and comments -/

/-- A line without its end: blanks, and a comment behind them if there is one. -/
inductive IsSilentLine : List Char → Prop
  | blanks {blanks : List Char} (h : ∀ c ∈ blanks, isBlank c = true) : IsSilentLine blanks
  | comment {blanks text : List Char} (h : ∀ c ∈ blanks, isBlank c = true)
      (htext : ∀ c ∈ text, isText c = true) : IsSilentLine (blanks ++ '#' :: text)

/-- A text whose lines hold blanks and comments only. -/
inductive IsSilent : List Char → Prop
  | last {line : List Char} (h : IsSilentLine line) : IsSilent line
  | lineFeed {line rest : List Char} (h : IsSilentLine line) (hrest : IsSilent rest) :
      IsSilent (line ++ '\n' :: rest)
  | carriageReturn {line rest : List Char} (h : IsSilentLine line) (hrest : IsSilent rest) :
      IsSilent (line ++ '\r' :: '\n' :: rest)

theorem tokens?_blanks {blanks : List Char} (h : ∀ c ∈ blanks, isBlank c = true)
    (read : List Token) (cs : List Char) :
    ∃ spaces, (∀ token ∈ spaces, token.IsSpace) ∧
      Lexing.between.tokens? read (blanks ++ cs) = Lexing.between.tokens? (spaces ++ read) cs := by
  induction blanks generalizing read with
  | nil => exact ⟨[], List.forall_mem_nil _, rfl⟩
  | cons c blanks ih =>
    obtain ⟨hc, hblanks⟩ := List.forall_mem_cons.mp h
    obtain ⟨spaces, hspaces, heq⟩ := ih hblanks (.blank :: read)
    have hstep : Lexing.between.step? c = some ([.blank], .between) := if_pos hc
    refine ⟨spaces ++ [.blank], ?_, ?_⟩
    · exact List.forall_mem_append.mpr ⟨hspaces, List.forall_mem_singleton.mpr (.inl rfl)⟩
    · rw [List.cons_append, Lexing.tokens?, hstep, List.append_assoc]
      exact heq

theorem tokens?_comment {text : List Char} (h : ∀ c ∈ text, isText c = true) (read : List Token)
    (cs : List Char) :
    Lexing.comment.tokens? read (text ++ cs) = Lexing.comment.tokens? read cs := by
  induction text with
  | nil => rfl
  | cons c text ih =>
    obtain ⟨hc, htext⟩ := List.forall_mem_cons.mp h
    have hstep : Lexing.comment.step? c = some ([], .comment) := by
      have hfeed : c ≠ '\n' := by rintro rfl; exact absurd hc (by decide)
      have hreturn : c ≠ '\r' := by rintro rfl; exact absurd hc (by decide)
      rw [Lexing.step?, if_neg hfeed, if_neg hreturn, if_pos hc]
    rw [List.cons_append, Lexing.tokens?, hstep]
    exact ih htext

/-- Behind such a line the lexer is between two tokens, or it is still in the comment. -/
theorem IsSilentLine.tokens? {line : List Char} (h : IsSilentLine line) (read : List Token)
    (cs : List Char) :
    ∃ (spaces : List Token) (state : Lexing), (∀ token ∈ spaces, token.IsSpace) ∧
      (state = .between ∨ state = .comment) ∧
      Lexing.between.tokens? read (line ++ cs) = state.tokens? (spaces ++ read) cs := by
  cases h with
  | blanks h =>
    obtain ⟨spaces, hspaces, heq⟩ := tokens?_blanks h read cs
    exact ⟨spaces, .between, hspaces, .inl rfl, heq⟩
  | @comment blanks text h htext =>
    obtain ⟨spaces, hspaces, heq⟩ := tokens?_blanks h read ('#' :: text ++ cs)
    refine ⟨spaces, .comment, hspaces, .inr rfl, ?_⟩
    rw [List.append_assoc, heq, List.cons_append, ← tokens?_comment htext]
    rfl

/-- What has been read of a line is read before the lines that follow. -/
theorem exists_spaces_of_rest {read spaces : List Token} {result : Option (List Token)}
    (hspaces : ∀ token ∈ spaces, token.IsSpace)
    (h : ∃ others : List Token, (∀ token ∈ others, token.IsSpace) ∧
      result = some ((.lineEnd :: (spaces ++ read)).reverse ++ others)) :
    ∃ others : List Token, (∀ token ∈ others, token.IsSpace) ∧
      result = some (read.reverse ++ others) := by
  obtain ⟨others, hothers, rfl⟩ := h
  refine ⟨spaces.reverse ++ .lineEnd :: others, ?_, by simp⟩
  intro token htoken
  rcases List.mem_append.mp htoken with hbefore | hbehind
  · exact hspaces token (List.mem_reverse.mp hbefore)
  · exact List.forall_mem_cons.mpr ⟨.inr rfl, hothers⟩ token hbehind

theorem IsSilent.tokens?_between {cs : List Char} (h : IsSilent cs) (read : List Token) :
    ∃ spaces, (∀ token ∈ spaces, token.IsSpace) ∧
      Lexing.between.tokens? read cs = some (read.reverse ++ spaces) := by
  induction h generalizing read with
  | @last line h =>
    obtain ⟨spaces, state, hspaces, hstate, heq⟩ := h.tokens? read []
    refine ⟨spaces.reverse, fun token htoken => hspaces token (List.mem_reverse.mp htoken), ?_⟩
    have hfinish : state.finish? = some [] := by rcases hstate with rfl | rfl <;> rfl
    rw [← List.append_nil line, heq, Lexing.tokens?, hfinish]
    simp
  | @lineFeed line rest h hrest ih =>
    obtain ⟨spaces, state, hspaces, hstate, heq⟩ := h.tokens? read ('\n' :: rest)
    have hstep : state.step? '\n' = some ([.lineEnd], .between) := by
      rcases hstate with rfl | rfl <;> rfl
    rw [heq, Lexing.tokens?, hstep]
    exact exists_spaces_of_rest hspaces (ih (.lineEnd :: (spaces ++ read)))
  | @carriageReturn line rest h hrest ih =>
    obtain ⟨spaces, state, hspaces, hstate, heq⟩ := h.tokens? read ('\r' :: '\n' :: rest)
    have hstep : state.step? '\r' = some ([], .carriage) := by
      rcases hstate with rfl | rfl <;> rfl
    rw [heq, Lexing.tokens?, hstep]
    exact exists_spaces_of_rest hspaces (ih (.lineEnd :: (spaces ++ read)))

/-- A text that begins with a mark of the order of bytes is read only where it is looked for. -/
theorem tokens?_of_between {cs : List Char} {tokens : List Token}
    (h : Lexing.between.tokens? [] cs = some tokens) : tokens? cs = some tokens := by
  rw [tokens?]
  · exact h
  · rintro rest rfl
    cases h

/-- **Blanks and comments are a document without entries.** -/
theorem IsSilent.ofText? {cs : List Char} (h : IsSilent cs) : ofText? cs = some [] := by
  obtain ⟨spaces, hspaces, heq⟩ := h.tokens?_between []
  exact ofText?_of_space (tokens?_of_between heq) hspaces

/-! ### White space -/

/-- No token begins with a character outside ASCII. -/
theorem start?_of_not_ascii {c : Char} (h : 0x80 ≤ c.toNat) : Lexing.start? c = none := by
  have hbeyond : ∀ d : Char, d.toNat < 0x80 → ¬c.val ≤ d.val := fun d hd hle =>
    absurd (UInt32.le_iff_toNat_le.mp hle) (Nat.not_le_of_lt (Nat.lt_of_lt_of_le hd h))
  have hne : ∀ d : Char, d.toNat < 0x80 → c ≠ d := by
    rintro d hd rfl
    exact hbeyond c hd (UInt32.le_refl c.val)
  have hupper : c.isUpper = false := decide_eq_false fun hc => hbeyond 'Z' (by decide) hc.2
  have hlower : c.isLower = false :=
    Bool.and_eq_false_iff.mpr (.inr (decide_eq_false (hbeyond 'z' (by decide))))
  have hdigit : c.isDigit = false :=
    Bool.and_eq_false_iff.mpr (.inr (decide_eq_false (hbeyond '9' (by decide))))
  have hletter : c.isAlphanum = false :=
    Bool.or_eq_false_iff.mpr ⟨Bool.or_eq_false_iff.mpr ⟨hupper, hlower⟩, hdigit⟩
  simp [Lexing.start?, isBlank, hne, isWordChar, isKeyChar, hletter, mark?, Quote.char]

theorem mem_of_isBlank {c : Char} (h : Text.isBlank c = true) (hascii : c.toNat < 0x80) :
    c ∈ [' ', '\t', '\n', '\r', '\x0b', '\x0c'] := by
  have hall : ∀ n < 0x80, Text.isBlank (Char.ofNat n) = true →
      Char.ofNat n ∈ [' ', '\t', '\n', '\r', '\x0b', '\x0c'] := by decide
  rw [← Char.ofNat_toNat c] at h ⊢
  exact hall c.toNat hascii h

/-- White space that may stand between tokens is a blank or belongs to a line end. -/
theorem start?_of_isBlank {c : Char} (h : Text.isBlank c = true) {tokens : List Token}
    {next : Lexing} (hstart : Lexing.start? c = some (tokens, next)) :
    (∀ token ∈ tokens, token.IsSpace) ∧ (next = .between ∨ next = .carriage) := by
  have hascii : c.toNat < 0x80 := by
    by_contra hge
    rw [start?_of_not_ascii (Nat.le_of_not_lt hge)] at hstart
    cases hstart
  have hmem := mem_of_isBlank h hascii
  simp only [List.mem_cons, List.not_mem_nil, or_false] at hmem
  rcases hmem with rfl | rfl | rfl | rfl | rfl | rfl <;> cases hstart
  · exact ⟨List.forall_mem_singleton.mpr (.inl rfl), .inl rfl⟩
  · exact ⟨List.forall_mem_singleton.mpr (.inl rfl), .inl rfl⟩
  · exact ⟨List.forall_mem_singleton.mpr (.inr rfl), .inl rfl⟩
  · exact ⟨List.forall_mem_nil _, .inr rfl⟩

theorem step?_of_isBlank {c : Char} (h : Text.isBlank c = true) {state next : Lexing}
    (hstate : state = .between ∨ state = .carriage) {tokens : List Token}
    (hstep : state.step? c = some (tokens, next)) :
    (∀ token ∈ tokens, token.IsSpace) ∧ (next = .between ∨ next = .carriage) := by
  rcases hstate with rfl | rfl
  · exact start?_of_isBlank h hstep
  · rw [Lexing.step?] at hstep
    obtain ⟨-, heq⟩ := Option.ite_none_right_eq_some.mp hstep
    cases heq
    exact ⟨List.forall_mem_singleton.mpr (.inr rfl), .inl rfl⟩

theorem spaces_of_isBlank {cs : List Char} (h : ∀ c ∈ cs, Text.isBlank c = true)
    {state : Lexing} (hstate : state = .between ∨ state = .carriage) {read tokens : List Token}
    (hread : ∀ token ∈ read, token.IsSpace) (hrun : state.tokens? read cs = some tokens) :
    ∀ token ∈ tokens, token.IsSpace := by
  induction cs generalizing state read with
  | nil =>
    rcases hstate with rfl | rfl
    · obtain rfl : read.reverse ++ [] = tokens := Option.some.inj hrun
      simpa using hread
    · cases hrun
  | cons c cs ih =>
    obtain ⟨hc, hcs⟩ := List.forall_mem_cons.mp h
    rw [Lexing.tokens?] at hrun
    split at hrun
    · cases hrun
    · next new next hstep =>
      obtain ⟨hnew, hnext⟩ := step?_of_isBlank hc hstate hstep
      refine ih hcs hnext (fun token htoken => ?_) hrun
      rcases List.mem_append.mp htoken with hlater | hbefore
      · exact hnew token (List.mem_reverse.mp hlater)
      · exact hread token hbefore

/-- **White space that is a document has no entries.** -/
theorem eq_nil_of_isBlank {cs : List Char} (h : ∀ c ∈ cs, Text.isBlank c = true)
    {entries : Entries} (hread : ofText? cs = some entries) : entries = [] := by
  obtain ⟨tokens, htokens, -⟩ := Option.bind_eq_some_iff.mp hread
  have hbetween : Lexing.between.tokens? [] cs = some tokens := by
    rw [tokens?] at htokens
    · exact htokens
    · rintro rest rfl
      exact absurd (h '\ufeff' List.mem_cons_self) (by decide)
  have hspaces := spaces_of_isBlank h (.inl rfl) (List.forall_mem_nil _) hbetween
  rw [ofText?_of_space htokens hspaces] at hread
  exact (Option.some.inj hread).symm

end FeedReader.Toml
