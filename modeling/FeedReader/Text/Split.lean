/-!
# Splitting a text

A text is split at the characters that separate its parts. **It has one part more than
separators**, and some of the parts may be empty.
-/

namespace FeedReader.Text

/-- The parts of a text between separators. -/
def split (isSeparator : Char → Bool) : List Char → List (List Char)
  | [] => [[]]
  | c :: cs =>
    if isSeparator c then [] :: split isSeparator cs
    else
      match split isSeparator cs with
      | [] => [[c]]
      | part :: parts => (c :: part) :: parts

/-- The parts of a text with a separator between any two. -/
def join (separator : Char) : List (List Char) → List Char
  | [] => []
  | [part] => part
  | part :: parts => part ++ separator :: join separator parts

/-- What stands before the last occurrence of a character, and what stands behind it. -/
def splitAtLast? (c : Char) (cs : List Char) : Option (List Char × List Char) :=
  let back := cs.reverse
  match back.dropWhile (· != c) with
  | [] => none
  | _ :: before => some (before.reverse, (back.takeWhile (· != c)).reverse)

/-! ### The parts between separators -/

section Parts

variable {isSeparator : Char → Bool} {separator : Char} {cs part : List Char}

theorem split_of_forall (h : ∀ c ∈ cs, isSeparator c = false) : split isSeparator cs = [cs] := by
  induction cs with
  | nil => rfl
  | cons c cs ih =>
    obtain ⟨hc, hcs⟩ := List.forall_mem_cons.mp h
    simp [split, hc, ih hcs]

theorem split_append (h : ∀ c ∈ part, isSeparator c = false) (hsep : isSeparator separator = true)
    (cs : List Char) :
    split isSeparator (part ++ separator :: cs) = part :: split isSeparator cs := by
  induction part with
  | nil => simp [split, hsep]
  | cons c part ih =>
    obtain ⟨hc, hpart⟩ := List.forall_mem_cons.mp h
    simp [split, hc, ih hpart]

/-- **Parts that are written one after the other are found again.** -/
theorem split_flatMap (hsep : isSeparator separator = true) {parts : List (List Char)}
    (h : ∀ p ∈ part :: parts, ∀ c ∈ p, isSeparator c = false) :
    split isSeparator (part ++ parts.flatMap (separator :: ·)) = part :: parts := by
  induction parts generalizing part with
  | nil => simpa using split_of_forall (h part List.mem_cons_self)
  | cons next parts ih =>
    obtain ⟨hpart, hparts⟩ := List.forall_mem_cons.mp h
    rw [List.flatMap_cons, List.cons_append, split_append hpart hsep, ih hparts]

theorem split_ne_nil (isSeparator : Char → Bool) (cs : List Char) : split isSeparator cs ≠ [] := by
  cases cs with
  | nil => simp [split]
  | cons c cs => grind [split]

theorem not_isSeparator_of_mem_split {c : Char} (hpart : part ∈ split isSeparator cs)
    (hc : c ∈ part) : isSeparator c = false := by
  induction cs generalizing part with
  | nil => simp_all [split]
  | cons d cs ih => grind [split]

end Parts

end FeedReader.Text
