import FeedReader.Proofs.Text.Numeral
import FeedReader.Url.Ipv6

/-!
# Addresses are read as they are written

A host may spell an address in many ways, but the text of a host writes it in one way only. **What
is written so is read as the same address again**, be it an address of four bytes
(`FeedReader.Url.Ipv4.ofBytesText?_text`) or one of eight pieces
(`FeedReader.Url.Ipv6.ofText?_text`), so a check may look at the text instead of the address.

The text of an address of eight pieces leaves out its longest run of zeros. Whatever is written on
both sides of it, the first two colons in a row are those that stand for the run
(`FeedReader.Url.Ipv6.splitAtGap?_piecesText_append`), and the run is as long as what is missing.
-/

namespace FeedReader.Url

open Text

namespace Ipv4

variable {a : Ipv4} {cs : List Char} {n : Nat}

/-! ### Four bytes -/

theorem byte?_toDigits (h : n < 256) : byte? (Nat.toDigits 10 n) = some n := by
  have hall : ∀ n < 256, byte? (Nat.toDigits 10 n) = some n := by decide +kernel
  exact hall n h

/-- A byte is written in digits, and is not empty. -/
theorem of_byte? (h : byte? cs = some n) :
    cs ≠ [] ∧ (∀ c ∈ cs, c.isDigit = true) ∧ n < 256 := by
  unfold byte? at h
  split at h
  · cases h
  · split at h
    · cases h
    · obtain ⟨hnumeral, hlt⟩ := Option.filter_eq_some_iff.mp h
      rw [numeral?] at hnumeral
      split at hnumeral
      · cases hnumeral
      · next hne =>
        obtain ⟨digits, hdigits, -⟩ := Option.map_eq_some_iff.mp hnumeral
        refine ⟨fun heq => hne (heq ▸ rfl), fun c hc => ?_, of_decide_eq_true hlt⟩
        obtain ⟨d, hd⟩ := exists_of_mem_of_mapM hdigits hc
        exact isDigit_of_digit? hd

/-- An address has four bytes, and stands for them as a number in base 256. -/
theorem bytes_of_ofBytesText? (h : ofBytesText? cs = some a) :
    ∃ bytes, (split (· == '.') cs).mapM byte? = some bytes ∧ bytes.length = 4 ∧
      a.value = ofDigits 256 bytes := by
  unfold ofBytesText? at h
  split at h
  · next b₁ b₂ b₃ b₄ hbytes =>
    cases h
    exact ⟨_, hbytes, rfl, by simp [ofDigits]⟩
  · cases h

theorem value_lt_of_ofBytesText? (h : ofBytesText? cs = some a) : a.value < 2 ^ 32 := by
  obtain ⟨bytes, hbytes, hlength, hvalue⟩ := bytes_of_ofBytesText? h
  have hlt : ofDigits 256 bytes < 256 ^ bytes.length := ofDigits_lt fun b hb => by
    obtain ⟨part, -, hpart⟩ := exists_mem_of_mem_mapM hbytes hb
    exact (of_byte? hpart).2.2
  rw [hvalue]
  rwa [hlength] at hlt

theorem value_lt_of_ofNumbers? {numbers : List Nat} (h : ofNumbers? numbers = some a) :
    a.value < 2 ^ 32 := by
  unfold ofNumbers? at h
  split at h
  · cases h
  · next last others _ =>
    simp only at h
    split at h
    · cases h
    · next hfits =>
      cases h
      simp only [not_or, Nat.not_le, Nat.not_lt, Nat.pow_eq] at hfits ⊢
      obtain ⟨hcount, hbytes, hlast⟩ := hfits
      have hlt : ofDigits 256 others.reverse < 256 ^ others.reverse.length :=
        ofDigits_lt fun b hb => by
          have hbyte := (List.any_eq_false.mp (Bool.eq_false_iff.mpr hbytes)) b hb
          simpa [Nat.lt_succ_iff] using hbyte
      -- The last number stands for all the bytes that are left.
      obtain ⟨left, hfour⟩ : ∃ left, others.reverse.length + left = 4 :=
        ⟨4 - others.reverse.length, by omega⟩
      rw [show 4 - others.reverse.length = left by omega] at hlast ⊢
      calc ofDigits 256 others.reverse * 256 ^ left + last
          = 256 ^ left * ofDigits 256 others.reverse + last := by rw [Nat.mul_comm]
        _ < 256 ^ others.reverse.length * 256 ^ left :=
            Nat.mul_add_lt_mul_of_lt_of_lt hlt hlast
        _ = 256 ^ (others.reverse.length + left) := (Nat.pow_add ..).symm
        _ = 2 ^ 32 := congrArg (256 ^ ·) hfour

theorem value_lt_of_ofHost? (h : ofHost? cs = some a) : a.value < 2 ^ 32 := by
  obtain ⟨numbers, -, h⟩ := Option.bind_eq_some_iff.mp h
  exact value_lt_of_ofNumbers? h

/-! ### Its text -/

theorem mem_text {c : Char} (h : c ∈ a.text) : c.isDigit = true ∨ c = '.' := by
  rcases mem_join h with rfl | ⟨part, hpart, hc⟩
  · exact .inr rfl
  · obtain ⟨b, -, rfl⟩ := List.mem_map.mp hpart
    exact .inl (Nat.isDigit_of_mem_toDigits (by decide) (by decide) hc)

/-- **An address of four bytes is read as it is written.** -/
theorem ofBytesText?_text (h : a.value < 2 ^ 32) : ofBytesText? a.text = some a := by
  have hsplit : split (· == '.') a.text = a.bytes.map (Nat.toDigits 10) := by
    refine split_join (by simp [bytes]) fun part hpart hpoint => ?_
    obtain ⟨b, -, rfl⟩ := List.mem_map.mp hpart
    cases Nat.isDigit_of_mem_toDigits (by decide) (by decide) hpoint
  have hbytes : (a.bytes.map (Nat.toDigits 10)).mapM byte? = some a.bytes := by
    refine mapM_map_of_forall fun b hb => byte?_toDigits ?_
    simp only [bytes, List.mem_cons, List.not_mem_nil, or_false] at hb
    omega
  rw [ofBytesText?, hsplit, hbytes]
  refine congrArg some (congrArg Ipv4.mk ?_)
  omega

theorem ofBytesText?_of_no_point (h : '.' ∉ cs) : ofBytesText? cs = none := by
  refine Option.eq_none_iff_forall_ne_some.mpr fun a ha => ?_
  obtain ⟨bytes, hbytes, hlength, -⟩ := bytes_of_ofBytesText? ha
  have hone := (forall₂_of_mapM hbytes).length_eq
  rw [split_of_not_mem h, hlength] at hone
  cases hone

/-- What looks like four bytes ends in a number, so it is no name of a host. -/
theorem endsInNumber_of_ofBytesText? (h : ofBytesText? cs = some a) : endsInNumber cs = true := by
  obtain ⟨bytes, hbytes, hlength, -⟩ := bytes_of_ofBytesText? h
  have hne : split (· == '.') cs ≠ [] := split_ne_nil _ _
  have hlast : (split (· == '.') cs).getLast hne ∈ split (· == '.') cs := List.getLast_mem hne
  obtain ⟨b, hb⟩ := exists_of_mem_of_mapM hbytes hlast
  obtain ⟨hfull, hdigits, -⟩ := of_byte? hb
  have hparts : parts cs = split (· == '.') cs := by
    refine if_neg fun hempty => hfull ?_
    rw [List.getLast?_eq_some_getLast hne] at hempty
    exact Option.some.inj hempty
  rw [endsInNumber, hparts, List.getLast?_eq_some_getLast hne]
  simp only [Bool.or_eq_true, Bool.and_eq_true, List.all_eq_true]
  exact .inl ⟨by simpa using hfull, hdigits⟩

end Ipv4

namespace Ipv6

variable {a : Ipv6} {cs : List Char} {pieces : List Nat}

/-- Eight pieces of 16 bits. -/
structure IsAddress (a : Ipv6) : Prop where
  length : a.pieces.length = 8
  lt : ∀ p ∈ a.pieces, p < 65536

/-! ### What is read is an address -/

theorem lt_of_piece? {p : Nat} (h : piece? cs = some p) : p < 65536 := by
  rw [piece?] at h
  split at h
  · cases h
  · next hlength =>
    calc p < 16 ^ cs.length := lt_pow_of_numeral? h
      _ ≤ 16 ^ 4 := Nat.pow_le_pow_right (by decide) (Nat.le_of_not_lt hlength)

theorem lt_of_pieces? (h : pieces? cs = some pieces) : ∀ p ∈ pieces, p < 65536 := by
  rw [pieces?] at h
  split at h
  · cases h
    exact fun p hp => absurd hp List.not_mem_nil
  · intro p hp
    obtain ⟨part, -, hpart⟩ := exists_mem_of_mem_mapM h hp
    exact lt_of_piece? hpart

theorem lt_of_lastPieces? (h : lastPieces? cs = some pieces) : ∀ p ∈ pieces, p < 65536 := by
  have hhalves : ∀ {cs : List Char} {a : Ipv4}, Ipv4.ofBytesText? cs = some a →
      ∀ p ∈ [a.value / 0x10000, a.value % 0x10000], p < 65536 := by
    intro cs a ha p hp
    have hvalue := Ipv4.value_lt_of_ofBytesText? ha
    simp only [List.mem_cons, List.not_mem_nil, or_false] at hp
    omega
  unfold lastPieces? at h
  split at h
  · split at h
    · next hbytes =>
      cases h
      exact hhalves hbytes
    · exact lt_of_pieces? h
  · split at h
    · next hbytes =>
      split at h
      · cases h
      · obtain ⟨first, hfirst, h⟩ := Option.bind_eq_some_iff.mp h
        cases h
        exact List.forall_mem_append.mpr ⟨lt_of_pieces? hfirst, hhalves hbytes⟩
    · exact lt_of_pieces? h

theorem isAddress_of_ofText? (h : ofText? cs = some a) : a.IsAddress := by
  unfold ofText? at h
  split at h
  · obtain ⟨pieces, hpieces, h⟩ := Option.bind_eq_some_iff.mp h
    split at h
    · next hlength =>
      cases h
      exact ⟨hlength, lt_of_lastPieces? hpieces⟩
    · cases h
  · obtain ⟨first, hfirst, h⟩ := Option.bind_eq_some_iff.mp h
    obtain ⟨last, hlast, h⟩ := Option.bind_eq_some_iff.mp h
    simp only at h
    split at h
    · next hgiven =>
      cases h
      constructor
      · simp only [List.length_append, List.length_replicate]
        omega
      · simp only [List.forall_mem_append]
        refine ⟨⟨lt_of_pieces? hfirst, fun p hp => ?_⟩, lt_of_lastPieces? hlast⟩
        rw [List.eq_of_mem_replicate hp]
        decide
    · cases h

theorem splitAtGap?_cons_of_ne {c : Char} (h : c ≠ ':') (cs : List Char) :
    splitAtGap? (c :: cs) = (splitAtGap? cs).map fun x => (c :: x.1, x.2) := by
  rw [splitAtGap?]
  rintro rest rfl
  exact absurd rfl h

theorem splitAtGap?_colon_of_ne {c : Char} (h : c ≠ ':') (cs : List Char) :
    splitAtGap? (':' :: c :: cs) = (splitAtGap? (c :: cs)).map fun x => (':' :: x.1, x.2) := by
  rw [splitAtGap?]
  rintro rest - heq
  exact h (List.cons.inj heq).1

/-- There is no address without a colon. -/
theorem ofText?_of_no_colon (h : ':' ∉ cs) : ofText? cs = none := by
  have hgap : splitAtGap? cs = none := by
    induction cs with
    | nil => rfl
    | cons c cs ih =>
      obtain ⟨hc, hcs⟩ := not_or.mp (mt List.mem_cons.mpr h)
      rw [splitAtGap?_cons_of_ne (Ne.symm hc), ih hcs]
      rfl
  -- Without a colon there are two pieces at most.
  have hshort : ∀ pieces, lastPieces? cs = some pieces → pieces.length ≠ 8 := by
    intro pieces hpieces
    rw [lastPieces?, splitAtLast?_of_not_mem h] at hpieces
    simp only at hpieces
    split at hpieces
    · cases hpieces
      simp
    · rw [pieces?, split_of_not_mem h] at hpieces
      split at hpieces
      · cases hpieces
        simp
      · rw [← (forall₂_of_mapM hpieces).length_eq]
        simp
  refine Option.eq_none_iff_forall_ne_some.mpr fun a ha => ?_
  rw [ofText?, hgap] at ha
  obtain ⟨pieces, hpieces, ha⟩ := Option.bind_eq_some_iff.mp ha
  rw [if_neg (hshort pieces hpieces)] at ha
  cases ha

/-! ### Pieces in writing -/

/-- Pieces are written in digits and colons. -/
theorem mem_piecesText {c : Char} (h : c ∈ piecesText pieces) :
    c = ':' ∨ ∃ d, digit? 16 c = some d := by
  rcases mem_join h with rfl | ⟨part, hpart, hc⟩
  · exact .inl rfl
  · obtain ⟨p, -, rfl⟩ := List.mem_map.mp hpart
    exact .inr (exists_digit?_of_mem_toDigits (by decide) (by decide) hc)

theorem ne_of_mem_toDigits {c : Char} {p : Nat} (hc : c ∈ Nat.toDigits 16 p) : c ≠ ':' := by
  rintro rfl
  obtain ⟨d, hd⟩ := exists_digit?_of_mem_toDigits (by decide) (by decide) hc
  cases hd

/-- The text of pieces begins with a digit. -/
theorem exists_piecesText_cons (p : Nat) (pieces : List Nat) :
    ∃ c cs, piecesText (p :: pieces) = c :: cs ∧ c ≠ ':' := by
  obtain ⟨c, digits, hp⟩ := List.exists_cons_of_ne_nil (Nat.toDigits_ne_nil (n := p) (b := 16))
  refine ⟨c, digits ++ (pieces.map (Nat.toDigits 16)).flatMap (':' :: ·), ?_, ?_⟩
  · rw [piecesText, List.map_cons, join_cons, hp, List.cons_append]
  · exact ne_of_mem_toDigits (hp ▸ List.mem_cons_self)

theorem point_not_mem_piecesText : '.' ∉ piecesText pieces := by
  intro h
  rcases mem_piecesText h with heq | ⟨d, hd⟩
  · cases heq
  · cases hd

theorem piece?_toDigits {p : Nat} (h : p < 65536) : piece? (Nat.toDigits 16 p) = some p := by
  have hlength : (Nat.toDigits 16 p).length ≤ 4 :=
    (Nat.length_toDigits_le_iff (by decide) (by decide)).mpr h
  rw [piece?, if_neg (Nat.not_lt.mpr hlength), numeral?_toDigits (by decide) (by decide)]

theorem pieces?_piecesText (h : ∀ p ∈ pieces, p < 65536) :
    pieces? (piecesText pieces) = some pieces := by
  cases pieces with
  | nil => rfl
  | cons p pieces =>
    have hfull : (piecesText (p :: pieces)).isEmpty = false := by
      obtain ⟨c, digits, hfirst, -⟩ := exists_piecesText_cons p pieces
      rw [hfirst]
      rfl
    have hsplit : split (· == ':') (piecesText (p :: pieces)) =
        (p :: pieces).map (Nat.toDigits 16) := by
      refine split_join (List.cons_ne_nil _ _) fun part hpart hcolon => ?_
      obtain ⟨q, -, rfl⟩ := List.mem_map.mp hpart
      exact ne_of_mem_toDigits hcolon rfl
    rw [pieces?, hfull, hsplit]
    exact mapM_map_of_forall fun q hq => piece?_toDigits (h q hq)

/-- Where there is no point, no piece is written as bytes. -/
theorem lastPieces?_of_no_point (h : '.' ∉ cs) : lastPieces? cs = pieces? cs := by
  unfold lastPieces?
  split
  · rw [Ipv4.ofBytesText?_of_no_point h]
  · next before last hsplit =>
    have hlast : '.' ∉ last := fun hmem => h (subset_of_splitAtLast? hsplit hmem)
    rw [Ipv4.ofBytesText?_of_no_point hlast]

/-- A digit does not begin a gap. -/
theorem splitAtGap?_append_of_ne {part : List Char} (h : ∀ c ∈ part, c ≠ ':') (cs : List Char) :
    splitAtGap? (part ++ cs) = (splitAtGap? cs).map fun x => (part ++ x.1, x.2) := by
  induction part with
  | nil => exact Option.map_id'.symm
  | cons c part ih =>
    obtain ⟨hc, hpart⟩ := List.forall_mem_cons.mp h
    rw [List.cons_append, splitAtGap?_cons_of_ne hc, ih hpart, Option.map_map]
    rfl

/-- **No gap is within pieces**, nor at their end. -/
theorem splitAtGap?_piecesText_append (pieces : List Nat) (cs : List Char) :
    splitAtGap? (piecesText pieces ++ cs) =
      (splitAtGap? cs).map fun x => (piecesText pieces ++ x.1, x.2) := by
  induction pieces with
  | nil => exact Option.map_id'.symm
  | cons p pieces ih =>
    have hdigits : ∀ c ∈ Nat.toDigits 16 p, c ≠ ':' := fun c => ne_of_mem_toDigits
    cases pieces with
    | nil => exact splitAtGap?_append_of_ne hdigits cs
    | cons q pieces =>
      have htext : piecesText (p :: q :: pieces) =
          Nat.toDigits 16 p ++ ':' :: piecesText (q :: pieces) := rfl
      obtain ⟨c, digits, hfirst, hc⟩ := exists_piecesText_cons q pieces
      rw [htext, List.append_assoc, splitAtGap?_append_of_ne hdigits, List.cons_append]
      rw [hfirst] at ih ⊢
      rw [List.cons_append, splitAtGap?_colon_of_ne hc, ← List.cons_append, ih, Option.map_map,
        Option.map_map]
      congr 1
      funext x
      simp

/-! ### Runs of zeros -/

/-- A list begins with as many zeros as are counted. -/
theorem take_leadingZeros (pieces : List Nat) :
    pieces.take (leadingZeros pieces) = List.replicate (leadingZeros pieces) 0 := by
  have hzeros : pieces.takeWhile (· == 0) = List.replicate (leadingZeros pieces) 0 :=
    List.eq_replicate_iff.mpr ⟨rfl, fun p hp => by simpa using List.mem_takeWhile_imp hp⟩
  exact (List.prefix_iff_eq_take.mp (List.takeWhile_prefix _)).symm.trans hzeros

/-- **The longest run of zeros is found**, with what stands before it and behind it. -/
theorem eq_of_splitAtRun (pieces : List Nat) :
    pieces = (splitAtRun (longestRun pieces) pieces).1 ++
      List.replicate (longestRun pieces) 0 ++ (splitAtRun (longestRun pieces) pieces).2 := by
  induction pieces with
  | nil => rfl
  | cons p pieces ih =>
    rw [splitAtRun]
    split
    · next hfirst =>
      rw [← hfirst, ← take_leadingZeros, List.nil_append, List.take_append_drop]
    · next hlater =>
      have hrun : longestRun (p :: pieces) = longestRun pieces := by
        rw [longestRun] at hlater ⊢
        omega
      rw [hrun]
      exact congrArg (p :: ·) ih

/-! ### The text of an address -/

/-- An address is written in digits and colons. -/
theorem mem_text {c : Char} (h : c ∈ a.text) : c = ':' ∨ ∃ d, digit? 16 c = some d := by
  unfold text at h
  simp only at h
  split at h
  · exact mem_piecesText h
  · simp only [List.mem_append, List.mem_cons, List.not_mem_nil, or_false] at h
    rcases h with (hbefore | hcolon | hcolon) | hbehind
    · exact mem_piecesText hbefore
    · exact .inl hcolon
    · exact .inl hcolon
    · exact mem_piecesText hbehind

/-- **An address of eight pieces is read as it is written.** -/
theorem ofText?_text (h : a.IsAddress) : ofText? a.text = some a := by
  unfold text
  simp only
  split
  · have hgap : splitAtGap? (piecesText a.pieces) = none := by
      have hnone := splitAtGap?_piecesText_append a.pieces []
      rwa [List.append_nil] at hnone
    rw [ofText?, hgap]
    simp only [lastPieces?_of_no_point point_not_mem_piecesText, pieces?_piecesText h.lt]
    exact if_pos h.length
  · next hrun =>
    obtain ⟨before, behind, hsplit⟩ : ∃ before behind,
        splitAtRun (longestRun a.pieces) a.pieces = (before, behind) := ⟨_, _, rfl⟩
    have hpieces := eq_of_splitAtRun a.pieces
    rw [hsplit] at hpieces ⊢
    simp only at hpieces ⊢
    have hlength := h.length
    have hlt := h.lt
    generalize longestRun a.pieces = run at hrun hpieces
    rw [hpieces] at hlength hlt
    simp only [List.length_append, List.length_replicate] at hlength
    simp only [List.forall_mem_append] at hlt
    have hgap : splitAtGap? (piecesText before ++ [':', ':'] ++ piecesText behind) =
        some (piecesText before, piecesText behind) := by
      rw [List.append_assoc, splitAtGap?_piecesText_append]
      simp [splitAtGap?]
    rw [ofText?, hgap]
    simp only [lastPieces?_of_no_point point_not_mem_piecesText, pieces?_piecesText hlt.1.1,
      pieces?_piecesText hlt.2]
    have hmissing : 8 - (before.length + behind.length) = run := by omega
    refine (if_pos (by omega)).trans ?_
    rw [hmissing, ← hpieces]
    rfl

end Ipv6

end FeedReader.Url
