import FeedReader.Proofs.Url.Percent
import FeedReader.Url.Reference
import Mathlib.Data.List.Infix

/-!
# Paths that have been read

Reading a path resolves its dots and escapes what has to be escaped. What comes of it is a list of
names (`FeedReader.Url.IsName`) from which nothing is left to resolve and to escape, so **a path
that has been read is read again as it is** (`FeedReader.Url.pathOf_text`). Putting a slash behind
it and reading the whole once more relies on that. Escaping could bring in new dots only by
writing a dot as its byte, and a dot is never escaped (`FeedReader.Url.escape_eq_of_isDots`).
-/

namespace FeedReader

namespace Url

/-! ### Dots -/

/-- A name that stands for a directory by its dots. -/
def IsDots (name : List Char) : Prop := isDot name = true ∨ isDoubleDot name = true

/-- The names of dots, in small letters. -/
def dotNames : List String := [".", "%2e", "..", ".%2e", "%2e.", "%2e%2e"]

theorem isDots_iff {name : List Char} :
    IsDots name ↔ String.ofList (name.map Char.toLower) ∈ dotNames := by
  simp only [IsDots, isDot, isDoubleDot, dotNames, List.contains_iff_mem, List.mem_cons,
    List.not_mem_nil, or_false]
  tauto

/-- The only byte that is escaped in a name of dots is that of a dot. -/
theorem IsDots.escaped {name : List Char} (h : IsDots name) {high low : Char} {rest : List Char}
    (hsuffix : '%' :: high :: low :: rest <:+ name) : high.toLower = '2' ∧ low.toLower = 'e' := by
  have hall : ∀ dots ∈ dotNames, ∀ s ∈ dots.toList.tails, s.head? = some '%' →
      s[1]? = some '2' ∧ s[2]? = some 'e' := by decide
  have hmapped : '%' :: high.toLower :: low.toLower :: rest.map Char.toLower <:+
      (String.ofList (name.map Char.toLower)).toList := by
    rw [String.toList_ofList]
    exact hsuffix.map Char.toLower
  simpa using hall _ (isDots_iff.mp h) _ ((List.mem_tails _ _).mpr hmapped) rfl

/-- Only a dot is written with the byte of a dot. -/
theorem eq_dot_of_mem_utf8EncodeChar {c : Char} {b : UInt8} (h : b ∈ String.utf8EncodeChar c)
    (hb : b.toNat = 0x2E) : c = '.' := by
  by_cases hascii : c.toNat < 0x80
  · rw [Text.utf8EncodeChar_of_ascii hascii, List.mem_singleton] at h
    rw [h, UInt8.toNat_ofNat', Nat.mod_eq_of_lt (by omega)] at hb
    rw [← Char.ofNat_toNat c, hb]
  · obtain ⟨n, hlow, hbyte, rfl⟩ := Text.exists_of_mem_utf8EncodeChar (by omega) h
    rw [UInt8.toNat_ofNat', Nat.mod_eq_of_lt hbyte] at hb
    omega

theorem eq_of_toLower_upperHexDigit {n : Nat} (h : n < 16) :
    ((Text.upperHexDigit n).toLower = '2' → n = 2) ∧
      ((Text.upperHexDigit n).toLower = 'e' → n = 14) := by
  have hall : ∀ n < 16, ((Text.upperHexDigit n).toLower = '2' → n = 2) ∧
      ((Text.upperHexDigit n).toLower = 'e' → n = 14) := by decide
  exact hall n h

/-- **Escaping brings in no dots.** What is a name of dots once it is escaped was so before. -/
theorem escape_eq_of_isDots {name : List Char} (h : IsDots (escape escapedInPath name)) :
    escape escapedInPath name = name := by
  have hescaped : ∀ high low rest, '%' :: high :: low :: rest <:+ escape escapedInPath name →
      high.toLower = '2' ∧ low.toLower = 'e' := fun _ _ _ => h.escaped
  clear h
  induction name with
  | nil => rfl
  | cons c cs ih =>
    rw [escape, List.flatMap_cons] at hescaped ⊢
    rcases escapeChar_cases escapedInPath c with ⟨heq, -⟩ | ⟨heq, hset⟩
    · rw [heq, List.singleton_append] at hescaped ⊢
      exact congrArg (c :: ·) (ih fun high low rest hsuffix =>
        hescaped high low rest (hsuffix.trans (List.suffix_cons _ _)))
    · -- The first byte would be that of a dot, and a dot is not escaped.
      exfalso
      obtain ⟨b, bs, hbytes⟩ := List.exists_cons_of_ne_nil (String.utf8EncodeChar_ne_nil (c := c))
      have hbyte : b.toNat < 256 := b.toNat_lt
      rw [heq, hbytes] at hescaped
      obtain ⟨hhigh, hlow⟩ := hescaped _ _ _ List.suffix_rfl
      have hdiv := (eq_of_toLower_upperHexDigit (by omega)).1 hhigh
      have hmod := (eq_of_toLower_upperHexDigit (by omega)).2 hlow
      have hdot : c = '.' := eq_dot_of_mem_utf8EncodeChar (by rw [hbytes]; exact List.mem_cons_self)
        (by omega)
      rw [hdot] at hset
      revert hset
      decide

/-! ### Names -/

/-- A name as it stands in a path that has been read. -/
structure IsName (name : List Char) : Prop where
  /-- Nothing is left to be escaped. -/
  plain : ∀ c ∈ name, escapeChar escapedInPath c = [c]
  inside : ∀ c ∈ name, SchemeKind.web.isSlash c = false
  not_dots : ¬IsDots name

namespace IsName

variable {name : List Char}

theorem isDot_eq_false (h : IsName name) : isDot name = false :=
  Bool.eq_false_iff.mpr fun hdot => h.not_dots (.inl hdot)

theorem isDoubleDot_eq_false (h : IsName name) : isDoubleDot name = false :=
  Bool.eq_false_iff.mpr fun hdots => h.not_dots (.inr hdots)

theorem escape_eq (h : IsName name) : escape escapedInPath name = name := by
  rw [escape, List.flatMap_congr h.plain]
  simp

/-- Line ends are escaped, so none is left. -/
theorem not_isIgnored (h : IsName name) {c : Char} (hc : c ∈ name) : isIgnored c = false := by
  have hplain := h.plain c hc
  rw [Bool.eq_false_iff]
  intro hignored
  simp only [isIgnored, Bool.or_eq_true, beq_iff_eq] at hignored
  rcases hignored with (rfl | rfl) | rfl <;> revert hplain <;> decide

theorem nil : IsName [] where
  plain := by simp
  inside := by simp
  not_dots := by simp [IsDots, isDot, isDoubleDot]

end IsName

theorem isName_escape {name : List Char} (hslash : ∀ c ∈ name, SchemeKind.web.isSlash c = false)
    (hdots : ¬IsDots name) : IsName (escape escapedInPath name) where
  plain := by
    have hmarks : ∀ c ∈ escapeMarks, escapeChar escapedInPath c = [c] :=
      forall_of_all (by decide)
    intro d hd
    obtain ⟨c, -, hc⟩ := List.mem_flatMap.mp hd
    rcases mem_escapeChar hc with hmark | ⟨rfl, hlow, hhigh, hset⟩
    · exact hmarks d hmark
    · rcases escapeChar_cases escapedInPath d with ⟨heq, -⟩ | ⟨-, hescaped⟩
      · exact heq
      · rcases hescaped with hcontrol | hcontrol | hescaped
        · omega
        · omega
        · rw [hset] at hescaped
          cases hescaped
  inside := by
    have hmarks : ∀ c ∈ escapeMarks, SchemeKind.web.isSlash c = false :=
      forall_of_all (by decide)
    intro d hd
    obtain ⟨c, hc, hd⟩ := List.mem_flatMap.mp hd
    rcases mem_escapeChar hd with hmark | ⟨rfl, -⟩
    · exact hmarks d hmark
    · exact hslash d hc
  not_dots := fun h => hdots (by rwa [escape_eq_of_isDots h] at h)

/-! ### Resolving -/

theorem above_web (before : List (List Char)) : above .web before = before.tail := by
  cases before with
  | nil => rfl
  | cons name names => cases names <;> rfl

/-- **What resolving leaves are names.** -/
theorem isName_of_mem_resolve {before names : List (List Char)} (hbefore : ∀ n ∈ before, IsName n)
    (hslash : ∀ n ∈ names, ∀ c ∈ n, SchemeKind.web.isSlash c = false) :
    ∀ n ∈ resolve .web before names, IsName n := by
  induction names generalizing before with
  | nil => simpa [resolve] using hbefore
  | cons name names ih =>
    obtain ⟨hname, hnames⟩ := List.forall_mem_cons.mp hslash
    have hopen : ∀ dir : List (List Char), (∀ n ∈ dir, IsName n) →
        ∀ n ∈ (if names.isEmpty then [] :: dir else dir), IsName n := by
      intro dir hdir
      split
      · exact List.forall_mem_cons.mpr ⟨.nil, hdir⟩
      · exact hdir
    rw [resolve]
    split
    · next hdots =>
      rw [above_web]
      exact ih (hopen _ fun n hn => hbefore n (List.mem_of_mem_tail hn)) hnames
    · next hdots =>
      split
      · exact ih (hopen _ hbefore) hnames
      · next hdot =>
        have hnew := isName_escape hname fun h => h.elim hdot hdots
        exact ih (List.forall_mem_cons.mpr ⟨hnew, hbefore⟩) hnames

theorem resolve_ne_nil {before names : List (List Char)} (h : before ≠ [] ∨ names ≠ []) :
    resolve .web before names ≠ [] := by
  induction names generalizing before with
  | nil => simpa [resolve] using h
  | cons name names ih =>
    have hopen : ∀ dir : List (List Char),
        (if names.isEmpty then [] :: dir else dir) ≠ [] ∨ names ≠ [] := by
      intro dir
      cases names <;> simp
    rw [resolve]
    split
    · exact ih (hopen _)
    · split
      · exact ih (hopen _)
      · exact ih (.inl (List.cons_ne_nil _ _))

/-- Names are left as they are. -/
theorem resolve_of_isName {before names : List (List Char)} (h : ∀ n ∈ names, IsName n) :
    resolve .web before names = before.reverse ++ names := by
  induction names generalizing before with
  | nil => simp [resolve]
  | cons name names ih =>
    obtain ⟨hname, hnames⟩ := List.forall_mem_cons.mp h
    rw [resolve, if_neg (by simp [hname.isDoubleDot_eq_false]),
      if_neg (by simp [hname.isDot_eq_false]), hname.escape_eq, ih hnames]
    simp

/-! ### Whole paths -/

/-- A path of the web that has been read. It leads to the host itself by an empty name, so it has
names in any case. -/
def Path.IsRead (path : Path) : Prop :=
  ∃ names, path = .segments names ∧ names ≠ [] ∧ ∀ name ∈ names, IsName name.toList

theorem toList_text_segments (names : List String) :
    (Path.segments names).text.toList = names.flatMap ('/' :: ·.toList) := by
  induction names with
  | nil => rfl
  | cons name names ih =>
    rw [Path.text] at ih ⊢
    rw [List.map_cons, String.join_cons, String.toList_append, ih, String.toList_append,
      List.flatMap_cons]
    rfl

theorem isRead_pathOf (cs : List Char) : (pathOf .web cs).IsRead := by
  obtain ⟨parts, hne, hslash, hread⟩ : ∃ parts, parts ≠ [] ∧
      (∀ n ∈ parts, ∀ c ∈ n, SchemeKind.web.isSlash c = false) ∧
        readPath .web cs = resolve .web [] parts :=
    ⟨_, Text.split_ne_nil _ _, fun _ hn _ hc => Text.not_isSeparator_of_mem_split hn hc, rfl⟩
  refine ⟨(readPath .web cs).map String.ofList, rfl, ?_, fun name hname => ?_⟩
  · rw [hread, Ne, List.map_eq_nil_iff]
    exact resolve_ne_nil (.inr hne)
  · obtain ⟨n, hn, rfl⟩ := List.mem_map.mp hname
    rw [hread] at hn
    rw [String.toList_ofList]
    exact isName_of_mem_resolve (by simp) hslash n hn

theorem readPath_slash (cs : List Char) :
    readPath .web ('/' :: cs) = resolve .web [] (Text.split SchemeKind.web.isSlash cs) := rfl

/-- **A path that has been read is read again as it is.** -/
theorem pathOf_text {path : Path} (h : path.IsRead) : pathOf .web path.text.toList = path := by
  obtain ⟨names, rfl, hne, hnames⟩ := h
  obtain ⟨first, rest, rfl⟩ := List.exists_cons_of_ne_nil hne
  have hlists : ∀ n ∈ (first :: rest).map String.toList, IsName n := List.forall_mem_map.mpr hnames
  have hsplit : Text.split SchemeKind.web.isSlash
      (first.toList ++ (rest.map String.toList).flatMap ('/' :: ·)) =
        (first :: rest).map String.toList :=
    Text.split_flatMap (by decide) fun n hn => (hlists n hn).inside
  have hread : readPath .web (Path.segments (first :: rest)).text.toList =
      (first :: rest).map String.toList := by
    have htext : (Path.segments (first :: rest)).text.toList =
        '/' :: (first.toList ++ (rest.map String.toList).flatMap ('/' :: ·)) := by
      rw [toList_text_segments, List.flatMap_cons, List.flatMap_map]
      rfl
    rw [htext, readPath_slash, hsplit, resolve_of_isName hlists]
    rfl
  rw [pathOf, if_neg (by simp), hread, List.map_map]
  simp [Function.comp_def]

theorem withPath_text (url : Url) {path : Path} (h : path.IsRead) :
    url.withPath path.text.toList = { url with path } := by
  have hkept : path.text.toList.filter (!isIgnored ·) = path.text.toList := by
    obtain ⟨names, rfl, -, hnames⟩ := h
    refine List.filter_eq_self.mpr fun c hc => ?_
    rw [toList_text_segments] at hc
    obtain ⟨name, hname, hc⟩ := List.mem_flatMap.mp hc
    rcases List.mem_cons.mp hc with rfl | hc
    · decide
    · rw [(hnames name hname).not_isIgnored hc]
      rfl
  rw [withPath, hkept, pathOf_text h]

/-! ### Texts that are URLs -/

theorem exists_of_bind_eq_ok {ε α β : Type} {x : Except ε α} {f : α → Except ε β} {b : β}
    (h : x >>= f = .ok b) : ∃ a, x = .ok a ∧ f a = .ok b := by
  cases x with
  | error e => cases h
  | ok a => exact ⟨a, rfl, h⟩

theorem readWithHost_spec {kind : SchemeKind} {scheme : String} {cs : List Char} {url : Url}
    (h : readWithHost kind scheme cs = .ok url) :
    url.scheme = scheme ∧ ∃ path, url.path = pathOf kind path := by
  rw [readWithHost] at h
  split at h
  · cases h
  · obtain ⟨authority, -, hread⟩ := exists_of_bind_eq_ok h
    cases hread
    exact ⟨rfl, _, rfl⟩

theorem scheme_readFile {cs : List Char} {url : Url} (h : readFile cs = .ok url) :
    url.scheme = "file" := by
  rw [readFile] at h
  obtain ⟨⟨host, rest⟩, -, hread⟩ := exists_of_bind_eq_ok h
  simp only at hread
  split at hread <;> cases hread <;> rfl

theorem scheme_readOther {scheme : String} {cs : List Char} {url : Url}
    (h : readOther scheme cs = .ok url) : url.scheme = scheme := by
  unfold readOther at h
  split at h
  · exact (readWithHost_spec h).1
  · cases h
    rfl
  · cases h
    rfl

/-- **The path of a URL of the web has been read.** -/
theorem isRead_ofText {text : String} {url : Url} (h : ofText text = .ok url)
    (hweb : SchemeKind.ofScheme url.scheme = .web) : url.path.IsRead := by
  rw [ofText] at h
  split at h
  · cases h
  · next scheme rest hscheme =>
    split at h
    · obtain ⟨-, path, hpath⟩ := readWithHost_spec h
      rw [hpath]
      exact isRead_pathOf path
    · rw [scheme_readFile h] at hweb
      exact absurd hweb (by decide)
    · next hother =>
      rw [scheme_readOther h, hother] at hweb
      cases hweb

end Url

end FeedReader
