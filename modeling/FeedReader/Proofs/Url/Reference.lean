import FeedReader.Proofs.Url.Path
import Mathlib.Data.List.TakeWhile

/-!
# Plain references

What a reference can do beside a base – name a scheme or a host, begin at the root, climb out of the
directory, end the path at a mark – takes a character that plain names do not have. So **plain names
are appended to the directory of the base**, and nothing else of the base changes except that its
query and its fragment are left behind (`FeedReader.Url.join_intercalate`). In writing, the names
stand behind the slash that the path of the base ends in (`FeedReader.Url.text_append_names`).
-/

namespace FeedReader

namespace Url

/-! ### Plain names -/

/-- Characters that mean nothing in a reference. -/
def plainInPath : List Char := "abcdefghijklmnopqrstuvwxyz0123456789-_".toList

/-- A name that means nothing but itself. -/
structure IsPlainName (name : List Char) : Prop where
  ne_nil : name ≠ []
  plain : ∀ c ∈ name, c ∈ plainInPath

instance (name : List Char) : Decidable (IsPlainName name) :=
  decidable_of_iff (name ≠ [] ∧ name.all (fun c => decide (c ∈ plainInPath)) = true)
    ⟨fun h => ⟨h.1, forall_of_all h.2⟩, fun h => ⟨h.ne_nil, by simpa using h.plain⟩⟩

theorem IsPlainName.isName {name : List Char} (h : IsPlainName name) : IsName name where
  plain c hc := by
    have hall : ∀ c ∈ plainInPath, escapeChar escapedInPath c = [c] :=
      forall_of_all (by decide)
    exact hall c (h.plain c hc)
  inside c hc := by
    have hall : ∀ c ∈ plainInPath, SchemeKind.web.isSlash c = false :=
      forall_of_all (by decide)
    exact hall c (h.plain c hc)
  not_dots := by
    have hmarks : ∀ dots ∈ dotNames,
        dots.toList.head? = some '.' ∨ dots.toList.head? = some '%' := by decide
    have hall : ∀ c ∈ plainInPath, c.toLower ≠ '.' ∧ c.toLower ≠ '%' :=
      forall_of_all (by decide)
    intro hdots
    obtain ⟨c, cs, rfl⟩ := List.exists_cons_of_ne_nil h.ne_nil
    have hc := hall c (h.plain c List.mem_cons_self)
    have hhead := hmarks _ (isDots_iff.mp hdots)
    rw [String.toList_ofList, List.map_cons, List.head?_cons] at hhead
    exact hhead.elim (fun h => hc.1 (Option.some.inj h)) fun h => hc.2 (Option.some.inj h)

/-! ### References of plain names -/

section Plain

variable {cs : List Char} (h : ∀ c ∈ cs, c ∈ '/' :: plainInPath)

include h

/-- All characters of such a reference count. -/
theorem significant_of_plain : significant cs = cs := by
  have hall : ∀ c ∈ '/' :: plainInPath, isTrimmed c = false ∧ isIgnored c = false :=
    forall_of_all (by decide)
  have hkept : ∀ cs : List Char, (∀ c ∈ cs, c ∈ '/' :: plainInPath) →
      cs.dropWhile isTrimmed = cs := by
    intro cs hcs
    cases cs with
    | nil => rfl
    | cons c cs => rw [List.dropWhile_cons, (hall c (hcs c List.mem_cons_self)).1]; rfl
  have hback : ∀ c ∈ cs.reverse, c ∈ '/' :: plainInPath := fun c hc => h c (List.mem_reverse.mp hc)
  rw [significant, hkept cs h, hkept cs.reverse hback, List.reverse_reverse]
  refine List.filter_eq_self.mpr fun c hc => ?_
  rw [(hall c (h c hc)).2]
  rfl

/-- Such a reference has no scheme, since it has no colon. -/
theorem scheme?_of_plain : scheme? cs = none := by
  have hcolon : ':' ∉ '/' :: plainInPath := by decide
  unfold scheme?
  split
  · next hrest =>
    refine absurd (h ':' ?_) hcolon
    refine (List.dropWhile_sublist isSchemeChar).subset ?_
    rw [hrest]
    exact List.mem_cons_self
  · rfl

/-- Such a reference ends neither in a query nor in a fragment. -/
theorem finish_of_plain (url : Url) (kind : SchemeKind) (read : List Char → Path) :
    finish url kind cs read = { url with path := read cs, query := none, fragment := none } := by
  have hmarks : ∀ c ∈ '/' :: plainInPath, (c != '?' && c != '#') = true :=
    forall_of_all (by decide)
  have hall : ∀ c ∈ cs, (c != '?' && c != '#') = true := fun c hc => hmarks c (h c hc)
  rw [finish, List.takeWhile_eq_self_iff.mpr hall, List.dropWhile_eq_nil_iff.mpr hall]
  rfl

end Plain

theorem readReference_of_plain (base : Url) {c : Char} (h : c ∈ plainInPath) (cs : List Char) :
    readReference base (c :: cs) = .ok (finish base .web (c :: cs) (pathIn base.directory)) := by
  have hmarks : ∀ c ∈ plainInPath, c ≠ '#' ∧ c ≠ '?' ∧ SchemeKind.web.isSlash c = false :=
    forall_of_all (by decide)
  obtain ⟨hhash, hquestion, hslash⟩ := hmarks c h
  unfold readReference
  split
  · next heq => cases heq
  · next heq => exact absurd (List.cons.inj heq).1 hhash
  · next heq => exact absurd (List.cons.inj heq).1 hquestion
  · next heq =>
    obtain ⟨rfl, rfl⟩ := List.cons.inj heq
    exact if_pos (by simp [hslash])

theorem toList_intercalate_slash (first : String) (rest : List String) :
    ("/".intercalate (first :: rest)).toList =
      first.toList ++ (rest.map String.toList).flatMap ('/' :: ·) := by
  rw [String.toList_intercalate, List.map_cons]
  exact Json.intercalate_cons ['/'] first.toList (rest.map String.toList)

/-- **Plain names are appended to the directory of the base.** -/
theorem join_intercalate {base : Url} {directory names : List String}
    (hbase : base.path = .segments (directory ++ [""])) (hne : names ≠ [])
    (hnames : ∀ name ∈ names, IsPlainName name.toList) :
    base.join ("/".intercalate names) = .ok { base with
      path := .segments (directory ++ names), query := none, fragment := none } := by
  obtain ⟨first, rest, rfl⟩ := List.exists_cons_of_ne_nil hne
  have hlists : ∀ n ∈ (first :: rest).map String.toList, IsPlainName n :=
    List.forall_mem_map.mpr hnames
  have hchars := toList_intercalate_slash first rest
  have hplain : ∀ c ∈ ("/".intercalate (first :: rest)).toList, c ∈ '/' :: plainInPath := by
    intro c hc
    rw [hchars] at hc
    rcases List.mem_append.mp hc with hc | hc
    · exact List.mem_cons_of_mem _ ((hlists _ List.mem_cons_self).plain c hc)
    · obtain ⟨n, hn, hc⟩ := List.mem_flatMap.mp hc
      rcases List.mem_cons.mp hc with rfl | hc
      · exact List.mem_cons_self
      · exact List.mem_cons_of_mem _ ((hlists n (List.mem_cons_of_mem _ hn)).plain c hc)
  have hpath : pathIn base.directory ("/".intercalate (first :: rest)).toList =
      .segments (directory ++ first :: rest) := by
    have hsplit : Text.split SchemeKind.web.isSlash ("/".intercalate (first :: rest)).toList =
        (first :: rest).map String.toList := by
      rw [hchars]
      exact Text.split_flatMap (by decide) fun n hn => (hlists n hn).isName.inside
    have hdirectory : base.directory = directory := by
      rw [Url.directory, hbase]
      exact List.dropLast_concat
    rw [pathIn, hdirectory, hsplit, resolve_of_isName fun n hn => (hlists n hn).isName,
      List.reverse_reverse, ← List.map_append, List.map_map]
    simp [Function.comp_def]
  obtain ⟨c, cs, hcs⟩ := List.exists_cons_of_ne_nil (hlists _ List.mem_cons_self).ne_nil
  have hfirst : c ∈ plainInPath :=
    (hlists _ List.mem_cons_self).plain c (by rw [hcs]; exact List.mem_cons_self)
  have hread : readReference base ("/".intercalate (first :: rest)).toList =
      .ok (finish base .web ("/".intercalate (first :: rest)).toList (pathIn base.directory)) := by
    rw [hchars, hcs, List.cons_append]
    exact readReference_of_plain base hfirst _
  rw [join, significant_of_plain hplain, scheme?_of_plain hplain]
  exact hread.trans (by rw [finish_of_plain hplain, hpath])

/-- Names that are not plain may lead out of the directory. -/
example : join { scheme := "https", path := .segments ["news", "today", ""] } "../reader?page" =
    .ok { scheme := "https", path := .segments ["news", "reader"], query := some "page" } := by
  decide +kernel

/-- In writing, the names stand behind the slash that the path of the base ends in. -/
theorem text_append_names (directory : List String) {names : List String} (hne : names ≠ []) :
    (Path.segments (directory ++ names)).text =
      (Path.segments (directory ++ [""])).text ++ "/".intercalate names := by
  obtain ⟨first, rest, rfl⟩ := List.exists_cons_of_ne_nil hne
  rw [← String.toList_inj, String.toList_append, toList_text_segments, toList_text_segments,
    toList_intercalate_slash, List.flatMap_append, List.flatMap_append, List.flatMap_map]
  simp

end Url

end FeedReader
