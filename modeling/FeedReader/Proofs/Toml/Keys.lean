import FeedReader.Toml.Document
import Mathlib.Data.List.Nodup

/-!
# No key is said twice

There are many ways to add to a table: keys with points and without, headers, headers in double
brackets, and all of these inside a table that another key leads to. **Each of them keeps the keys
that there are and adds one at most**, which is new (`FeedReader.Toml.Entries.Grows`). So a document
has no key twice (`FeedReader.Toml.nodup_keys_of_ofText?`), and what it says of a key does not
depend on where the key stands.
-/

namespace FeedReader.Toml

namespace Entries

/-- The keys of a table, in the order in which they were first mentioned. -/
def keys (entries : Entries) : List String := entries.map Prod.fst

theorem keys_add (entries : Entries) (key : String) (value : Value) :
    (entries.add key value).keys = entries.keys ++ [key] := by
  simp [keys, add]

theorem keys_replace (entries : Entries) (key : String) (value : Value) :
    (entries.replace key value).keys = entries.keys := by
  rw [keys, replace, List.map_map, keys]
  refine List.map_congr_left fun entry _ => ?_
  rw [Function.comp_apply]
  split
  · next hkey => exact hkey.symm
  · rfl

theorem not_mem_keys {entries : Entries} {key : String} (h : entries.find? key = none) :
    key ∉ entries.keys := by
  rintro hmem
  obtain ⟨entry, hentry, rfl⟩ := List.mem_map.mp hmem
  simpa using List.lookup_eq_none_iff.mp h entry hentry

/-- What a way of adding to a table does to its keys: nothing, or it puts a new one behind them. -/
def Grows (entries entries' : Entries) : Prop :=
  entries'.keys = entries.keys ∨ ∃ key ∉ entries.keys, entries'.keys = entries.keys ++ [key]

theorem Grows.nodup {entries entries' : Entries} (h : Grows entries entries')
    (hnodup : entries.keys.Nodup) : entries'.keys.Nodup := by
  rcases h with hsame | ⟨key, hnew, hkeys⟩
  · exact hsame ▸ hnodup
  · rw [hkeys, ← List.concat_eq_append]
    exact hnodup.concat hnew

variable {entries entries' : Entries} {key : String}

theorem grows_add (h : entries.find? key = none) (value : Value) :
    Grows entries (entries.add key value) :=
  .inr ⟨key, not_mem_keys h, keys_add entries key value⟩

theorem grows_replace (key : String) (value : Value) :
    Grows entries (entries.replace key value) :=
  .inl (keys_replace entries key value)

/-! ### Inside a table

Whatever is done to a table inside, the table around it gets that one in its place. -/

theorem grows_of_added {inner : Option Entries} (value : Entries → Value)
    (hnew : entries.find? key = none)
    (h : (do pure (entries.add key (value (← inner)))) = some entries') :
    Grows entries entries' := by
  obtain ⟨_, -, h⟩ := Option.bind_eq_some_iff.mp h
  obtain rfl := Option.some.inj h
  exact grows_add hnew _

theorem grows_of_replaced {inner : Option Entries} (value : Entries → Value)
    (h : (do pure (entries.replace key (value (← inner)))) = some entries') :
    Grows entries entries' := by
  obtain ⟨_, -, h⟩ := Option.bind_eq_some_iff.mp h
  obtain rfl := Option.some.inj h
  exact grows_replace key _

theorem grows_insert? {isOwn : Bool} {value : Value} {path : List String}
    (h : insert? isOwn value path entries = some entries') : Grows entries entries' := by
  match path with
  | [] => cases h
  | [key] =>
    rw [insert?] at h
    obtain ⟨hfree, h⟩ := Option.ite_none_right_eq_some.mp h
    obtain rfl := Option.some.inj h
    exact grows_add (Option.isNone_iff_eq_none.mp (Bool.and_eq_true_iff.mp hfree).2) value
  | key :: next :: rest =>
    unfold insert? at h
    split at h
    · next hnew => exact grows_of_added _ hnew h
    · exact grows_of_replaced _ h
    · exact grows_of_replaced _ h
    · exact grows_of_replaced (fun inner => .tables (inner :: _)) h
    · cases h

theorem grows_within? {change : Entries → Option Entries}
    (hchange : ∀ {entries entries'}, change entries = some entries' → Grows entries entries')
    {path : List String} (h : within? change path entries = some entries') :
    Grows entries entries' := by
  match path with
  | [] => exact hchange h
  | key :: rest =>
    rw [within?] at h
    split at h
    · next hnew => exact grows_of_added _ hnew h
    · cases h
    · exact grows_of_replaced _ h
    · exact grows_of_replaced (fun inner => .tables (inner :: _)) h
    · cases h

theorem grows_define? (h : define? key entries = some entries') : Grows entries entries' := by
  rw [define?] at h
  split at h
  · next hnew =>
    obtain rfl := Option.some.inj h
    exact grows_add hnew _
  · obtain rfl := Option.some.inj h
    exact grows_replace key _
  · cases h

theorem grows_defineNext? (h : defineNext? key entries = some entries') :
    Grows entries entries' := by
  rw [defineNext?] at h
  split at h
  · next hnew =>
    obtain rfl := Option.some.inj h
    exact grows_add hnew _
  · obtain rfl := Option.some.inj h
    exact grows_replace key _
  · cases h

end Entries

open Entries

/-! ### Documents -/

variable {doc doc' : Document}

theorem Document.grows_changeAt? {change : String → Entries → Option Entries}
    (hchange : ∀ {key entries entries'}, change key entries = some entries' →
      Grows entries entries')
    {key : List String} (h : doc.changeAt? change key = some doc') :
    Grows doc.entries doc'.entries := by
  obtain ⟨last, hlast, h⟩ := Option.bind_eq_some_iff.mp h
  obtain ⟨entries, hentries, h⟩ := Option.bind_eq_some_iff.mp h
  obtain rfl := Option.some.inj h
  exact grows_within? hchange hentries

/-- **Every statement adds one key at most**, and a new one. -/
theorem Document.grows_add? {statement : Statement} (h : doc.add? statement = some doc') :
    Grows doc.entries doc'.entries := by
  cases statement with
  | nothing =>
    obtain rfl := Option.some.inj h
    exact .inl rfl
  | header key => exact grows_changeAt? grows_define? h
  | nextHeader key => exact grows_changeAt? grows_defineNext? h
  | entry key value =>
    obtain ⟨entries, hentries, h⟩ := Option.bind_eq_some_iff.mp h
    obtain rfl := Option.some.inj h
    exact grows_within? grows_insert? hentries

theorem Document.nodup_keys_foldlM (doc : Document) {statements : List Statement}
    (hnodup : doc.entries.keys.Nodup) (h : statements.foldlM Document.add? doc = some doc') :
    doc'.entries.keys.Nodup := by
  induction statements generalizing doc with
  | nil =>
    obtain rfl := Option.some.inj h
    exact hnodup
  | cons statement statements ih =>
    rw [List.foldlM_cons] at h
    obtain ⟨next, hnext, h⟩ := Option.bind_eq_some_iff.mp h
    exact ih next ((grows_add? hnext).nodup hnodup) h

/-- **A document says nothing twice.** -/
theorem nodup_keys_of_ofText? {cs : List Char} {entries : Entries}
    (h : ofText? cs = some entries) : entries.keys.Nodup := by
  obtain ⟨tokens, -, h⟩ := Option.bind_eq_some_iff.mp h
  obtain ⟨statements, -, h⟩ := Option.bind_eq_some_iff.mp h
  obtain ⟨doc, hdoc, h⟩ := Option.bind_eq_some_iff.mp h
  obtain rfl := Option.some.inj h
  exact Document.nodup_keys_foldlM {} List.nodup_nil hdoc

end FeedReader.Toml
