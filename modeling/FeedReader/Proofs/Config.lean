import FeedReader.Config
import FeedReader.Proofs.Toml.Keys
import FeedReader.Proofs.Toml.Silence

/-!
# What a configuration depends on

A file with a configuration may say a lot of things, and only seven keys mean something. **The
configuration is the standard one with the values of these keys put into it**, one after the
other, and then two of them corrected (`FeedReader.Config.ofText?_of_document`). There is none
exactly if one of the values is not of the kind that its key wants. Whatever else the document says
and how it says it makes no difference, and neither does the short way out for a file of white
space, which describes a table without entries.

The order in which the values are put in does not matter, since a document has no key twice: each
part of the configuration is about one key (`FeedReader.Config.IsAbout`), and what is read of that
key is what remains in the end (`FeedReader.Config.IsAbout.foldl`).
-/

namespace FeedReader

namespace Toml

/-- What a value says to somebody who wants a text or an integer. Of anything else it says no more
than what kind of thing it is. -/
inductive Gist
  | string (text : String)
  | integer (n : Int)
  | boolean
  | float
  | time
  | array
  | table
deriving DecidableEq

/-- The gist of a value. Values that are equal have the same gist, however they are written. -/
def Value.gist : Value → Gist
  | string text => .string text
  | integer n => .integer n
  | boolean _ => .boolean
  | float _ => .float
  | time _ => .time
  | array _ | tables _ => .array
  | table _ _ => .table

theorem Value.gist_eq_string_iff {value : Value} {text : String} :
    value.gist = .string text ↔ value = .string text := by
  cases value <;> simp [gist]

theorem Value.gist_eq_integer_iff {value : Value} {n : Int} :
    value.gist = .integer n ↔ value = .integer n := by
  cases value <;> simp [gist]

end Toml

theorem Level.ofInt?_eq_some_iff {n : Int} {level : Level} :
    ofInt? n = some level ↔ n = level.toInt := by
  constructor
  · intro h
    unfold ofInt? at h
    split at h <;> cases h <;> rfl
  · rintro rfl
    exact ofInt?_toInt level

namespace Config

open Toml (Entries Value)

/-! ### What the keys mean -/

/-- What the value of a key has to be. -/
inductive Kind
  | text
  | natural (limit : Nat)
  | level

/-- Whether a value is what it has to be. -/
def Kind.Admits : Kind → Value → Prop
  | text, value => ∃ text, value = .string text
  | natural limit, value => ∃ n : Nat, n < limit ∧ value = .integer n
  | level, value => ∃ level : Level, value = .integer level.toInt

/-- What the value of a key has to be, if the key means something. -/
def kind? : String → Option Kind
  | "base_url" | "cache_path" | "session_cookie" => some .text
  | "page_size" | "request_timeout_secs" => some (.natural word64)
  | "max_retries" => some (.natural word32)
  | "default_intelligence" => some .level
  | _ => none

/-- The configuration with the value of one more key put into it. -/
def given (c : Config) : String × Value → Config
  | ("base_url", .string text) => { c with baseUrl := text }
  | ("page_size", .integer n) => { c with pageSize := n.toNat }
  | ("default_intelligence", .integer (-1)) => { c with level := .all }
  | ("default_intelligence", .integer 0) => { c with level := .neutral }
  | ("default_intelligence", .integer 1) => { c with level := .focus }
  | ("request_timeout_secs", .integer n) => { c with timeoutSeconds := n.toNat }
  | ("max_retries", .integer n) => { c with maxRetries := n.toNat }
  | ("cache_path", .string text) => { c with cachePath := some text }
  | ("session_cookie", .string text) => { c with sessionCookie := some text }
  | _ => c

/-! ### Reading the value of a key -/

theorem text?_eq_some_iff {value : Value} {x : String} :
    text? value = some x ↔ value = .string x := by
  cases value <;> simp [text?]

theorem natural?_eq_some_iff {limit : Nat} {value : Value} {x : Nat} :
    natural? limit value = some x ↔ x < limit ∧ value = .integer x := by
  cases value <;> simp [natural?]
  omega

theorem level?_eq_some_iff {value : Value} {x : Level} :
    level? value = some x ↔ value = .integer x.toInt := by
  cases value <;> simp [level?, Level.ofInt?_eq_some_iff]

/-- A reader of the values of a kind, which looks at nothing but their gist. -/
structure Kind.Reads (kind : Kind) {α : Type} (read : Value → Option α) : Prop where
  admits_iff : ∀ value, kind.Admits value ↔ ∃ x, read value = some x
  eq_of_gist : ∀ {value value' : Value}, value.gist = value'.gist → read value = read value'

theorem Kind.reads_text : Kind.text.Reads text? where
  admits_iff value := by simp only [Admits, text?_eq_some_iff]
  eq_of_gist h := Option.ext fun x => by
    rw [text?_eq_some_iff, text?_eq_some_iff, ← Value.gist_eq_string_iff, h,
      Value.gist_eq_string_iff]

theorem Kind.reads_natural (limit : Nat) : (Kind.natural limit).Reads (natural? limit) where
  admits_iff value := by simp only [Admits, natural?_eq_some_iff]
  eq_of_gist h := Option.ext fun x => by
    rw [natural?_eq_some_iff, natural?_eq_some_iff, ← Value.gist_eq_integer_iff, h,
      Value.gist_eq_integer_iff]

theorem Kind.reads_level : Kind.level.Reads level? where
  admits_iff value := by simp only [Admits, level?_eq_some_iff]
  eq_of_gist h := Option.ext fun x => by
    rw [level?_eq_some_iff, level?_eq_some_iff, ← Value.gist_eq_integer_iff, h,
      Value.gist_eq_integer_iff]

/-- The reader of a value that need not be given. -/
theorem Kind.Reads.optional {kind : Kind} {α : Type} {read : Value → Option α}
    (h : kind.Reads read) : kind.Reads fun value => (read value).map some where
  admits_iff value := by simp [h.admits_iff]
  eq_of_gist hgist := by rw [h.eq_of_gist hgist]

section

variable {α : Type} {kind : Kind} {read : Value → Option α} {key : String}
  {entries entries' : Entries}

theorem Kind.Reads.admits_of_field? (hreads : kind.Reads read) {default x : α}
    (h : field? entries key default read = some x) {value : Value}
    (hfind : entries.find? key = some value) : kind.Admits value := by
  rw [field?, hfind] at h
  exact (hreads.admits_iff value).mpr ⟨x, h⟩

theorem Kind.Reads.exists_field? (hreads : kind.Reads read) (default : α)
    (h : ∀ value, entries.find? key = some value → kind.Admits value) :
    ∃ x, field? entries key default read = some x := by
  rw [field?]
  cases hfind : entries.find? key with
  | none => exact ⟨default, rfl⟩
  | some value => exact (hreads.admits_iff value).mp (h value hfind)

theorem Kind.Reads.field?_congr (hreads : kind.Reads read) (default : α)
    (h : (entries'.find? key).map Value.gist = (entries.find? key).map Value.gist) :
    field? entries' key default read = field? entries key default read := by
  rw [field?, field?]
  cases hfind : entries.find? key with
  | none =>
    rw [hfind, Option.map_none, Option.map_eq_none_iff] at h
    rw [h]
  | some value =>
    rw [hfind, Option.map_some, Option.map_eq_some_iff] at h
    obtain ⟨value', hfind', hgist⟩ := h
    rw [hfind']
    exact hreads.eq_of_gist hgist

end

/-! ### One value after the other -/

/-- What a key leaves alone: the parts of the configuration that are those of the other keys. -/
structure LeavesOthers (key : String) (c c' : Config) : Prop where
  baseUrl : key ≠ "base_url" → c'.baseUrl = c.baseUrl
  pageSize : key ≠ "page_size" → c'.pageSize = c.pageSize
  level : key ≠ "default_intelligence" → c'.level = c.level
  timeoutSeconds : key ≠ "request_timeout_secs" → c'.timeoutSeconds = c.timeoutSeconds
  maxRetries : key ≠ "max_retries" → c'.maxRetries = c.maxRetries
  cachePath : key ≠ "cache_path" → c'.cachePath = c.cachePath
  sessionCookie : key ≠ "session_cookie" → c'.sessionCookie = c.sessionCookie

/-- **A value leaves the parts of the other keys alone.** -/
theorem leavesOthers_given (c : Config) (key : String) (value : Value) :
    LeavesOthers key c (c.given (key, value)) := by
  unfold given
  split <;> constructor <;> simp_all

/-- A part of the configuration that one key is about: the other keys leave it alone, and this one
puts there what is read of its value. -/
structure IsAbout {α : Type} (part : Config → α) (key : String) (read : Value → Option α) :
    Prop where
  given_other : ∀ (c : Config) {other : String}, other ≠ key →
    ∀ value, part (c.given (other, value)) = part c
  given_key : ∀ (c : Config) {value x}, read value = some x → part (c.given (key, value)) = x

section

variable {α : Type} {part : Config → α} {key : String} {read : Value → Option α}
  {entries : Entries}

theorem IsAbout.foldl_of_not_mem (habout : IsAbout part key read) (c : Config)
    (h : key ∉ entries.keys) : part (entries.foldl given c) = part c := by
  induction entries generalizing c with
  | nil => rfl
  | cons entry entries ih =>
    obtain ⟨hne, hrest⟩ := not_or.mp (mt List.mem_cons.mpr h)
    rw [List.foldl_cons, ih _ hrest]
    exact habout.given_other c (Ne.symm hne) entry.2

/-- **What is read of a key remains in the end**, wherever the key stands. -/
theorem IsAbout.foldl (habout : IsAbout part key read) (hnodup : entries.keys.Nodup) (c : Config)
    {x : α} (h : field? entries key (part c) read = some x) :
    part (entries.foldl given c) = x := by
  induction entries generalizing c with
  | nil => exact Option.some.inj h
  | cons entry entries ih =>
    obtain ⟨hnot, hrest⟩ := List.nodup_cons.mp hnodup
    obtain ⟨other, value⟩ := entry
    rw [field?, Entries.find?, List.lookup_cons] at h
    by_cases hkey : key = other
    · subst hkey
      rw [beq_self_eq_true] at h
      rw [List.foldl_cons, habout.foldl_of_not_mem _ hnot]
      exact habout.given_key c h
    · rw [beq_false_of_ne hkey] at h
      refine ih hrest _ ?_
      rw [habout.given_other c (Ne.symm hkey)]
      exact h

end

/-- A part that holds a number is about a key if the key puts its integer there. -/
theorem isAbout_natural {part : Config → Nat} {key : String} (limit : Nat)
    (hother : ∀ (c : Config) {other : String}, other ≠ key →
      ∀ value, part (c.given (other, value)) = part c)
    (hkey : ∀ (c : Config) (n : Nat), part (c.given (key, .integer n)) = n) :
    IsAbout part key (natural? limit) where
  given_other := hother
  given_key c value x h := by
    obtain ⟨-, rfl⟩ := natural?_eq_some_iff.mp h
    exact hkey c x

/-- A part that may hold a text is about a key if the key puts its text there. -/
theorem isAbout_optional {part : Config → Option String} {key : String}
    (hother : ∀ (c : Config) {other : String}, other ≠ key →
      ∀ value, part (c.given (other, value)) = part c)
    (hkey : ∀ (c : Config) (text : String), part (c.given (key, .string text)) = some text) :
    IsAbout part key (fun value => (text? value).map some) where
  given_other := hother
  given_key c value x h := by
    obtain ⟨text, htext, rfl⟩ := Option.map_eq_some_iff.mp h
    obtain rfl := text?_eq_some_iff.mp htext
    exact hkey c text

theorem isAbout_baseUrl : IsAbout Config.baseUrl "base_url" text? where
  given_other c _ h value := (leavesOthers_given c _ value).baseUrl h
  given_key c value x h := by
    obtain rfl := text?_eq_some_iff.mp h
    rfl

theorem isAbout_level : IsAbout Config.level "default_intelligence" level? where
  given_other c _ h value := (leavesOthers_given c _ value).level h
  given_key c value x h := by
    obtain rfl := level?_eq_some_iff.mp h
    cases x <;> rfl

theorem isAbout_pageSize (limit : Nat) : IsAbout Config.pageSize "page_size" (natural? limit) :=
  isAbout_natural limit (fun c _ h value => (leavesOthers_given c _ value).pageSize h)
    fun _ _ => rfl

theorem isAbout_timeoutSeconds (limit : Nat) :
    IsAbout Config.timeoutSeconds "request_timeout_secs" (natural? limit) :=
  isAbout_natural limit (fun c _ h value => (leavesOthers_given c _ value).timeoutSeconds h)
    fun _ _ => rfl

theorem isAbout_maxRetries (limit : Nat) :
    IsAbout Config.maxRetries "max_retries" (natural? limit) :=
  isAbout_natural limit (fun c _ h value => (leavesOthers_given c _ value).maxRetries h)
    fun _ _ => rfl

theorem isAbout_cachePath :
    IsAbout Config.cachePath "cache_path" (fun value => (text? value).map some) :=
  isAbout_optional (fun c _ h value => (leavesOthers_given c _ value).cachePath h) fun _ _ => rfl

theorem isAbout_sessionCookie :
    IsAbout Config.sessionCookie "session_cookie" (fun value => (text? value).map some) :=
  isAbout_optional (fun c _ h value => (leavesOthers_given c _ value).sessionCookie h)
    fun _ _ => rfl

/-! ### The values of a table -/

variable {entries entries' : Entries} {c : Config}

theorem ofEntries?_eq_some_iff :
    ofEntries? entries = some c ↔
      let standard : Config := {}
      let optional := fun value => (text? value).map some
      field? entries "base_url" standard.baseUrl text? = some c.baseUrl ∧
        field? entries "page_size" standard.pageSize (natural? word64) = some c.pageSize ∧
        field? entries "default_intelligence" standard.level level? = some c.level ∧
        field? entries "request_timeout_secs" standard.timeoutSeconds (natural? word64) =
          some c.timeoutSeconds ∧
        field? entries "max_retries" standard.maxRetries (natural? word32) = some c.maxRetries ∧
        field? entries "cache_path" standard.cachePath optional = some c.cachePath ∧
        field? entries "session_cookie" standard.sessionCookie optional =
          some c.sessionCookie := by
  obtain ⟨baseUrl, pageSize, level, timeoutSeconds, maxRetries, cachePath, sessionCookie⟩ := c
  simp [ofEntries?, Option.bind_eq_some_iff]

/-- **What a table describes** is the standard configuration with its values put into it. -/
theorem eq_foldl_of_ofEntries? (hnodup : entries.keys.Nodup) (h : ofEntries? entries = some c) :
    c = entries.foldl given {} := by
  obtain ⟨hurl, hsize, hlevel, htimeout, hretries, hpath, hcookie⟩ := ofEntries?_eq_some_iff.mp h
  have hurl' := isAbout_baseUrl.foldl hnodup {} hurl
  have hsize' := (isAbout_pageSize word64).foldl hnodup {} hsize
  have hlevel' := isAbout_level.foldl hnodup {} hlevel
  have htimeout' := (isAbout_timeoutSeconds word64).foldl hnodup {} htimeout
  have hretries' := (isAbout_maxRetries word32).foldl hnodup {} hretries
  have hpath' := isAbout_cachePath.foldl hnodup {} hpath
  have hcookie' := isAbout_sessionCookie.foldl hnodup {} hcookie
  generalize entries.foldl given {} = put at *
  cases c
  cases put
  rw [Config.mk.injEq]
  exact ⟨hurl'.symm, hsize'.symm, hlevel'.symm, htimeout'.symm, hretries'.symm, hpath'.symm,
    hcookie'.symm⟩

/-- **A table describes a configuration** exactly if all its values are what they have to be. -/
theorem exists_ofEntries?_iff :
    (∃ c, ofEntries? entries = some c) ↔
      ∀ key kind value, kind? key = some kind → entries.find? key = some value →
        kind.Admits value := by
  constructor
  · rintro ⟨c, hc⟩ key kind value hkind hfind
    obtain ⟨hurl, hsize, hlevel, htimeout, hretries, hpath, hcookie⟩ :=
      ofEntries?_eq_some_iff.mp hc
    unfold kind? at hkind
    split at hkind <;> cases hkind
    · exact Kind.reads_text.admits_of_field? hurl hfind
    · exact Kind.reads_text.optional.admits_of_field? hpath hfind
    · exact Kind.reads_text.optional.admits_of_field? hcookie hfind
    · exact (Kind.reads_natural word64).admits_of_field? hsize hfind
    · exact (Kind.reads_natural word64).admits_of_field? htimeout hfind
    · exact (Kind.reads_natural word32).admits_of_field? hretries hfind
    · exact Kind.reads_level.admits_of_field? hlevel hfind
  · intro h
    let standard : Config := {}
    obtain ⟨_, hurl⟩ := Kind.reads_text.exists_field? standard.baseUrl (h "base_url" _ · rfl)
    obtain ⟨_, hsize⟩ :=
      (Kind.reads_natural word64).exists_field? standard.pageSize (h "page_size" _ · rfl)
    obtain ⟨_, hlevel⟩ :=
      Kind.reads_level.exists_field? standard.level (h "default_intelligence" _ · rfl)
    obtain ⟨_, htimeout⟩ := (Kind.reads_natural word64).exists_field? standard.timeoutSeconds
      (h "request_timeout_secs" _ · rfl)
    obtain ⟨_, hretries⟩ :=
      (Kind.reads_natural word32).exists_field? standard.maxRetries (h "max_retries" _ · rfl)
    obtain ⟨_, hpath⟩ :=
      Kind.reads_text.optional.exists_field? standard.cachePath (h "cache_path" _ · rfl)
    obtain ⟨_, hcookie⟩ :=
      Kind.reads_text.optional.exists_field? standard.sessionCookie (h "session_cookie" _ · rfl)
    exact ⟨⟨_, _, _, _, _, _, _⟩,
      ofEntries?_eq_some_iff.mpr ⟨hurl, hsize, hlevel, htimeout, hretries, hpath, hcookie⟩⟩

/-- A number that is too great for repetitions is not too great for stories. -/
example : ofEntries? [("max_retries", .integer 4294967296)] = none ∧
    ofEntries? [("page_size", .integer 4294967296)] = some { pageSize := 4294967296 } := by
  decide

/-- A table that has the same values for the keys that mean something describes the same. -/
theorem ofEntries?_congr
    (h : ∀ key, kind? key ≠ none →
      (entries'.find? key).map Value.gist = (entries.find? key).map Value.gist) :
    ofEntries? entries' = ofEntries? entries := by
  have hfield : ∀ {α : Type} {key : String} {kind : Kind} {read : Value → Option α} (default : α),
      kind? key = some kind → kind.Reads read →
        field? entries' key default read = field? entries key default read :=
    fun default hkind hreads => hreads.field?_congr default (h _ (by simp [hkind]))
  rw [ofEntries?, ofEntries?, hfield _ rfl Kind.reads_text,
    hfield _ rfl (Kind.reads_natural word64), hfield _ rfl Kind.reads_level,
    hfield _ rfl (Kind.reads_natural word64), hfield _ rfl (Kind.reads_natural word32),
    hfield _ rfl Kind.reads_text.optional, hfield _ rfl Kind.reads_text.optional]

/-! ### The text of a file -/

theorem one_le_pageSize_corrected (c : Config) : 1 ≤ c.corrected.pageSize := by
  change 1 ≤ if c.pageSize = 0 then Loader.standardPageSize else c.pageSize
  split
  · decide
  · omega

theorem maxRetries_corrected_le (c : Config) : c.corrected.maxRetries ≤ retryLimit :=
  Nat.min_le_right c.maxRetries retryLimit

theorem corrected_eq (c : Config) :
    c.corrected = { c with
      pageSize := if c.pageSize = 0 then ({} : Config).pageSize else c.pageSize
      maxRetries := if 10 < c.maxRetries then 10 else c.maxRetries } := by
  have hmin : min c.maxRetries retryLimit = if 10 < c.maxRetries then 10 else c.maxRetries := by
    rw [retryLimit]
    split <;> omega
  rw [corrected, hmin]

/-- The configuration of a document. **The short way out for white space leads to the same place**,
since nothing but the standard one comes of a table without entries. -/
theorem ofText?_eq_map_corrected {cs : List Char} (h : Toml.ofText? cs = some entries) :
    ofText? cs = (ofEntries? entries).map corrected := by
  rw [ofText?, h, Option.bind_some]
  split
  case isTrue hblank =>
    obtain rfl := Toml.eq_nil_of_isBlank (List.all_eq_true.mp hblank) h
    rfl
  case isFalse => rfl

/-- The bounds hold of every configuration, whatever it is read from. -/
theorem bounds_of_ofText? {cs : List Char} (h : ofText? cs = some c) :
    1 ≤ c.pageSize ∧ c.maxRetries ≤ 10 := by
  rw [ofText?] at h
  split at h
  · cases h
    decide
  · obtain ⟨entries, -, hentries⟩ := Option.bind_eq_some_iff.mp h
    obtain ⟨read, -, rfl⟩ := Option.map_eq_some_iff.mp hentries
    exact ⟨one_le_pageSize_corrected read, maxRetries_corrected_le read⟩

/-- **The configuration depends on nothing but the keys that mean something.** For a document there
is none exactly if one of them has a value that is not what it has to be, and otherwise it is the
standard one with the given values put into it, except that a page of no stories is one of the
standard size and that more than ten repetitions are ten. Another document with values of the same
gist for these keys, or without any where this one has none, gives the same or fails like this one.
That includes the documents that say nothing at all, which give the standard configuration, and so
does white space of any kind, a document or not. And no text whatever gives a page without stories
or more than ten repetitions. -/
theorem ofText?_of_document {cs : List Char} {entries : Entries}
    (h : Toml.ofText? cs = some entries) :
    let overlaid : Config := entries.foldl given {}
    (ofText? cs = none ↔
      ∃ key kind value, kind? key = some kind ∧ entries.find? key = some value ∧
        ¬kind.Admits value) ∧
    (∀ c, ofText? cs = some c →
      c = { overlaid with
        pageSize :=
          if overlaid.pageSize = 0 then ({} : Config).pageSize else overlaid.pageSize
        maxRetries := if 10 < overlaid.maxRetries then 10 else overlaid.maxRetries }) ∧
    (∀ cs' entries', Toml.ofText? cs' = some entries' →
      (∀ key, kind? key ≠ none →
        (entries'.find? key).map Value.gist = (entries.find? key).map Value.gist) →
      ofText? cs' = ofText? cs) ∧
    (∀ cs', Toml.IsSilent cs' → Toml.ofText? cs' = some [] ∧ ofText? cs' = some {}) ∧
    (∀ cs', (∀ c ∈ cs', Text.isBlank c = true) → ofText? cs' = some {}) ∧
    ∀ text c, ofText? text = some c → 1 ≤ c.pageSize ∧ c.maxRetries ≤ 10 := by
  have hmap := ofText?_eq_map_corrected h
  refine ⟨?fails, ?overlays, ?depends, ?silent, ?blank, fun text c => bounds_of_ofText?⟩
  case fails =>
    rw [hmap, Option.map_eq_none_iff, Option.eq_none_iff_forall_ne_some, ← not_exists,
      exists_ofEntries?_iff]
    push Not
    rfl
  case overlays =>
    intro c hc
    rw [hmap, Option.map_eq_some_iff] at hc
    obtain ⟨read, hread, rfl⟩ := hc
    rw [← eq_foldl_of_ofEntries? (Toml.nodup_keys_of_ofText? h) hread]
    exact corrected_eq read
  case depends =>
    intro cs' entries' h' hagree
    rw [hmap, ofText?_eq_map_corrected h', ofEntries?_congr hagree]
  case silent =>
    intro cs' hsilent
    have hnil := hsilent.ofText?
    exact ⟨hnil, ofText?_eq_map_corrected hnil⟩
  case blank => exact fun cs' hblank => if_pos (List.all_eq_true.mpr hblank)

/-- A document with a table that means nothing, and one that says the rest of it in another order
and in other spellings. -/
theorem ofText?_of_document_respelled :
    let document := "page_size = 0 # best\nmax_retries = 12\n[a]\nb = 1".toList
    let respelled := "\"max_retries\" = 0xc\npage_size = +0".toList
    (∃ entries, Toml.ofText? document = some entries) ∧
      ofText? document = some { maxRetries := 10 } ∧ ofText? respelled = ofText? document := by
  intro document respelled
  have hdocument : Toml.ofText? document =
      some [("page_size", .integer 0), ("max_retries", .integer 12),
        ("a", .table .header [("b", .integer 1)])] := rfl
  have hrespelled : Toml.ofText? respelled =
      some [("max_retries", .integer 12), ("page_size", .integer 0)] := rfl
  obtain ⟨-, hoverlays, hdepends, -, -, -⟩ := ofText?_of_document hdocument
  have hsame := hdepends respelled _ hrespelled fun key hkey => by
    unfold kind? at hkey
    split at hkey
    case h_8 => exact absurd rfl hkey
    all_goals rfl
  obtain ⟨c, hc⟩ : ∃ c, ofText? document = some c :=
    Option.isSome_iff_exists.mp (by decide +kernel)
  exact ⟨⟨_, hdocument⟩, hc.trans (congrArg some (hoverlays c hc)), hsame⟩

end Config

end FeedReader
