import FeedReader.Proofs.Story.Context
import FeedReader.Proofs.Url.Form
import FeedReader.Proofs.Url.Reference
import FeedReader.Proofs.Url.Server
import FeedReader.Remote.Request

/-!
# What requests say

The server is named by a URL that may have a user, a port, a path, a query and a fragment. **Every
request goes to that server and says what the call is about**
(`FeedReader.Remote.Server.request_conveys_call`): only what stands behind the directory of the URL
differs between calls, and the session leaves for no other host. A server that reads the query and
the form finds the feeds in their order, the number of the page and the id of the story, whatever
characters the id has.

Behind it stand three facts about URLs: a path that has been read is read again as it is, so a slash
can be put behind it; plain names are appended to a directory; and a form is read as it was written.
-/

namespace FeedReader

namespace Remote

/-! ### The directory of the server -/

/-- A path with a slash behind it. -/
def closed (path : String) : String := if path.toList.getLast? = some '/' then path else path ++ "/"

/-- **A slash is put behind the path, and nothing else changes.** -/
theorem asDirectory_eq {url : Url} (h : url.path.IsRead) : ∃ directory,
    asDirectory url = { url with path := .segments (directory ++ [""]) } ∧
      (Url.Path.segments (directory ++ [""])).text = closed url.path.text := by
  obtain ⟨names, hpath, hne, hnames⟩ := h
  obtain ⟨initial, last, rfl⟩ : ∃ initial last, names = initial ++ [last] :=
    ⟨_, _, (List.dropLast_append_getLast hne).symm⟩
  have htext : url.path.text.toList =
      initial.flatMap ('/' :: ·.toList) ++ '/' :: last.toList := by
    rw [hpath, Url.toList_text_segments, List.flatMap_append, List.flatMap_singleton]
  by_cases hlast : last = ""
  · have hslash : url.path.text.toList.getLast? = some '/' := by
      rw [htext, hlast]
      simp
    refine ⟨initial, ?_, ?_⟩
    · rw [asDirectory, if_pos hslash, ← hlast, ← hpath]
    · rw [closed, if_pos hslash, hpath, hlast]
  · have hslash : url.path.text.toList.getLast? ≠ some '/' := by
      have hinside : '/' ∉ last.toList := fun hmem =>
        Bool.noConfusion ((hnames last (by simp)).inside '/' hmem)
      have hfull : last.toList ≠ [] := by simpa using hlast
      rw [htext, List.getLast?_append, List.getLast?_cons_of_ne_nil hfull,
        List.getLast?_eq_some_getLast hfull, Option.some_or]
      exact fun heq => hinside (Option.some.inj heq ▸ List.getLast_mem hfull)
    have hclosed : url.path.text.toList ++ ['/'] =
        (Url.Path.segments (initial ++ [last] ++ [""])).text.toList := by
      rw [hpath, Url.toList_text_segments, Url.toList_text_segments]
      simp
    refine ⟨initial ++ [last], ?_, ?_⟩
    · rw [asDirectory, if_neg hslash, hclosed, Url.withPath_text]
      refine ⟨_, rfl, by simp, fun name hname => ?_⟩
      rcases List.mem_append.mp hname with hname | hname
      · exact hnames name hname
      · rw [List.mem_singleton.mp hname]
        exact .nil
    · rw [closed, if_neg hslash, ← String.toList_inj, ← hclosed, String.toList_append]
      rfl

/-! ### What a call is about -/

/-- The names of the resource of a call, below the directory of the server. -/
def endpoint : Call → List String
  | .fetch ⟨.feed id, _⟩ _ => ["reader", "feed", toString id]
  | .fetch ⟨.river _, _⟩ _ => ["reader", "river_stories"]
  | .mark .markRead _ | .mark .markAllRead _ => ["reader", "mark_story_hashes_as_read"]
  | .mark .markUnread _ => ["reader", "mark_story_hash_as_unread"]
  | .mark .save _ => ["reader", "mark_story_hash_as_starred"]
  | .mark .unsave _ => ["reader", "mark_story_hash_as_unstarred"]
  | .markContextRead _ => ["reader", "mark_feed_as_read"]

/-- What a call asks for in a query. A single feed is asked for in the path. -/
def asked? : Call → Option (List (String × String))
  | .fetch ⟨.feed _, _⟩ page => some [("page", toString page)]
  | .fetch ⟨.river ids, _⟩ page =>
    some (ids.map (fun id => ("feeds", toString id)) ++ [("page", toString page)])
  | _ => none

/-- What a call posts in a form. -/
def posted? : Call → Option (List (String × String))
  | .fetch .. => none
  | .mark _ id => some [("story_hash", id.text)]
  | .markContextRead context =>
    some (context.source.feeds.map fun id => ("feed_id", toString id))

/-- The last name of the path of a URL. -/
def lastName? (url : Url) : Option String :=
  match url.path with
  | .segments names => names.getLast?
  | .bare _ => none

/-- A request goes to the server at a URL, and says what a call is about. -/
structure Conveys (request : HttpRequest) (base : Url) (call : Call) : Prop where
  scheme : request.url.scheme = base.scheme
  username : request.url.username = base.username
  password : request.url.password = base.password
  host : request.url.host = base.host
  port : request.url.port = base.port
  path : request.url.path.text = closed base.path.text ++ "/".intercalate (endpoint call)
  lastName : lastName? request.url = (endpoint call).getLast?
  fragment : request.url.fragment = none
  query : request.url.query.map Url.readForm? = (asked? call).map some
  form : request.form.map Url.readForm? = (posted? call).map some

theorem isPlainName_toString (id : Int) : Url.IsPlainName (toString id).toList where
  ne_nil := Source.toList_repr_ne_nil id
  plain c hc := by
    have hdigits : ∀ n < 58, (Char.ofNat n).isDigit = true → Char.ofNat n ∈ Url.plainInPath := by
      decide
    rcases Source.mem_toList_repr hc with rfl | hdigit
    · decide
    · have hsmall : c.toNat < 58 := by
        have hle : c.val ≤ '9'.val := by simpa using (Bool.and_eq_true_iff.mp hdigit).2
        exact Nat.lt_succ_of_le hle
      rw [← Char.ofNat_toNat c] at hdigit ⊢
      exact hdigits _ hsmall hdigit

theorem isPlainName_of_mem_endpoint (call : Call) :
    ∀ name ∈ endpoint call, Url.IsPlainName name.toList := by
  match call with
  | .fetch ⟨.feed id, _⟩ _ =>
    refine List.forall_mem_cons.mpr ⟨by decide, List.forall_mem_cons.mpr ⟨by decide, ?_⟩⟩
    exact List.forall_mem_singleton.mpr (isPlainName_toString id)
  | .fetch ⟨.river _, _⟩ _ | .markContextRead _ =>
    exact List.forall_mem_cons.mpr ⟨by decide, List.forall_mem_singleton.mpr (by decide)⟩
  | .mark change _ =>
    cases change <;>
      exact List.forall_mem_cons.mpr ⟨by decide, List.forall_mem_singleton.mpr (by decide)⟩

theorem endpoint_ne_nil (call : Call) : endpoint call ≠ [] := by
  match call with
  | .fetch ⟨.feed _, _⟩ _ | .fetch ⟨.river _, _⟩ _ | .markContextRead _ => simp [endpoint]
  | .mark change _ => cases change <;> simp [endpoint]

namespace Server

/-- **A resource lies in the directory of the server.** -/
theorem resource_eq {s : Server} {directory names : List String}
    (hpath : s.url.path = .segments (directory ++ [""])) (hne : names ≠ [])
    (hnames : ∀ name ∈ names, Url.IsPlainName name.toList) :
    s.resource ("/".intercalate names) = .ok { s.url with
      path := .segments (directory ++ names), query := none, fragment := none } := by
  rw [resource, Url.join_intercalate hpath hne hnames]
  rfl

/-- **A request in full.** Only what stands behind the directory differs between calls. -/
theorem request_eq {s : Server} {directory : List String}
    (hpath : s.url.path = .segments (directory ++ [""])) (call : Call) :
    s.request call = .ok {
      url := { s.url with
        path := .segments (directory ++ endpoint call)
        query := (asked? call).map Url.form
        fragment := none }
      cookie := s.cookie
      form := (posted? call).map Url.form } := by
  have hresource : ∀ path, path = "/".intercalate (endpoint call) →
      s.resource path = .ok { s.url with
        path := .segments (directory ++ endpoint call), query := none, fragment := none } := by
    rintro path rfl
    exact resource_eq hpath (endpoint_ne_nil call) (isPlainName_of_mem_endpoint call)
  match call with
  | .fetch ⟨.feed id, _⟩ _ =>
    have htext :
        "reader/feed/" ++ toString id = "/".intercalate ["reader", "feed", toString id] := by
      rw [← String.toList_inj, Url.toList_intercalate_slash]
      simp
    rw [request, pageUrl, hresource _ htext]
    rfl
  | .fetch ⟨.river _, _⟩ _ =>
    rw [request, pageUrl, hresource "reader/river_stories" rfl]
    rfl
  | .mark change _ =>
    rw [request, hresource ("reader/" ++ changeName change) (by cases change <;> rfl)]
    rfl
  | .markContextRead _ =>
    rw [request, hresource "reader/mark_feed_as_read" rfl]
    rfl

theorem exists_of_ofUrl {text : String} {session : Option String} {options : Options}
    {server : Server} (h : Server.ofUrl text session options = .ok server) :
    ∃ base, Url.ofText text = .ok base ∧ Url.SchemeKind.ofScheme base.scheme = .web ∧
      server = { url := asDirectory base, session, options } := by
  rw [ofUrl] at h
  split at h
  · cases h
  · next url hurl =>
    cases h
    obtain ⟨hread, host, -, hscheme⟩ := Url.of_server hurl
    refine ⟨url, hread, ?_, rfl⟩
    rcases hscheme with hscheme | ⟨hscheme, -⟩ <;> rw [hscheme] <;> decide

/-- **Requests stay on the server, and say what the call is about.** A text that is accepted for a
server is a URL, and each call has a request. It has the scheme, the user, the host and the port
of that URL. Its path is the path of the URL, closed with a slash, and the names of the resource
behind it, the last of which is the id of a single feed that is read; a query and a fragment of
the URL are left behind. Read as a form, its query is the feeds of the river in their order and
then the number of the page, and what it posts is the id of the story, or the feeds of the context
in their order. -/
theorem request_conveys_call {text : String} {session : Option String} {options : Options}
    {server : Server} (h : Server.ofUrl text session options = .ok server) (call : Call) :
    ∃ base request, Url.ofText text = .ok base ∧ server.request call = .ok request ∧
      Conveys request base call := by
  obtain ⟨base, hbase, hweb, rfl⟩ : ∃ base, Url.ofText text = .ok base ∧
      Url.SchemeKind.ofScheme base.scheme = .web ∧
        server = { url := asDirectory base, session, options } := exists_of_ofUrl h
  obtain ⟨directory, hdirectory, hclosed⟩ := asDirectory_eq (Url.isRead_ofText hbase hweb)
  have hread : ∀ pairs : Option (List (String × String)),
      (pairs.map Url.form).map Url.readForm? = pairs.map some := by
    intro pairs
    cases pairs with
    | none => rfl
    | some pairs => exact congrArg some (Url.readForm?_form pairs)
  rw [hdirectory]
  exact ⟨base, _, hbase, request_eq rfl call, {
    scheme := rfl
    username := rfl
    password := rfl
    host := rfl
    port := rfl
    path := by rw [← hclosed, Url.text_append_names directory (endpoint_ne_nil call)]
    lastName := List.getLast?_append_of_ne_nil _ (endpoint_ne_nil call)
    fragment := rfl
    query := hread (asked? call)
    form := hread (posted? call) }⟩

/-- A story is saved, with marks of a form in its id, at a server that is an address. -/
theorem request_conveys_call_save :
    ∃ server, Server.ofUrl "https://user:pw@[::1]:8443/news/../base?x=1#f" none {} = .ok server ∧
      ∃ base request, Url.ofText "https://user:pw@[::1]:8443/news/../base?x=1#f" = .ok base ∧
        server.request (.mark .save ⟨"1:é &=+%"⟩) = .ok request ∧
          Conveys request base (.mark .save ⟨"1:é &=+%"⟩) :=
  ⟨_, rfl, request_conveys_call rfl _⟩

end Server

end Remote

end FeedReader
