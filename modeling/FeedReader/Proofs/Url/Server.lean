import FeedReader.Proofs.Url.Address
import FeedReader.Proofs.Url.Path
import FeedReader.Url.Server

/-!
# Who may be the server

The session of the user goes to the server, so the server is asked through an encrypted connection
or is the machine itself. **A text is the URL of a server exactly if it is a URL of that kind**
(`FeedReader.Url.server_eq_ok_iff`), and then the URL is the one that has been read.

Whether a host is the machine itself is told by its text. The text of an address is read as that
address (`FeedReader.Url.Ipv4.ofBytesText?_text`, `FeedReader.Url.Ipv6.ofText?_text`), and the name
of a host is not read as an address at all: a name that ends in a number has been taken for an
address of four bytes before, and there are no colons and no brackets in a name. So **the text tells
what the host is** (`FeedReader.Url.isLoopbackText_iff`), in whatever way the address was spelled.
-/

namespace FeedReader.Url

variable {text : String} {url : Url}

/-! ### Hosts that have been read -/

/-- Whether a host is the machine that asks. -/
def Host.IsLoopback : Host → Prop
  | .name text => text = "localhost"
  | .ipv4 address => 127 * 2 ^ 24 ≤ address.value ∧ address.value < 128 * 2 ^ 24
  | .ipv6 address => address.pieces = [0, 0, 0, 0, 0, 0, 0, 1]

/-- What is known of a host of the web that has been read. -/
inductive Host.IsRead : Host → Prop
  | name (domain : List Char) (hplain : ∀ c ∈ domain, Domain.isForbidden c = false)
    (hnumber : Ipv4.endsInNumber domain = false) : IsRead (.name (String.ofList domain))
  | ipv4 (address : Ipv4) (hvalue : address.value < 2 ^ 32) : IsRead (.ipv4 address)
  | ipv6 (address : Ipv6) (haddress : address.IsAddress) : IsRead (.ipv6 address)

theorem not_isForbidden_of_ofBytes? {bs : List UInt8} {domain : List Char}
    (h : Domain.ofBytes? bs = some domain) : ∀ c ∈ domain, Domain.isForbidden c = false := by
  obtain ⟨decoded, -, h⟩ := Option.bind_eq_some_iff.mp h
  obtain ⟨labels, -, h⟩ := Option.bind_eq_some_iff.mp h
  simp only at h
  split at h
  · cases h
  · next hplain =>
    cases h
    simpa using hplain

theorem Host.IsRead.ofWeb {cs : List Char} {host : Host} (h : Host.ofWeb cs = .ok host) :
    host.IsRead := by
  unfold Host.ofWeb at h
  split at h
  · next inner _ =>
    obtain ⟨address, -, h⟩ := exists_of_bind_eq_ok h
    split at h
    · next address haddress =>
      cases h
      exact .ipv6 address (Ipv6.isAddress_of_ofText? haddress)
    · cases h
  · split at h
    · cases h
    · cases h
    · next domain hne hdomain =>
      split at h
      · split at h
        · next address haddress =>
          cases h
          exact .ipv4 address (Ipv4.value_lt_of_ofHost? haddress)
        · cases h
      · next hnumber =>
        cases h
        exact .name domain (not_isForbidden_of_ofBytes? hdomain) (Bool.eq_false_iff.mpr hnumber)

/-! ### The text of a host -/

theorem withoutBrackets_of_ne {host : List Char} (h : host.head? ≠ some '[') :
    withoutBrackets host = host := by
  unfold withoutBrackets
  split
  · exact absurd rfl h
  · rfl

theorem withoutBrackets_brackets (inner : List Char) :
    withoutBrackets ('[' :: inner ++ [']']) = inner := by
  have hlast : ('[' :: inner ++ [']']).getLast? = some ']' := List.getLast?_concat
  unfold withoutBrackets
  rw [hlast]
  exact List.dropLast_concat

theorem isLoopbackText_of_ne {host : List Char} (h : host ≠ "localhost".toList) :
    isLoopbackText host =
      match Ipv4.ofBytesText? (withoutBrackets host) with
      | some a => a.isLoopback
      | none =>
        match Ipv6.ofText? (withoutBrackets host) with
        | some a => a.isLoopback
        | none => false := by
  unfold isLoopbackText
  exact if_neg h

/-- A name is no address. -/
theorem isLoopbackText_name {domain : List Char}
    (hplain : ∀ c ∈ domain, Domain.isForbidden c = false)
    (hnumber : Ipv4.endsInNumber domain = false) :
    isLoopbackText domain = true ↔ domain = "localhost".toList := by
  have hallowed : ∀ c, Domain.isForbidden c = true → c ∉ domain := by
    intro c hforbidden hc
    rw [hplain c hc] at hforbidden
    cases hforbidden
  have hbracket : domain.head? ≠ some '[' := fun hhead =>
    hallowed '[' rfl (List.mem_of_mem_head? hhead)
  have hbytes : Ipv4.ofBytesText? domain = none := by
    refine Option.eq_none_iff_forall_ne_some.mpr fun a ha => ?_
    rw [Ipv4.endsInNumber_of_ofBytesText? ha] at hnumber
    cases hnumber
  have hpieces : Ipv6.ofText? domain = none := Ipv6.ofText?_of_no_colon (hallowed ':' rfl)
  constructor
  · intro hloopback
    by_contra hne
    rw [isLoopbackText_of_ne hne, withoutBrackets_of_ne hbracket, hbytes, hpieces] at hloopback
    cases hloopback
  · rintro rfl
    rfl

theorem isLoopbackText_ipv4 {address : Ipv4} (h : address.value < 2 ^ 32) :
    isLoopbackText address.text = address.isLoopback := by
  have hother : ∀ c, c.isDigit = false → c ≠ '.' → c ∉ address.text := by
    intro c hdigit hpoint hc
    rcases Ipv4.mem_text hc with heq | heq
    · rw [heq] at hdigit
      cases hdigit
    · exact hpoint heq
  have hname : address.text ≠ "localhost".toList := fun heq =>
    hother 'l' rfl (by decide) (heq ▸ List.mem_cons_self)
  have hbracket : address.text.head? ≠ some '[' := fun hhead =>
    hother '[' rfl (by decide) (List.mem_of_mem_head? hhead)
  rw [isLoopbackText_of_ne hname, withoutBrackets_of_ne hbracket, Ipv4.ofBytesText?_text h]

theorem isLoopbackText_ipv6 {address : Ipv6} (h : address.IsAddress) :
    isLoopbackText ('[' :: address.text ++ [']']) = address.isLoopback := by
  have hname : '[' :: address.text ++ [']'] ≠ "localhost".toList := fun heq => by
    cases (List.cons.inj heq).1
  have hpoint : '.' ∉ address.text := by
    intro hc
    rcases Ipv6.mem_text hc with heq | ⟨d, hd⟩
    · cases heq
    · cases hd
  rw [isLoopbackText_of_ne hname, withoutBrackets_brackets, Ipv4.ofBytesText?_of_no_point hpoint,
    Ipv6.ofText?_text h]

/-- **The text of a host tells whether it is the machine itself.** -/
theorem isLoopbackText_iff {host : Host} (h : host.IsRead) :
    isLoopbackText host.text = true ↔ host.IsLoopback := by
  cases h with
  | name domain hplain hnumber =>
    have hdomain : (String.ofList domain).toList = domain := String.toList_ofList
    rw [Host.text, hdomain, isLoopbackText_name hplain hnumber, Host.IsLoopback,
      ← String.toList_inj, hdomain]
  | ipv4 address hvalue =>
    rw [Host.text, isLoopbackText_ipv4 hvalue, Ipv4.isLoopback, beq_iff_eq, Host.IsLoopback]
    omega
  | ipv6 address haddress =>
    rw [Host.text, isLoopbackText_ipv6 haddress, Ipv6.isLoopback, beq_iff_eq, Host.IsLoopback]

/-! ### The host of a URL of the web -/

theorem host_readHost {scheme : String} {cs : List Char} {authority : Authority}
    (h : readHost .web scheme cs = .ok authority) :
    ∃ name host, Host.ofWeb name = .ok host ∧ authority.host = some host := by
  unfold readHost at h
  simp only at h
  split at h
  · rw [if_neg (by simp)] at h
    cases h
  · rw [if_neg (by simp)] at h
    obtain ⟨host, hhost, h⟩ := exists_of_bind_eq_ok h
    refine ⟨_, host, hhost, ?_⟩
    split at h
    · cases h
      rfl
    · obtain ⟨⟨port, rest⟩, -, h⟩ := exists_of_bind_eq_ok h
      cases h
      rfl

theorem host_readAuthority {scheme : String} {cs : List Char} {authority : Authority}
    (h : readAuthority .web scheme cs = .ok authority) :
    ∃ name host, Host.ofWeb name = .ok host ∧ authority.host = some host := by
  unfold readAuthority at h
  split at h
  · exact host_readHost h
  · obtain ⟨inner, hinner, h⟩ := exists_of_bind_eq_ok h
    split at h
    · cases h
    · obtain ⟨name, host, hname, hhost⟩ := host_readHost hinner
      cases h
      exact ⟨name, host, hname, hhost⟩

/-- **A URL of the web has a host**, which has been read as one of the web. -/
theorem host_ofText (h : ofText text = .ok url)
    (hweb : SchemeKind.ofScheme url.scheme = .web) :
    ∃ host, url.host = some host ∧ host.IsRead := by
  rw [ofText] at h
  split at h
  · cases h
  · next scheme rest hscheme =>
    split at h
    · rw [readWithHost] at h
      split at h
      · cases h
      · obtain ⟨authority, hauthority, hread⟩ := exists_of_bind_eq_ok h
        obtain ⟨name, host, hname, hhost⟩ := host_readAuthority hauthority
        cases hread
        exact ⟨host, hhost, Host.IsRead.ofWeb hname⟩
    · rw [scheme_readFile h] at hweb
      exact absurd hweb (by decide)
    · next hother =>
      rw [scheme_readOther h, hother] at hweb
      cases hweb

/-! ### The URL of the server -/

/-- Where there is a host, the scheme decides, and the text of the host. -/
theorem server_of_host {host : Host} (hread : ofText text = .ok url)
    (hhost : url.host = some host) :
    server text =
      if url.scheme = "https" then .ok url
      else if url.scheme = "http" then
        if isLoopbackText host.text then .ok url else .error .insecure
      else .error (.unsupportedScheme url.scheme) := by
  rw [server, hread]
  simp only [hhost]

/-- The URL of a server is the one that its text stands for. It has a host, and is of a scheme of
the web. -/
theorem of_server (h : server text = .ok url) :
    ofText text = .ok url ∧ ∃ host, url.host = some host ∧
      (url.scheme = "https" ∨ url.scheme = "http" ∧ isLoopbackText host.text = true) := by
  rw [server] at h
  split at h
  · cases h
  · next read hread =>
    split at h
    · cases h
    · next host hhost =>
      split at h
      · next hscheme =>
        cases h
        exact ⟨hread, host, hhost, .inl hscheme⟩
      · split at h
        · next hscheme =>
          split at h
          · next hloopback =>
            cases h
            exact ⟨hread, host, hhost, .inr ⟨hscheme, hloopback⟩⟩
          · cases h
        · cases h

/-- Without encryption the host decides. -/
theorem isLoopbackText_iff_of_http {host : Host} (hread : ofText text = .ok url)
    (hhost : url.host = some host) (hscheme : url.scheme = "http") :
    isLoopbackText host.text = true ↔ host.IsLoopback := by
  obtain ⟨host', hhost', hhosts⟩ := host_ofText hread (by rw [hscheme]; decide)
  obtain rfl : host = host' := Option.some.inj (hhost.symm.trans hhost')
  exact isLoopbackText_iff hhosts

/-- **A server is asked through an encrypted connection, or is the machine itself.** The URL of a
server is a URL with a host whose scheme is `https`, or is `http` if the host is the machine itself:
by its name, by an address of four bytes of which the first is 127, or by the address of eight
pieces that are zero but for a last one. Nothing of the URL is changed. However a host of the web is
spelled, its text tells whether it is the machine itself. -/
theorem server_eq_ok_iff :
    (∀ text url, server text = .ok url ↔
      ofText text = .ok url ∧ ∃ host, url.host = some host ∧
        (url.scheme = "https" ∨ url.scheme = "http" ∧ host.IsLoopback)) ∧
    (∀ cs host, Host.ofWeb cs = .ok host →
      (isLoopbackText host.text = true ↔ host.IsLoopback)) := by
  refine ⟨fun text url => ⟨fun h => ?_, ?_⟩, fun cs host h => isLoopbackText_iff (.ofWeb h)⟩
  · obtain ⟨hread, host, hhost, hscheme⟩ := of_server h
    refine ⟨hread, host, hhost, hscheme.imp_right fun ⟨hhttp, hloopback⟩ => ⟨hhttp, ?_⟩⟩
    exact (isLoopbackText_iff_of_http hread hhost hhttp).mp hloopback
  · rintro ⟨hread, host, hhost, hhttps | ⟨hhttp, hloopback⟩⟩
    · rw [server_of_host hread hhost, if_pos hhttps]
    · rw [server_of_host hread hhost, if_neg (by rw [hhttp]; decide), if_pos hhttp,
        if_pos ((isLoopbackText_iff_of_http hread hhost hhttp).mpr hloopback)]

/-- An address may be written with two parts, the first in base 16, and is that of the machine
itself. An address of eight pieces that ends in the four bytes of the machine itself is another
one. -/
theorem server_eq_ok_iff_respelled :
    server "http://0x7f.1/" = .ok {
        scheme := "http", host := some (.ipv4 ⟨0x7f000001⟩), path := .segments [""] } ∧
      Host.ofWeb "[::ffff:127.0.0.1]".toList = .ok (.ipv6 ⟨[0, 0, 0, 0, 0, 0xffff, 0x7f00, 1]⟩) ∧
      ¬isLoopbackText (Host.ipv6 ⟨[0, 0, 0, 0, 0, 0xffff, 0x7f00, 1]⟩).text = true := by
  have hread : ofText "http://0x7f.1/" = .ok {
      scheme := "http", host := some (.ipv4 ⟨0x7f000001⟩), path := .segments [""] } := by
    decide +kernel
  have hhost : Host.ofWeb "[::ffff:127.0.0.1]".toList =
      .ok (.ipv6 ⟨[0, 0, 0, 0, 0, 0xffff, 0x7f00, 1]⟩) := by
    decide +kernel
  refine ⟨(server_eq_ok_iff.1 _ _).mpr ⟨hread, _, rfl, .inr ⟨rfl, ?_⟩⟩, hhost, fun hloopback => ?_⟩
  · exact ⟨by decide, by decide⟩
  · have hpieces := (server_eq_ok_iff.2 _ _ hhost).mp hloopback
    exact absurd hpieces (by decide : [0, 0, 0, 0, 0, 0xffff, 0x7f00, 1] ≠ [0, 0, 0, 0, 0, 0, 0, 1])

end FeedReader.Url
