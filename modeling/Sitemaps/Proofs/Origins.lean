import Sitemaps.Proofs.Identity

/-!
Roots as the identities of sites. The text of a root is read as the root itself, and so is every
location made under it; two URLs are on one root exactly if they name the same site.
-/

namespace Sitemaps

theorem WebScheme.name_injective {web web' : WebScheme} (same : web.name = web'.name) :
    web = web' := by
  have named : WebScheme.ofName? web.name = some web' := WebScheme.ofName?_eq.mpr same
  rw [WebScheme.ofName?_eq.mpr rfl] at named
  exact Option.some.inj named

namespace Url

def effectivePort (url : Url) : Option Nat :=
  (url.authority.bind (·.port)).or (defaultPort? url.scheme)

/-- Whether two URLs have the same scheme, host and port, whatever else they consist of. -/
structure SameSite (a b : Url) : Prop where
  scheme : a.scheme = b.scheme
  host : a.authority.map (·.host.text) = b.authority.map (·.host.text)
  port : a.effectivePort = b.effectivePort

/-- The site of a URL that was read: where its host ends can be told from its text, and its port is
not the default one. -/
structure OnSite (url : Url) (web : WebScheme) (host : Host) (port : Option Nat) : Prop where
  scheme : url.scheme = web.name
  authority : ∃ authority, url.authority = some authority ∧ authority.host = host ∧
    authority.port = port
  spelled : Spelled host host.text.toList
  shown : Shown web.name port

section Sites

variable {text : String} {a b url : Url} {web web' : WebScheme} {host host' : Host}
  {port port' : Option Nat}

theorem parse_onSite (read : parse text = .ok url) (named : url.scheme = web.name) :
    ∃ host port, url.OnSite web host port := by
  unfold parse parseWith at read
  dsimp only at read
  cases found : scheme? (cleaned text.toList) with
  | none =>
    rw [found] at read
    cases read
  | some parts =>
    obtain ⟨scheme, rest⟩ := parts
    rw [found] at read
    dsimp only at read
    have same := absolute_scheme read
    rw [named] at same
    subst same
    rw [absolute_web, afterSlashes_ok] at read
    obtain ⟨authority, after, located, rfl⟩ := read
    have site : Located web.name (rest.dropWhile isSlash) authority.host authority.port :=
      ⟨_, _, after, located⟩
    obtain ⟨-, host, port⟩ := (located_special web.special).mp site
    exact ⟨authority.host, authority.port, rfl, ⟨authority, rfl, rfl, rfl⟩,
      specialHost_spelled host, port?_shown port⟩

theorem OnSite.ofUrl (site : url.OnSite web host port) :
    Root.ofUrl url = .ok (Root.of web host port) := by
  obtain ⟨authority, same, rfl, rfl⟩ := site.authority
  simp only [Root.ofUrl, WebScheme.ofName?_eq.mpr site.scheme, same]

theorem Shown.ext {scheme : String} (shown : Shown scheme port) (shown' : Shown scheme port')
    (same : port.or (defaultPort? scheme) = port'.or (defaultPort? scheme)) : port = port' := by
  cases port with
  | none =>
    cases port' with
    | none => rfl
    | some n => exact absurd same (shown' n rfl).2
  | some m =>
    cases port' with
    | none => exact absurd same.symm (shown m rfl).2
    | some n => exact same

theorem OnSite.effectivePort (site : url.OnSite web host port) :
    url.effectivePort = port.or (defaultPort? web.name) := by
  obtain ⟨authority, same, -, rfl⟩ := site.authority
  rw [Url.effectivePort, same, site.scheme, Option.bind_some]

theorem OnSite.hostText (site : url.OnSite web host port) :
    url.authority.map (·.host.text) = some host.text := by
  obtain ⟨authority, same, rfl, -⟩ := site.authority
  rw [same, Option.map_some]

/-- The text of a root tells its scheme, host and port apart. -/
theorem OnSite.of_injective (first : a.OnSite web host port) (second : b.OnSite web' host' port')
    (same : Root.of web host port = Root.of web' host' port') :
    web = web' ∧ host.text = host'.text ∧ port = port' := by
  have texts : (Root.of web host port).text.toList = (Root.of web' host' port').text.toList := by
    rw [same]
  rw [Root.toList_of, Root.toList_of] at texts
  have webs : web = web' := by
    cases web <;> cases web' <;> first | rfl | cases texts
  subst webs
  obtain ⟨-, ends, read⟩ := portChars_shown first.shown
  obtain ⟨-, ends', read'⟩ := portChars_shown second.shown
  have sites : host.text.toList ++ portChars port = host'.text.toList ++ portChars port' := by
    simpa using texts
  have hosts := congrArg (Url.hostText false) sites
  rw [first.spelled.ends, second.spelled.ends, ends, ends', List.append_nil,
    List.append_nil] at hosts
  rw [hosts] at sites
  rw [List.append_cancel_left sites, read'] at read
  exact ⟨rfl, String.toList_injective hosts, (Except.ok.inj read).symm⟩

theorem OnSite.of_eq_iff (first : a.OnSite web host port) (second : b.OnSite web' host' port') :
    Root.of web host port = Root.of web' host' port' ↔ a.SameSite b := by
  constructor
  · intro same
    obtain ⟨rfl, hosts, rfl⟩ := first.of_injective second same
    constructor
    · rw [first.scheme, second.scheme]
    · rw [first.hostText, second.hostText, hosts]
    · rw [first.effectivePort, second.effectivePort]
  · intro same
    have names : web.name = web'.name := by rw [← first.scheme, same.scheme, second.scheme]
    obtain rfl := WebScheme.name_injective names
    have hosts : host.text = host'.text := by
      have hosts := same.host
      rw [first.hostText, second.hostText] at hosts
      exact Option.some.inj hosts
    have ports : port = port' := by
      have ports := same.port
      rw [first.effectivePort, second.effectivePort] at ports
      exact first.shown.ext second.shown ports
    rw [Root.of, Root.of, hosts, ports]

end Sites

end Url

namespace Root

variable {text : String} {root : Root}

theorem parse_onSite : parse text = .ok root ↔ ∃ url web host port,
    Url.parse (Text.trim text) = .ok url ∧ url.OnSite web host port ∧
      root = of web host port := by
  constructor
  · intro read
    unfold parse at read
    split at read
    · cases read
    · rename_i url parsed
      have own := read
      unfold ofUrl at own
      split at own
      · cases own
      · rename_i web named
        obtain ⟨host, port, site⟩ := Url.parse_onSite parsed (WebScheme.ofName?_eq.mp named)
        rw [site.ofUrl] at read
        exact ⟨url, web, host, port, parsed, site, (Except.ok.inj read).symm⟩
  · rintro ⟨url, web, host, port, parsed, site, rfl⟩
    rw [parse, parsed]
    exact site.ofUrl

/-- No URL of the web is read without a host. -/
theorem parse_hosted (text url : String) : parse text ≠ .error (.hostless url) := by
  intro failed
  unfold parse at failed
  split at failed
  · cases failed
  · rename_i read parsed
    cases named : WebScheme.ofName? read.scheme with
    | none =>
      rw [ofUrl, named] at failed
      cases failed
    | some web =>
      obtain ⟨host, port, site⟩ := Url.parse_onSite parsed (WebScheme.ofName?_eq.mp named)
      rw [site.ofUrl] at failed
      cases failed

theorem locate_slash (root : Root) (path : String) :
    ∃ more, root.locate path = String.ofList (root.text.toList ++ '/' :: more) := by
  unfold locate
  split
  · rename_i starts
    obtain ⟨more, written⟩ := List.head?_eq_some_iff.mp starts
    refine ⟨more, ?_⟩
    rw [← written, String.ofList_append, String.ofList_toList, String.ofList_toList]
  · refine ⟨path.toList, ?_⟩
    apply String.toList_injective
    simp

theorem contains_locate (read : parse text = .ok root) (path : String) :
    root.contains (root.locate path) = true := by
  obtain ⟨more, located⟩ := root.locate_slash path
  have slashed := parse_text_slashes read (List.forall_mem_singleton.mpr rfl)
  rw [contains, located, parse_slash slashed more]
  exact decide_eq_true rfl

/-- The text of a root is its identity: it is read as the same root, whatever path is put behind it
does not leave the root, and two URLs have one root exactly if they are on one site of the web. -/
theorem text_identifies :
    (∀ {text : String} {root : Root}, parse text = .ok root → parse root.text = .ok root ∧
      ∀ path, root.contains (root.locate path) = true) ∧
    ∀ first second : String,
      (∃ root, parse first = .ok root ∧ parse second = .ok root) ↔
        ∃ a b, Url.parse (Text.trim first) = .ok a ∧ Url.parse (Text.trim second) = .ok b ∧
          (∃ web : WebScheme, a.scheme = web.name) ∧ a.SameSite b := by
  refine ⟨fun read => ⟨parse_text read, contains_locate read⟩, ?_⟩
  intro first second
  constructor
  · rintro ⟨root, one, other⟩
    obtain ⟨a, web, host, port, parsed, site, rfl⟩ := parse_onSite.mp one
    obtain ⟨b, web', host', port', parsed', site', same⟩ := parse_onSite.mp other
    exact ⟨a, b, parsed, parsed', ⟨web, site.scheme⟩, (site.of_eq_iff site').mp same⟩
  · rintro ⟨a, b, parsed, parsed', ⟨web, named⟩, same⟩
    obtain ⟨host, port, site⟩ := Url.parse_onSite parsed named
    obtain ⟨host', port', site'⟩ := Url.parse_onSite parsed' (same.scheme.symm.trans named)
    have roots := (site.of_eq_iff site').mpr same
    exact ⟨of web host port, parse_onSite.mpr ⟨a, web, host, port, parsed, site, rfl⟩,
      parse_onSite.mpr ⟨b, web, host', port', parsed', site', roots⟩⟩

theorem text_identifies_loopback :
    parse "HTTP://[0:0::1]:80/news" = .ok ⟨"http://[::1]"⟩ ∧
      parse "http://[::1]" = .ok ⟨"http://[::1]"⟩ ∧
      contains ⟨"http://[::1]"⟩ (locate ⟨"http://[::1]"⟩ "@[::2]") = true ∧
      ∃ a b, Url.parse (Text.trim "HTTP://[0:0::1]:80/news") = .ok a ∧
        Url.parse (Text.trim "http:guest@[::0.0.0.1]") = .ok b ∧ a.SameSite b := by
  have read : parse "HTTP://[0:0::1]:80/news" = .ok ⟨"http://[::1]"⟩ := rfl
  have guest : parse "http:guest@[::0.0.0.1]" = .ok ⟨"http://[::1]"⟩ := rfl
  obtain ⟨again, under⟩ := text_identifies.1 read
  obtain ⟨a, b, first, second, -, same⟩ := (text_identifies.2 _ _).mp ⟨_, read, guest⟩
  exact ⟨read, again, under "@[::2]", a, b, first, second, same⟩

end Root

end Sitemaps
