import Sitemaps.Proofs.Scopes
import Sitemaps.Record.Database

/-!
What a sitemap can vouch for when it is read strictly: references on its own root, exactly if its
directory reaches beyond the host. The directory is text up to the last slash, and a slash before
the host may be the last one.
-/

namespace Sitemaps

namespace Url

/-- Whether reading a text keeps it up to a slash, whatever stands behind the slash. -/
def KeepsSlash (read : List Char → List Char) : Prop :=
  ∀ front, ∃ kept, read (front ++ ['/']) = kept ++ ['/'] ∧
    ∀ rest, ∃ more, read (front ++ '/' :: rest) = kept ++ '/' :: more

namespace KeepsSlash

theorem comp {first second : List Char → List Char} (before : KeepsSlash first)
    (after : KeepsSlash second) : KeepsSlash (second ∘ first) := by
  intro front
  obtain ⟨middle, alone, followed⟩ := before front
  obtain ⟨kept, stays, longer⟩ := after middle
  refine ⟨kept, by rw [Function.comp_apply, alone, stays], fun rest => ?_⟩
  obtain ⟨more, read⟩ := followed rest
  obtain ⟨last, done⟩ := longer more
  exact ⟨last, by rw [Function.comp_apply, read, done]⟩

variable {drops : Char → Bool}

theorem dropWhile_slash (stays : drops '/' = false) (front rest : List Char) :
    (front ++ '/' :: rest).dropWhile drops = front.dropWhile drops ++ '/' :: rest := by
  induction front with
  | nil => simp [stays]
  | cons c front ih =>
    rw [List.cons_append, List.dropWhile_cons, List.dropWhile_cons]
    split
    · exact ih
    · rfl

theorem takeWhile_slash (stays : drops '/' = false) (front rest : List Char) :
    (front ++ '/' :: rest).takeWhile drops = front.takeWhile drops := by
  induction front with
  | nil => simp [stays]
  | cons c front ih =>
    rw [List.cons_append, List.takeWhile_cons, List.takeWhile_cons, ih]

theorem dropWhile (stays : drops '/' = false) : KeepsSlash (List.dropWhile drops) :=
  fun front => ⟨front.dropWhile drops, dropWhile_slash stays front [],
    fun rest => ⟨rest, dropWhile_slash stays front rest⟩⟩

theorem dropEnd (stays : drops '/' = false) :
    KeepsSlash fun text => (text.reverse.dropWhile drops).reverse := by
  have kept (front rest : List Char) : ((front ++ '/' :: rest).reverse.dropWhile drops).reverse =
      front ++ '/' :: (rest.reverse.dropWhile drops).reverse := by
    rw [List.reverse_append, List.reverse_cons, List.append_assoc, List.singleton_append,
      dropWhile_slash stays]
    simp
  exact fun front => ⟨front, kept front [], fun rest => ⟨_, kept front rest⟩⟩

theorem filter {keeps : Char → Bool} (stays : keeps '/' = true) :
    KeepsSlash (List.filter keeps) := by
  intro front
  refine ⟨front.filter keeps, by simp [stays], fun rest => ?_⟩
  exact ⟨rest.filter keeps, by simp [stays]⟩

theorem cleaned : KeepsSlash cleaned := by
  have start : KeepsSlash (List.dropWhile isEdge) := dropWhile (by decide)
  have close : KeepsSlash fun text => (text.reverse.dropWhile isEdge).reverse :=
    dropEnd (by decide)
  have within : KeepsSlash (List.filter (!isBreak ·)) := filter (by decide)
  exact (start.comp close).comp within

theorem trimmed : KeepsSlash Text.trimChars := by
  have start : KeepsSlash (List.dropWhile Text.isBlank) := dropWhile (by decide)
  have close : KeepsSlash fun text => (text.reverse.dropWhile Text.isBlank).reverse :=
    dropEnd (by decide)
  exact start.comp close

end KeepsSlash

theorem drop_takeWhile (drops : Char → Bool) (text : List Char) :
    text.drop (text.takeWhile drops).length = text.dropWhile drops := by
  conv => lhs; arg 2; rw [← List.takeWhile_append_dropWhile (p := drops) (l := text)]
  exact List.drop_left

theorem scheme?_ok {c : Char} {text rest : List Char} {scheme : String} :
    scheme? (c :: text) = some (scheme, rest) ↔ c.isAlpha = true ∧
      (c :: text).dropWhile isSchemeChar = ':' :: rest ∧
      String.ofList (((c :: text).takeWhile isSchemeChar).map Char.toLower) = scheme := by
  simp only [scheme?, List.head?_cons, drop_takeWhile]
  split
  · rename_i inner colon
    rw [colon]
    split
    · rename_i alpha
      simp [alpha, and_comm]
    · rename_i other
      simp [other]
  · rename_i other
    constructor
    · intro read
      cases read
    · rintro ⟨-, colon, -⟩
      exact absurd colon (other rest)

theorem scheme?_slash {front rest : List Char} {scheme : String}
    (read : scheme? (front ++ ['/']) = some (scheme, rest)) :
    ∃ inner, rest = inner ++ ['/'] ∧
      ∀ more, scheme? (front ++ '/' :: more) = some (scheme, inner ++ '/' :: more) := by
  have stays : isSchemeChar '/' = false := by decide
  cases front with
  | nil => simp [scheme?, isSchemeChar] at read
  | cons c front =>
    rw [List.cons_append, scheme?_ok] at read
    obtain ⟨alpha, colon, name⟩ := read
    rw [← List.cons_append, KeepsSlash.dropWhile_slash stays] at colon
    rw [← List.cons_append, KeepsSlash.takeWhile_slash stays] at name
    rcases List.append_eq_cons_iff.mp colon with ⟨-, blank⟩ | ⟨inner, kept, tail⟩
    · simp at blank
    · refine ⟨inner, tail, fun more => ?_⟩
      rw [List.cons_append, scheme?_ok]
      refine ⟨alpha, ?_, ?_⟩
      · rw [← List.cons_append, KeepsSlash.dropWhile_slash stays, kept, List.cons_append]
      · rw [← List.cons_append, KeepsSlash.takeWhile_slash stays, name]

theorem afterSlashes_ok {scheme : String} {text : List Char} {url : Url} :
    afterSlashes scheme text = .ok url ↔ ∃ authority rest,
      readAuthority scheme text = .ok (authority, rest) ∧
      finish scheme (some authority) (pathAfterAuthority (kindOf scheme) (pathText rest))
        (afterPath rest) = url := by
  unfold afterSlashes
  cases readAuthority scheme text with
  | error fault => simp [bind, Except.bind]
  | ok read =>
    obtain ⟨authority, rest⟩ := read
    simp only [bind, Except.bind, Except.ok.injEq]
    constructor
    · rintro rfl
      exact ⟨authority, rest, rfl, rfl⟩
    · rintro ⟨_, _, ⟨rfl, rfl⟩, made⟩
      exact made

theorem fileRelative_scheme {text : List Char} {url : Url}
    (read : fileRelative none text = .ok url) : url.scheme = "file" := by
  have withHost {text : List Char} (read : fileWithHost text = .ok url) : url.scheme = "file" := by
    simp only [fileWithHost] at read
    split at read
    · cases read
      rfl
    · cases host : fileHost (text.takeWhile fun c => !(isSlash c || endsPath c)) with
      | error fault =>
        rw [host] at read
        cases read
      | ok host =>
        rw [host] at read
        cases read
        rfl
  unfold fileRelative at read
  split at read
  · split at read
    · exact withHost read
    · split at read <;> cases read <;> rfl
  · split at read <;> cases read <;> rfl
  · cases read
    rfl

theorem absolute_scheme {scheme : String} {text : List Char} {url : Url}
    (read : absolute none scheme text = .ok url) : url.scheme = scheme := by
  have slashes {text : List Char} (read : afterSlashes scheme text = .ok url) :
      url.scheme = scheme := by
    obtain ⟨authority, rest, -, rfl⟩ := afterSlashes_ok.mp read
    rfl
  unfold absolute at read
  cases kind : kindOf scheme with
  | file =>
    simp only [kind] at read
    rw [fileRelative_scheme read]
    unfold kindOf at kind
    split at kind
    · rename_i same
      exact same.symm
    · split at kind <;> cases kind
  | plain =>
    simp only [kind, plainUrl] at read
    split at read
    · exact slashes read
    · cases read
      rfl
    · cases read
      rfl
  | special =>
    simp only [kind] at read
    exact slashes read

def siteText (text : List Char) : List Char :=
  (cutUserinfo (text.takeWhile (!endsAuthority .special ·))).2

/-- Whether a host and a port are read from a text. -/
def Located (scheme : String) (text : List Char) (host : Host) (port : Option Nat) : Prop :=
  ∃ username password after,
    readAuthority scheme text = .ok (⟨username, password, host, port⟩, after)

theorem located_special {scheme : String} {text : List Char} {host : Host}
    {port : Option Nat} (special : kindOf scheme = .special) : Located scheme text host port ↔
    hostText false (siteText text) ≠ [] ∧
      specialHost (hostText false (siteText text)) = .ok host ∧
      port? scheme ((((siteText text).drop (hostText false (siteText text)).length).drop 1)
        |>.takeWhile (!isSlash ·)) = .ok port := by
  unfold Located readAuthority siteText
  extract_lets kind inside after
  simp only [kind, inside, special]
  obtain ⟨userinfo, hostAndPort⟩ := cutUserinfo (text.takeWhile (!endsAuthority .special ·))
  obtain ⟨username, password⟩ := credentials (userinfo.getD [])
  dsimp -zeta only
  by_cases blank : hostText false hostAndPort = []
  · simp only [blank, List.isEmpty_nil, Kind.isSpecial, Bool.and_self, if_true]
    split <;> simp [bind, Except.bind]
  · have named : (hostText false hostAndPort).isEmpty = false := by simpa using blank
    have nonblank : hostAndPort.isEmpty = false := by
      rcases hostAndPort with _ | ⟨c, rest⟩
      · exact absurd rfl blank
      · rfl
    simp only [named, nonblank, Kind.isSpecial, Bool.false_and, Bool.and_false, Bool.false_eq_true,
      if_false, if_true]
    cases specialHost (hostText false hostAndPort) with
    | error fault => simp [bind, Except.bind]
    | ok found =>
      cases port? scheme (((hostAndPort.drop (hostText false hostAndPort).length).drop 1).takeWhile
        (!isSlash ·)) with
      | error fault => simp [bind, Except.bind]
      | ok number => simp [bind, Except.bind, blank]

theorem located_slash {scheme : String} {front : List Char} {host : Host} {port : Option Nat}
    (special : kindOf scheme = .special)
    (located : Located scheme ((front ++ ['/']).dropWhile isSlash) host port) (more : List Char) :
    Located scheme ((front ++ '/' :: more).dropWhile isSlash) host port := by
  have ends : (fun c => !endsAuthority .special c) '/' = false := by decide
  cases kept : front.dropWhile isSlash with
  | nil =>
    have blank : (front ++ ['/']).dropWhile isSlash = [] := by
      rw [List.dropWhile_append, kept]
      rfl
    rw [located_special special, blank] at located
    exact absurd rfl located.1
  | cons c inner =>
    have start (more : List Char) :
        (front ++ '/' :: more).dropWhile isSlash = c :: inner ++ '/' :: more := by
      rw [List.dropWhile_append, kept]
      rfl
    have same : siteText (c :: inner ++ '/' :: more) = siteText (c :: inner ++ ['/']) := by
      rw [siteText, siteText, KeepsSlash.takeWhile_slash ends, KeepsSlash.takeWhile_slash ends]
    rw [start, located_special special] at located ⊢
    rw [same]
    exact located

end Url

theorem WebScheme.ofName?_eq {name : String} {web : WebScheme} :
    WebScheme.ofName? name = some web ↔ name = web.name := by
  unfold WebScheme.ofName?
  cases web <;> grind [WebScheme.name]

theorem WebScheme.special (web : WebScheme) : Url.kindOf web.name = .special := by
  cases web <;> rfl

theorem Url.absolute_web (web : WebScheme) (text : List Char) : Url.absolute none web.name text =
    Url.afterSlashes web.name (text.dropWhile Url.isSlash) := by
  rw [← Url.drop_takeWhile]
  cases web <;> rfl

namespace Root

theorem parse_ok {text : String} {site : Root} : parse text = .ok site ↔
    ∃ (web : WebScheme) (rest : List Char) (host : Url.Host) (port : Option Nat),
      Url.scheme? (Url.cleaned (Text.trimChars text.toList)) = some (web.name, rest) ∧
      Url.Located web.name (rest.dropWhile Url.isSlash) host port ∧ site = of web host port := by
  simp only [parse, Url.parse, Url.parseWith, Text.trim, String.toList_ofList]
  cases scheme : Url.scheme? (Url.cleaned (Text.trimChars text.toList)) with
  | none => simp
  | some read =>
    obtain ⟨scheme, rest⟩ := read
    constructor
    · intro parsed
      simp only at parsed
      split at parsed
      · cases parsed
      · rename_i url absolute
        unfold ofUrl at parsed
        split at parsed
        · cases parsed
        · rename_i web named
          rw [Url.absolute_scheme absolute, WebScheme.ofName?_eq] at named
          subst named
          rw [Url.absolute_web, Url.afterSlashes_ok] at absolute
          obtain ⟨authority, after, read, rfl⟩ := absolute
          cases parsed
          exact ⟨web, rest, authority.host, authority.port, rfl, ⟨_, _, after, read⟩, rfl⟩
    · rintro ⟨web, rest, host, port, same, ⟨username, password, after, located⟩, rfl⟩
      cases same
      have read := Url.afterSlashes_ok.mpr ⟨_, after, located, rfl⟩
      simp only [Url.absolute_web, read, ofUrl]
      simp only [WebScheme.ofName?_eq.mpr rfl, Url.finish]

theorem parse_slash {front : List Char} {site : Root}
    (read : parse (String.ofList (front ++ ['/'])) = .ok site) (more : List Char) :
    parse (String.ofList (front ++ '/' :: more)) = .ok site := by
  rw [parse_ok] at read ⊢
  obtain ⟨web, rest, host, port, scheme, located, same⟩ := read
  rw [String.toList_ofList] at scheme
  simp only [String.toList_ofList]
  obtain ⟨kept, alone, followed⟩ := Url.KeepsSlash.trimmed.comp Url.KeepsSlash.cleaned front
  obtain ⟨behind, cleaned⟩ := followed more
  rw [Function.comp_apply] at alone cleaned
  rw [alone] at scheme
  obtain ⟨inner, rfl, longer⟩ := Url.scheme?_slash scheme
  exact ⟨web, inner ++ '/' :: behind, host, port, by rw [cleaned, longer],
    Url.located_slash web.special located behind, same⟩

end Root

theorem directory_cut (location : String) : directory location = "" ∨
    ∃ front, directory location = String.ofList (front ++ ['/']) := by
  unfold directory
  have last := List.head?_dropWhile_not (· != '/') location.toList.reverse
  cases slash : location.toList.reverse.dropWhile (· != '/') with
  | nil => exact Or.inl rfl
  | cons c before =>
    rw [slash] at last
    have same : c = '/' := by simpa using last
    exact Or.inr ⟨before.reverse, by rw [List.reverse_cons, same]⟩

namespace Scope

theorem strict_passes_directory (location : String) :
    Scope.strict.passes (directory location) location = true := by
  simp [passes]

theorem strict_passes_self (location : String) :
    Scope.strict.passes location location = true := by
  have suffix := List.dropWhile_suffix (l := location.toList.reverse) (· != '/')
  rw [← List.reverse_prefix, List.reverse_reverse] at suffix
  simpa [passes, directory] using suffix

theorem strict_passes_root {location reference : String} {site : Root}
    (reaches : Root.parse (directory location) = .ok site)
    (passes : Scope.strict.passes reference location = true) :
    Root.parse reference = .ok site := by
  obtain ⟨more, same⟩ := List.isPrefixOf_iff_prefix.mp passes
  rcases directory_cut location with blank | ⟨front, cut⟩
  · rw [blank] at reaches
    cases reaches
  · rw [cut] at reaches same
    have longer := Root.parse_slash reaches more
    rw [String.toList_ofList, List.append_assoc, List.singleton_append] at same
    rw [same, String.ofList_toList] at longer
    exact longer

/-- Read strictly, a sitemap vouches for references on one root alone if its directory is on that
root, and only then. It lies on that root itself, and so do all pages that it announces. -/
theorem strict_vouches (location : String) (site : Root) :
    ((∀ reference, Scope.strict.passes reference location = true →
      Root.parse reference = .ok site) ↔ Root.parse (directory location) = .ok site) ∧
    (Root.parse (directory location) = .ok site → Root.parse location = .ok site ∧
      ∀ bytes failure polls page,
        .entry page ∈ (Sitemap.parse location .strict bytes failure polls).findings →
          (Page.ofEntry page).root = site.text) := by
  refine ⟨⟨fun vouches => vouches _ (strict_passes_directory location),
    fun reaches reference => strict_passes_root reaches⟩,
    fun reaches => ⟨strict_passes_root reaches (strict_passes_self location), ?_⟩⟩
  intro bytes failure polls page found
  have passes := Sitemap.parse_passing found
  simp only [Page.ofEntry, rootText, strict_passes_root reaches passes]

theorem strict_vouches_below :
    Root.parse (directory "https://[::1]/a/s.xml") = .ok ⟨"https://[::1]"⟩ ∧
    Root.parse "https://[::1]/a/s.xml" = .ok ⟨"https://[::1]"⟩ ∧
    ∀ reference, Scope.strict.passes reference "https://[::1]/a/s.xml" = true →
      Root.parse reference = .ok ⟨"https://[::1]"⟩ := by
  have reaches : Root.parse (directory "https://[::1]/a/s.xml") = .ok ⟨"https://[::1]"⟩ := rfl
  obtain ⟨vouches, own⟩ := strict_vouches "https://[::1]/a/s.xml" ⟨"https://[::1]"⟩
  exact ⟨reaches, (own reaches).1, vouches.mpr reaches⟩

/-- Without a path, the last slash of a location may stand before its host. -/
theorem strict_vouches_hostless :
    Root.parse "https://[::1]" = .ok ⟨"https://[::1]"⟩ ∧
    Scope.strict.passes "https://[::2]/" "https://[::1]" = true ∧
    Root.parse "https://[::2]/" = .ok ⟨"https://[::2]"⟩ :=
  ⟨rfl, by decide +kernel, rfl⟩

end Scope

end Sitemaps
