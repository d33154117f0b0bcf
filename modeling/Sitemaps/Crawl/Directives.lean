import Sitemaps.Crawl.State
import Sitemaps.Robots.Sitemaps

/-!
Reading the sitemaps that a site declares in its robots file. Whatever goes wrong, there are none.
-/

namespace Sitemaps.Robots

def location (root : Root) : String := root.locate "/robots.txt"

def notText : String := "stream did not contain valid UTF-8"

def Declared.notices (found : Declared) (location : String) : List Notice :=
  found.unusable.map (fun value => ⟨.debug, s!"Ignoring unusable robots.txt sitemap: {value}"⟩) ++
    [⟨.debug, s!"{found.sitemaps.length} sitemap(s) declared in {location}"⟩]

def unreadable (location reason : String) : List String × List Notice :=
  ([], [⟨.warning, s!"Cannot read {location}: {reason}"⟩])

def readBody (location : String) (response : Response) : List String × List Notice :=
  match response.broken, Text.Utf8.decode? response.body with
  | some reason, _ => unreadable location reason
  | none, none => unreadable location notText
  | none, some content =>
    let found := declared content location
    (found.sitemaps, found.notices location)

def readAnswer (root : Root) (result : Except FetchFault Response) : List String × List Notice :=
  match result with
  | .error fault => ([], [⟨.warning, s!"Cannot fetch {location root}: {fault.message}"⟩])
  | .ok response =>
    if response.isOk then readBody (location root) response
    else
      ([], [⟨.debug, s!"No robots.txt sitemaps for {root.text} (status {response.status})"⟩])

def fetch {σ : Type} [RootStore σ] (web : Web) (root : Root) (crawl : Crawl σ) :
    Option (List String) × Crawl σ :=
  match crawl.request web (location root) with
  | (none, crawl) => (none, crawl)
  | (some result, crawl) =>
    let (sitemaps, notices) := readAnswer root result
    (some sitemaps, crawl.note notices)

end Sitemaps.Robots
