import Sitemaps.Config.Config
import Sitemaps.Unicode.Alphanumeric

/-! What a configuration must fulfil beyond its form. The first thing that is wrong is reported. -/

namespace Sitemaps.Config

inductive FileFault
  | missing
  | notText
  deriving DecidableEq, Repr

def FileFault.message : FileFault → String
  | .missing => "No such file or directory (os error 2)"
  | .notText => "stream did not contain valid UTF-8"

inductive Fault
  | file (fault : FileFault)
  | form (content : String)
  | invalid (reason : String)
  | invalidUrl (reason : String)
  deriving DecidableEq, Repr

/-- What is wrong with a text that is no configuration is told in the words of the TOML library. -/
def Fault.message (wording : String → String) : Fault → String
  | .file fault => s!"Failed to read config file: {fault.message}"
  | .form content => s!"Failed to parse TOML: {wording content}"
  | .invalid reason => s!"Validation error: {reason}"
  | .invalidUrl reason => s!"Invalid URL in config: {reason}"

def mostWorkers : Nat := 64

def ensure (holds : Bool) (reason : String) : Except Fault Unit :=
  if holds then .ok () else .error (.invalid reason)

def ensureUrl (text : String) (reason : String → String) : Except Fault Unit :=
  match Url.parse text with
  | .ok _ => .ok ()
  | .error fault => .error (.invalidUrl (reason fault.message))

def hasScheme (path : String) : Bool := 1 < (path.splitOn "://").length

def checkPath (path : String) : Except Fault Unit := do
  ensure (!(Text.trim path).isEmpty) "sitemap paths cannot contain empty entries"
  ensure (!hasScheme path) s!"sitemap path '{path}' must be relative to the site root"

def checkSitemap (options : SitemapOptions) : Except Fault Unit := do
  options.paths.forM checkPath
  ensure (options.tempDir != some "") "temp-dir cannot be empty"

def nameText (name : String) : Bool := name.toList.all fun c => Unicode.isAlphanumeric c || c == '-'

def checkEmail (email : String) : Except Fault Unit := do
  ensure (!email.isEmpty) "contact_email cannot be empty"
  let malformed := s!"Invalid email format: '{email}'"
  match email.splitOn "@" with
  | [user, domain] =>
    ensure (!user.isEmpty && !domain.isEmpty) malformed
    ensure (domain.toList.contains '.') s!"Invalid email domain: '{email}'"
  | _ => .error (.invalid malformed)

def checkUserAgent (agent : UserAgent) : Except Fault Unit := do
  ensure (!agent.name.isEmpty) "crawler_name cannot be empty"
  ensure (nameText agent.name)
    s!"crawler_name must contain only alphanumeric characters and hyphens, got '{agent.name}'"
  ensureUrl agent.url fun fault => s!"Invalid contact_url: {fault}"
  checkEmail agent.email

def checkCrawler (options : CrawlerOptions) : Except Fault Unit :=
  ensure (1 ≤ options.workers && options.workers ≤ mostWorkers)
    s!"workers must be between 1 and {mostWorkers}, got {options.workers}"

def checkSeedSitemap (seed : Seed) (root : Root) (sitemap : String) : Except Fault Unit := do
  ensureUrl sitemap fun fault => s!"Invalid sitemap URL '{sitemap}': {fault}"
  ensure (root.contains sitemap)
    s!"Sitemap '{sitemap}' is not on the root of seed '{seed.url}' ({root.text})"

/-- A seed needs a root, and its sitemaps lie on that root. -/
def checkSeed (seed : Seed) : Except Fault Unit :=
  match Root.parse seed.url with
  | .error fault => .error (.invalidUrl s!"Invalid seed URL '{seed.url}': {fault.message}")
  | .ok root => seed.sitemaps.forM (checkSeedSitemap seed root)

def check (config : Config) : Except Fault Unit := do
  checkSitemap config.sitemap
  checkUserAgent config.userAgent
  checkCrawler config.crawler
  ensure (!config.databasePath.isEmpty) "database_path cannot be empty"
  config.seeds.forM checkSeed

end Sitemaps.Config
