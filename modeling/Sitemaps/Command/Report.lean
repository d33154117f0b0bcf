import Sitemaps.Config.Config

/-! What a dry run tells: the configuration, and the locations that a run would try. -/

namespace Sitemaps.Command

def systemTempDir : String := "/tmp"

def versionLine : String := "sitemap-resolver 1.0.0"

def helpLines : List String :=
  ["Resolves site sitemaps for a crawl frontier", "",
    "Usage: sitemap-resolver [OPTIONS] <CONFIG>", "",
    "Arguments:",
    "  <CONFIG>  Path to TOML configuration file", "",
    "Options:",
    "  -v, --verbose...  Increase logging verbosity (-v, -vv, -vvv)",
    "  -q, --quiet       Suppress non-error output",
    "      --fresh       Forget previously resolved roots and resolve everything again",
    "      --dry-run     Validate config and show what would be resolved without fetching anything",
    "      --stats       Show statistics from the database and exit",
    "  -h, --help        Print help",
    "  -V, --version     Print version"]

def tempDirLine (options : SitemapOptions) : String :=
  match options.tempDir with
  | some path => s!"  Temp dir: {path}"
  | none => s!"  Temp dir: {systemTempDir} (system)"

def item (text : String) : String := s!"    * {text}"

/-- The locations that are tried for a root apart from those its robots file declares. -/
def listed (config : Config) (plan : RootPlan) : List String :=
  if plan.startOnly then plan.sitemaps else config.sitemap.paths.map plan.root.locate

def listedRobots (config : Config) (plan : RootPlan) : Option String :=
  if !plan.startOnly && config.crawler.robots then some (plan.root.locate "/robots.txt") else none

def planLines (config : Config) (plan : RootPlan) : List String :=
  let suffix := if plan.startOnly then " (start-URL sitemaps only)" else ""
  [s!"  - {plan.root.text}{suffix}"] ++ (listed config plan).map item ++
    ((listedRobots config plan).map fun robots => item s!"Sitemap: directives of {robots}").toList

def dryRunLines (config : Config) (plans : List RootPlan) : List String :=
  let paths := ", ".intercalate config.sitemap.paths
  let scope := if config.sitemap.lenient then "lenient" else "strict"
  ["=== Sitemap-Resolver Dry Run ===", "",
    "Sitemap Configuration:", s!"  Paths: {paths}", s!"  Scope: {scope}",
    tempDirLine config.sitemap, "",
    "Crawler:", s!"  Workers: {config.crawler.workers}",
    s!"  Read robots.txt: {config.crawler.robots}", "",
    "User Agent:", s!"  {config.userAgent.text}", "",
    "Output:", s!"  Database: {config.databasePath}", "",
    s!"Roots ({plans.length}):"] ++
    plans.flatMap (planLines config) ++
    ["", "✓ Configuration is valid",
      s!"✓ Would resolve {plans.length} roots from {config.seeds.length} seeds"]

end Sitemaps.Command
