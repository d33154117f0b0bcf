import Sitemaps.Command.Arguments
import Sitemaps.Command.Report
import Sitemaps.Config.Load
import Sitemaps.Crawl.Coordinator
import Sitemaps.Record.Statistics

/-! The program: from arguments and the files of a folder to printed lines and an exit status. -/

namespace Sitemaps.Command

structure Folder where
  files : List (Place × List UInt8)
  databases : List (Place × Database)
  disk : Disk

structure Result where
  exit : Nat
  lines : List String
  folder : Folder

/-- The place of a path as seen from the folder; the first part of one from outside is a slash. -/
def place (path : String) : Place :=
  match pathParts path with
  | "." :: names => names
  | names => names

def Folder.file? (folder : Folder) (path : String) : Option (List UInt8) :=
  folder.files.lookup (place path)

def outside : List Place := [["/"], place systemTempDir]

def blankFile (place : Place) : File := ⟨place.dropLast, place.getLast?.getD "", []⟩

/-- The disk as staging finds it: the files of the folder are in the way. -/
def Folder.ground (folder : Folder) : Disk :=
  let taken := folder.files.map (·.1) ++ folder.databases.map (·.1)
  { folder.disk with
    directories := outside ++ folder.disk.directories
    files := taken.map blankFile ++ folder.disk.files }

def Folder.openDatabase (folder : Folder) (path : String) : Option Database :=
  if path.toList.contains (Char.ofNat 0) then none
  else if path = ":memory:" then some (.create .memory)
  else
    let place := place path
    match folder.databases.lookup place with
    | some database => some database.reopen
    | none =>
      if (folder.ground.node? place).isSome || path.toList.getLast? = some '/' then none
      else if folder.ground.node? place.dropLast = some .directory then some (.create .file)
      else none

def Folder.keep (folder : Folder) (path : String) (database : Database) : Folder :=
  if database.medium = .memory then folder
  else
    let others := folder.databases.filter fun entry => entry.1 != place path
    { folder with databases := (place path, database) :: others }

def failure (folder : Folder) : Result := ⟨1, [], folder⟩

def dryRun (folder : Folder) (config : Config) : Result :=
  match planRoots config.seeds with
  | .error _ => failure folder
  | .ok plans => ⟨0, dryRunLines config plans, folder⟩

def statisticsLines (database : Database) : Option (List String) :=
  match database.statistics with
  | .error _ => none
  | .ok statistics => some statistics.lines

def showStatistics (folder : Folder) (config : Config) : Result :=
  match folder.openDatabase config.databasePath with
  | none => failure folder
  | some database =>
    let folder := folder.keep config.databasePath database
    match statisticsLines database with
    | none => failure folder
    | some lines => ⟨0, [s!"Database: {config.databasePath}", ""] ++ lines, folder⟩

def staging (config : Config) : Staging :=
  let path := config.sitemap.tempDir.getD systemTempDir
  ⟨place path, path⟩

def resolve (folder : Folder) (web : Web) (config : Config) (fresh : Bool) : Result :=
  match folder.openDatabase config.databasePath with
  | none => failure folder
  | some database =>
    let folder := folder.keep config.databasePath database
    let (result, database) :=
      resolveAll config web (staging config) folder.ground database fresh
    let folder := folder.keep config.databasePath database
    match result with
    | .error _ => failure folder
    | .ok summary =>
      if summary.interrupted then ⟨0, [], folder⟩
      else
        match statisticsLines database with
        | none => failure folder
        | some lines => ⟨0, lines, folder⟩

def perform (folder : Folder) (web : Web) (options : Options) : Result :=
  match Config.load (folder.file? options.config) with
  | .error _ => failure folder
  | .ok config =>
    if options.dryRun then dryRun folder config
    else if options.stats then showStatistics folder config
    else resolve folder web config options.fresh

def execute (folder : Folder) (web : Web) (arguments : List String) : Result :=
  match Request.parse arguments with
  | .help => ⟨0, helpLines, folder⟩
  | .version => ⟨0, [versionLine], folder⟩
  | .misuse => ⟨2, [], folder⟩
  | .run options => perform folder web options

end Sitemaps.Command
