/-! The directories and files below the scratch directory, as far as staging sees them. -/

namespace Sitemaps

/-- The names on the way from the scratch directory to a place. -/
abbrev Place := List String

structure File where
  directory : Place
  name : String
  content : List UInt8
  deriving DecidableEq, Repr

inductive DiskFault
  | exists
  | notDirectory
  deriving DecidableEq, Repr

def DiskFault.message : DiskFault → String
  | .exists => "File exists (os error 17)"
  | .notDirectory => "Not a directory (os error 20)"

structure Disk where
  directories : List Place
  files : List File
  /-- Temporary files created so far; their names never come back. -/
  created : Nat
  deriving DecidableEq, Repr

inductive Node
  | directory | file
  deriving DecidableEq, Repr

/-- Names of a path's parts; doubled slashes and the name `.` say nothing. -/
def placeOf (path : String) : Place :=
  (path.splitOn "/").filter fun name => name != "" && name != "."

def pathParts (path : String) : List String :=
  let later (names : List String) := names.filter fun name => name != "" && name != "."
  match path.splitOn "/" with
  | [] | [""] => []
  | "" :: names => "/" :: later names
  | first :: names => first :: later names

namespace Disk

def empty : Disk := ⟨[], [], 0⟩

def node? (disk : Disk) (place : Place) : Option Node :=
  if place = [] || disk.directories.contains place then some .directory
  else if disk.files.any fun file => file.directory ++ [file.name] = place then some .file
  else none

/-- Makes the directories named by the rest of a path below `parent`, where they are not there yet.
-/
def makeFrom (disk : Disk) (parent : Place) : List String → Except DiskFault Disk
  | [] => .ok disk
  | name :: rest =>
    let place := parent ++ [name]
    match disk.node? place with
    | some .directory => makeFrom disk place rest
    | some .file => .error (if rest.isEmpty then .exists else .notDirectory)
    | none => makeFrom { disk with directories := place :: disk.directories } place rest

def makeDirectories (disk : Disk) (place : Place) : Except DiskFault Disk := disk.makeFrom [] place

def filesIn (disk : Disk) (place : Place) : List File :=
  disk.files.filter (·.directory == place)

def temporaryName (number : Nat) : String := s!"sitemap-{number}.xml"

def addTemporary (disk : Disk) (place : Place) (content : List UInt8) : File × Disk :=
  let file := ⟨place, temporaryName disk.created, content⟩
  (file, { disk with files := file :: disk.files, created := disk.created + 1 })

def delete (disk : Disk) (file : File) : Disk := { disk with files := disk.files.erase file }

def clear (disk : Disk) (place : Place) : Disk :=
  { disk with
    directories := disk.directories.filter fun other => !place.isPrefixOf other
    files := disk.files.filter fun file => !place.isPrefixOf (file.directory ++ [file.name]) }

def block (disk : Disk) (place : Place) : Disk :=
  let cleared := disk.clear place
  let parent := place.dropLast
  let made := match cleared.makeDirectories parent with
    | .ok made => made
    | .error _ => cleared
  { made with files := ⟨parent, place.getLast?.getD "", []⟩ :: made.files }

end Disk

end Sitemaps
