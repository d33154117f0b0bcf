import Sitemaps.Crawl.State
import Sitemaps.Sitemap.Parse

/-!
The walk through the sitemaps of one root, depth first and step by step. Every step looks at the
state shared with other walks at most once, so that walks may run one after another or interleaved.
-/

namespace Sitemaps

structure Setting where
  web : Web
  staging : Staging
  scope : Scope
  /-- Paths to probe below a root. -/
  paths : List String

/-- A staged document that is being parsed. -/
structure Frame where
  document : Sitemap.Document
  file : File
  /-- What the last event announced and was not delivered yet. -/
  pending : List Sitemap.Finding
  ended : Bool

structure Walk where
  candidates : List String
  /-- Locations attempted, the latest first. -/
  visited : List String
  /-- The location to be fetched next, if the next step is a fetch. -/
  fetching : Option String
  /-- Documents being parsed, the innermost first. -/
  frames : List Frame

def Walk.start (candidates : List String) : Walk := ⟨candidates, [], none, []⟩

inductive Turn (σ : Type) where
  | onward (walk : Walk) (crawl : Crawl σ)
  | finished (visited : List String) (crawl : Crawl σ)
  | panicked (crawl : Crawl σ)

namespace Walk

variable {σ : Type} [RootStore σ] [Sink σ]

def unwind (walk : Walk) (crawl : Crawl σ) : Crawl σ :=
  { crawl with disk := walk.frames.foldl (fun disk frame => disk.delete frame.file) crawl.disk }

/-- A location is attempted once per walk, and not after a stop. -/
def visit (walk : Walk) (location : String) (crawl : Crawl σ) : Walk × Crawl σ :=
  if walk.visited.contains location then (walk, crawl)
  else if crawl.stopped then
    (walk, crawl.debug
      s!"Skipping resolution of sitemap location (stop requested): {location}")
  else
    ({ walk with fetching := some location }, crawl.info s!"Resolving sitemap: {location}")

def descend (walk : Walk) (setting : Setting) (location : String) (file : File) : Walk :=
  let document := Sitemap.Document.ofBytes location setting.scope file.content none
  { walk with frames := ⟨document, file, [], false⟩ :: walk.frames }

def attempt (walk : Walk) (location : String) : Walk :=
  { walk with visited := location :: walk.visited, fetching := none }

def fetch (walk : Walk) (setting : Setting) (location : String) (crawl : Crawl σ) : Turn σ :=
  match crawl.request setting.web location with
  | (none, crawl) => .panicked (walk.unwind crawl)
  | (some result, crawl) =>
    let (staged, disk) := setting.staging.stage crawl.disk location result
    let crawl := { crawl with disk := disk }
    match staged with
    | .file file => .onward (walk.descend setting location file) crawl
    | .absent => .onward walk (crawl.debug s!"Sitemap not found : {location}")
    | .failed fault => .onward walk (crawl.error fault.message)

def deliver (walk : Walk) (location : String) (finding : Sitemap.Finding) (crawl : Crawl σ) :
    Turn σ :=
  match finding with
  | .child child =>
    let (walk, crawl) := walk.visit child crawl
    .onward walk crawl
  | .entry entry =>
    match crawl.accept entry with
    | none => .panicked (walk.unwind crawl)
    | some crawl => .onward walk crawl
  | .badDate value => .onward walk (crawl.info s!"Invalid sitemap date: {value}")
  | .badPriority value => .onward walk (crawl.info s!"Invalid sitemap priority: {value}")
  | .outOfScope reference =>
    .onward walk (crawl.debug
      ("Sitemap URL out of scope for location directory. " ++
        s!"URL: {reference}  Location directory: {directory location}"))

def leave (walk : Walk) (file : File) (crawl : Crawl σ) : Turn σ :=
  .onward walk { crawl with disk := crawl.disk.delete file }

def parsedText (document : Sitemap.Document) : String :=
  s!"Sitemap parsed: {document.location} ({document.emitted} URLs, " ++
    s!"{document.outOfScope} out of scope, {document.children} child sitemaps)"

def malformedText (location : String) (fault : Xml.Fault) : String :=
  s!"Cannot parse sitemap: {location} -- Likely an invalid sitemap XML format " ++
    s!"causing a parsing error (actual error: {fault.message})"

/-- Polls for a stop, then reads the next event of the innermost document. -/
def read (walk : Walk) (frame : Frame) (outer : List Frame) (crawl : Crawl σ) : Turn σ :=
  let left := { walk with frames := outer }
  let location := frame.document.location
  if crawl.stopped then
    left.leave frame.file (crawl.debug
      s!"Sitemap not entirely parsed due to crawler being stopped: {location}")
  else
    match frame.document.next with
    | .failed fault => left.leave frame.file (crawl.error (malformedText location fault))
    | .finished document findings =>
      .onward { walk with frames := ⟨document, frame.file, findings, true⟩ :: outer } crawl
    | .onward document findings =>
      .onward { walk with frames := ⟨document, frame.file, findings, false⟩ :: outer } crawl

def step (walk : Walk) (setting : Setting) (crawl : Crawl σ) : Turn σ :=
  match walk.fetching, walk.frames, walk.candidates with
  | some location, _, _ => (walk.attempt location).fetch setting location crawl
  | none, [], [] => .finished walk.visited crawl
  | none, [], location :: rest =>
    let (walk, crawl) := { walk with candidates := rest }.visit location crawl
    .onward walk crawl
  | none, frame :: outer, _ =>
    match frame.pending with
    | finding :: rest =>
      { walk with frames := { frame with pending := rest } :: outer }.deliver
        frame.document.location finding crawl
    | [] =>
      if frame.ended then
        { walk with frames := outer }.leave frame.file (crawl.debug (parsedText frame.document))
      else walk.read frame outer crawl

end Walk

end Sitemaps
