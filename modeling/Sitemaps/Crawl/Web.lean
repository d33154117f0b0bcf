import Sitemaps.Gzip.Archive
import Sitemaps.Text.Blank
import Sitemaps.Text.Ascii

/-! What the web answers. Only finitely many locations ever answer with a document. -/

namespace Sitemaps

inductive FetchFault
  | timeout
  | connect (message : String)
  | transport (message : String)
  deriving DecidableEq, Repr

def FetchFault.message : FetchFault → String
  | .timeout => "Request timeout"
  | .connect message => s!"Connection failed: {message}"
  | .transport message => message

structure Response where
  status : Nat
  contentType : Option String
  body : List UInt8
  /-- Why the transfer broke off after `body`, if it did. -/
  broken : Option String
  deriving DecidableEq, Repr

namespace Response

def missing : Response := ⟨404, none, [], none⟩

def isOk (response : Response) : Bool := response.status == 200

end Response

def gzipTypes : List String := ["application/gzip", "application/x-gzip"]

/-- The media type alone tells; parameters and letter case do not matter. -/
def isGzip (contentType : Option String) : Bool :=
  match contentType with
  | none => false
  | some text =>
    let essence := Text.trimChars (text.toList.takeWhile (· != ';'))
    gzipTypes.any fun known => known.toList == essence.map Char.toLower

def Response.content (response : Response) : Except String (List UInt8) :=
  if isGzip response.contentType then
    (Gzip.expandArchive response.body response.broken).mapError (·.message)
  else
    match response.broken with
    | some message => .error message
    | none => .ok response.body

/-- What one request leads to. A stop that arrives with it, arrives before the answer. -/
structure Answer where
  result : Except FetchFault Response
  stops : Bool := false
  panics : Bool := false

def Answer.delivers (answer : Answer) : Bool :=
  match answer.result with
  | .ok response => response.isOk
  | .error _ => false

structure Web where
  /-- The answer to the request for a location that was asked for so many times before. -/
  answer : String → Nat → Answer
  answering : List String
  silent : ∀ location, location ∉ answering → ∀ count, (answer location count).delivers = false

namespace Web

/-- The last answer is given over and over. -/
def pick (answers : List Answer) (count : Nat) : Answer :=
  (answers[min count (answers.length - 1)]?).getD { result := .ok .missing }

def ofTable (table : List (String × List Answer)) : Web where
  answer location := pick ((table.lookup location).getD [])
  answering := table.map (·.1)
  silent := by
    intro location absent count
    have unknown : table.lookup location = none := by
      rw [List.lookup_eq_none_iff]
      intro entry member
      have other : location ≠ entry.1 := fun same =>
        absent (List.mem_map.mpr ⟨entry, member, same.symm⟩)
      simpa using other
    simp [unknown, pick, Answer.delivers, Response.isOk, Response.missing]

end Web

end Sitemaps
