import Sitemaps.Crawl.Disk
import Sitemaps.Crawl.Web

/-!
Staging: the body of an answer is copied to a temporary file before it is parsed. The file is there
only if the whole body came through.
-/

namespace Sitemaps

inductive StageFault
  | fetch (location : String) (fault : FetchFault)
  | status (location : String) (got : Nat)
  | body (location : String) (reason : String)
  | staging (location : String) (directory : String) (fault : DiskFault)
  deriving DecidableEq, Repr

def StageFault.message : StageFault → String
  | .fetch location fault => s!"Cannot fetch sitemap: {location} ({fault.message})"
  | .status location got =>
    s!"Could not obtain sitemap: {location}. Expected status code 200, but got {got}."
  | .body location reason => s!"Cannot transfer sitemap body: {location} ({reason})"
  | .staging location directory fault =>
    s!"Cannot stage sitemap {location} in {directory}: {fault.message}"

/-- A temporary directory, and how its path is shown. -/
structure Staging where
  place : Place
  shown : String
  deriving DecidableEq, Repr

inductive Staged
  | file (file : File)
  | absent
  | failed (fault : StageFault)
  deriving DecidableEq, Repr

/-- The directory is made anew if it is gone, and before the body is read. -/
def Staging.save (staging : Staging) (disk : Disk) (location : String) (response : Response) :
    Staged × Disk :=
  match disk.makeDirectories staging.place with
  | .error fault => (.failed (.staging location staging.shown fault), disk)
  | .ok made =>
    match response.content with
    | .error reason => (.failed (.body location reason), made)
    | .ok content =>
      let (file, disk) := made.addTemporary staging.place content
      (.file file, disk)

def Staging.stage (staging : Staging) (disk : Disk) (location : String)
    (result : Except FetchFault Response) : Staged × Disk :=
  match result with
  | .error fault => (.failed (.fetch location fault), disk)
  | .ok response =>
    if response.isOk then staging.save disk location response
    else if response.status = 404 then (.absent, disk)
    else (.failed (.status location response.status), disk)

theorem Staging.stage_file {staging : Staging} {disk : Disk} {location : String}
    {result : Except FetchFault Response} {file : File}
    (staged : (staging.stage disk location result).1 = .file file) :
    ∃ response, result = .ok response ∧ response.isOk = true := by
  unfold Staging.stage at staged
  split at staged
  · cases staged
  · rename_i response
    split at staged
    · rename_i ok
      exact ⟨response, rfl, ok⟩
    · split at staged <;> cases staged

end Sitemaps
