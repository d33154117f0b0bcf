import Sitemaps.Command.Program

/-!
The command line. Requests find no transport here, and a database lasts as long as the program runs.
-/

open Sitemaps

/-- A web in which no location can be reached. -/
def unreachable : Web where
  answer _ _ := { result := .error (.connect "no transport") }
  answering := []
  silent _ _ _ := rfl

def readFile (path : String) : IO (List (Place × List UInt8)) := do
  try
    let bytes ← IO.FS.readBinFile path
    return [(Command.place path, bytes.toList)]
  catch _ => return []

def main (arguments : List String) : IO UInt32 := do
  let files ← match Command.Request.parse arguments with
    | .run options => readFile options.config
    | _ => pure []
  let result := Command.execute ⟨files, [], .empty⟩ unreachable arguments
  for line in result.lines do
    IO.println line
  return result.exit.toUInt32
