import Sitemaps.Config.Digest
import Sitemaps.Config.Validate
import Sitemaps.Text.Utf8
import Sitemaps.Toml.Document

/-! Loading a configuration from a text or from the bytes of a file. -/

namespace Sitemaps.Config

def parse (content : String) : Except Fault Config :=
  match (Toml.parse content).bind ofEntries? with
  | none => .error (.form content)
  | some config =>
    match check config with
    | .error fault => .error fault
    | .ok () => .ok config

def readText (file : Option (List UInt8)) : Except Fault String :=
  match file with
  | none => .error (.file .missing)
  | some bytes =>
    match Text.Utf8.decode? bytes with
    | none => .error (.file .notText)
    | some content => .ok content

def load (file : Option (List UInt8)) : Except Fault Config := (readText file).bind parse

def digest (file : Option (List UInt8)) : Except Fault String :=
  (readText file).map fun content => Digest.text (Text.Utf8.encode content)

def loadWithDigest (file : Option (List UInt8)) : Except Fault (Config × String) :=
  match readText file with
  | .error fault => .error fault
  | .ok content =>
    (parse content).map fun config => (config, Digest.text (Text.Utf8.encode content))

end Sitemaps.Config
