import Sitemaps.Robots.Line
import Sitemaps.Url.Parser

/-! The sitemaps that a robots file declares, whatever group of rules they stand in. -/

namespace Sitemaps.Robots

structure Declared where
  /-- In file order, without repetitions. -/
  sitemaps : List String
  /-- Values that form no URL. -/
  unusable : List String
  deriving DecidableEq, Repr

def resolve? (base : Option Url) (value : String) : Option Url :=
  match Url.parse value with
  | .ok url => some url
  | .error _ => base.bind fun base => (base.join value).toOption

def Declared.add (base : Option Url) (found : Declared) (value : String) : Declared :=
  match resolve? base value with
  | none => { found with unusable := found.unusable ++ [value] }
  | some url =>
    if found.sitemaps.contains url.text then found
    else { found with sitemaps := found.sitemaps ++ [url.text] }

def values (content : String) : List String :=
  (lines content.toList).filterMap fun line => (declared? line).map String.ofList

/-- Relative values are resolved against `base`, the URL of the file. -/
def declared (content base : String) : Declared :=
  (values content).foldl (Declared.add (Url.parse base).toOption) ⟨[], []⟩

end Sitemaps.Robots
