import Sitemaps.Config.Config
import Sitemaps.Text.Quoted

/-! A resolver as its options describe it. Resolvers are the same if their options are. -/

namespace Sitemaps

structure Resolver where
  options : SitemapOptions
  /-- The directory in use, be it of the options or another. -/
  tempDir : String
  deriving Repr

namespace Resolver

def same (a b : Resolver) : Bool :=
  a.options.paths == b.options.paths && a.options.lenient == b.options.lenient &&
    a.options.tempDir.map pathParts == b.options.tempDir.map pathParts

def tempDirText : Option String → String
  | none => "None"
  | some path => s!"Some({Text.quotedPath path})"

def optionsText (options : SitemapOptions) : String :=
  let paths := ", ".intercalate (options.paths.map Text.quoted)
  "SitemapConfig \x7b " ++
    s!"paths: [{paths}], lenient: {options.lenient}, temp_dir: {tempDirText options.tempDir}" ++
    " \x7d"

def text (resolver : Resolver) : String :=
  "SitemapResolver \x7b " ++
    s!"config: {optionsText resolver.options}, temp_dir: {Text.quotedPath resolver.tempDir}, .." ++
    " \x7d"

end Resolver

end Sitemaps
