/-!
The directory rule: a sitemap vouches only for locations at or below its own directory, unless it is
read leniently.
-/

namespace Sitemaps

/-- Everything up to and including the last slash. -/
def directory (location : String) : String :=
  String.ofList (location.toList.reverse.dropWhile (· != '/')).reverse

inductive Scope
  | strict
  | lenient
  deriving DecidableEq, Repr, Hashable

def Scope.passes (scope : Scope) (reference location : String) : Bool :=
  match scope with
  | .lenient => true
  | .strict => (directory location).toList.isPrefixOf reference.toList

end Sitemaps
