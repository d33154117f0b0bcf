import Sitemaps.Number.Decimal
import Sitemaps.Sitemap.LastMod

/-! A page that a sitemap announces. -/

namespace Sitemaps.Sitemap

structure Entry where
  reference : String
  lastModified : Option Time.Instant
  changeFrequency : Option String
  priority : Option Number.Single
  deriving DecidableEq, Repr

/-- An entry whose `url` element is still open. -/
structure Draft where
  reference : Option String := none
  lastModified : Option Time.Instant := none
  changeFrequency : Option String := none
  priority : Option Number.Single := none
  deriving DecidableEq, Repr

/-- A draft without a reference announces nothing. -/
def Draft.finish (draft : Draft) : Option Entry :=
  draft.reference.bind fun reference =>
    if reference.isEmpty then none
    else some ⟨reference, draft.lastModified, draft.changeFrequency, draft.priority⟩

end Sitemaps.Sitemap
