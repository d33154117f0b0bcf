import Sitemaps.Config.Resolver
import Sitemaps.Main
import Sitemaps.Proofs.Halting
import Sitemaps.Proofs.Reachability
import Sitemaps.Proofs.Exclusion
import Sitemaps.Proofs.Completeness
import Sitemaps.Proofs.Truncation
import Sitemaps.Proofs.Written
import Sitemaps.Proofs.Encoding
import Sitemaps.Proofs.Markup
import Sitemaps.Proofs.RoundTrip
import Sitemaps.Proofs.Course
import Sitemaps.Proofs.Resuming
import Sitemaps.Proofs.Ensemble
import Sitemaps.Proofs.Schedules
import Sitemaps.Proofs.Histories
import Sitemaps.Proofs.Vouching
import Sitemaps.Proofs.Lockstep
import Sitemaps.Proofs.Lenience
import Sitemaps.Proofs.Panics
import Sitemaps.Proofs.Shutdown
import Sitemaps.Proofs.Elements
import Sitemaps.Proofs.Extensions
import Sitemaps.Proofs.Bounds
import Sitemaps.Proofs.Attendance
import Sitemaps.Proofs.Interchange
import Sitemaps.Proofs.Ledger
import Sitemaps.Proofs.Archives
import Sitemaps.Proofs.Wholeness
import Sitemaps.Proofs.Grouping
import Sitemaps.Proofs.Lookups
import Sitemaps.Proofs.Mapping
import Sitemaps.Proofs.Composition
import Sitemaps.Proofs.Insertions
import Sitemaps.Proofs.Domains
import Sitemaps.Proofs.Addresses
import Sitemaps.Proofs.Identity
import Sitemaps.Proofs.Counts
import Sitemaps.Proofs.Interruption
import Sitemaps.Proofs.Junctions
import Sitemaps.Proofs.Likeness
import Sitemaps.Proofs.Tags
import Sitemaps.Proofs.Sources
import Sitemaps.Proofs.Presentation
import Sitemaps.Proofs.Juxtaposition
import Sitemaps.Proofs.Announcements
import Sitemaps.Proofs.Calendar
import Sitemaps.Proofs.Numerals
import Sitemaps.Proofs.Stamps
import Sitemaps.Proofs.Readings
import Sitemaps.Proofs.Instants
import Sitemaps.Proofs.Origins
import Sitemaps.Proofs.Figures
import Sitemaps.Proofs.Plans
import Sitemaps.Proofs.Validation
import Sitemaps.Proofs.Declarations
import Sitemaps.Proofs.Lines
import Sitemaps.Proofs.Spellings
import Sitemaps.Proofs.DryRuns
