import CourseAudit.Documentation
import CourseAudit.Main
import CourseAudit.Proofs.Accounting
import CourseAudit.Proofs.Attempts
import CourseAudit.Proofs.CheckNames
import CourseAudit.Proofs.FullPass
import CourseAudit.Proofs.Interference
import CourseAudit.Proofs.Isolation
import CourseAudit.Proofs.Listing
import CourseAudit.Proofs.Knowledge
import CourseAudit.Proofs.Totals
import CourseAudit.Proofs.Additivity
import CourseAudit.Proofs.Spelling
import CourseAudit.Proofs.Modes
import CourseAudit.Proofs.Provenance
import CourseAudit.Proofs.Stopping
import CourseAudit.Tool.CompilerVersion
import CourseAudit.Tool.Toolchain
import CourseAudit.Value.Json
import CourseAudit.Value.Json5
import CourseAudit.Proofs.Discovery
import CourseAudit.Proofs.Sections
import CourseAudit.Proofs.Enumeration
import CourseAudit.Proofs.Globs
import CourseAudit.Proofs.Relevance
import CourseAudit.Proofs.SourceOrder
import CourseAudit.Proofs.Survey
import CourseAudit.Proofs.Walks
import CourseAudit.Proofs.Ancestors
import CourseAudit.Proofs.Tidying
import CourseAudit.Proofs.RootSearch
import CourseAudit.Proofs.Resolution
import CourseAudit.Proofs.PatternNames
import CourseAudit.Proofs.Registration
import CourseAudit.Proofs.Extras
import CourseAudit.Proofs.Loading
import CourseAudit.Proofs.Embedding
import CourseAudit.Proofs.Citations
import CourseAudit.Proofs.Sharing
import CourseAudit.Proofs.Versions
import CourseAudit.Proofs.TableCells
import CourseAudit.Proofs.Announcements
import CourseAudit.Proofs.Causes
import CourseAudit.Proofs.Interleaving
