import ImportBoundary.Main
import ImportBoundary.Session.Watch
import ImportBoundary.Proofs.Build.Coherence
import ImportBoundary.Proofs.Build.Order
import ImportBoundary.Proofs.Build.Sharing
import ImportBoundary.Proofs.Import.Exports
import ImportBoundary.Proofs.Build.Atomicity
import ImportBoundary.Proofs.Build.Repetition
import ImportBoundary.Proofs.Files.History
import ImportBoundary.Proofs.Files.Resolution
import ImportBoundary.Proofs.Session.Cache
import ImportBoundary.Proofs.Build.Outcome
import ImportBoundary.Proofs.Import.Failures
import ImportBoundary.Proofs.Session.Run
import ImportBoundary.Proofs.Session.Batch
import ImportBoundary.Proofs.Import.Selection
import ImportBoundary.Proofs.Session.Checking
import ImportBoundary.Proofs.Session.Watching
import ImportBoundary.Proofs.Session.PassThrough
import ImportBoundary.Proofs.Path.Relative
import ImportBoundary.Proofs.Syntax.Places
import ImportBoundary.Proofs.Typing.Resolution
import ImportBoundary.Proofs.Import.Normalized
import ImportBoundary.Proofs.Typing.Parameters
import ImportBoundary.Proofs.Typing.Shadowing
import ImportBoundary.Proofs.Typing.Budget
import ImportBoundary.Proofs.Props.Verdict
import ImportBoundary.Proofs.Typing.Lookups
import ImportBoundary.Proofs.Typing.References
import ImportBoundary.Proofs.Import.Legible
import ImportBoundary.Proofs.Import.Members
import ImportBoundary.Proofs.Props.Usage
import ImportBoundary.Proofs.Props.Analysis
import ImportBoundary.Proofs.Props.Anchors
import ImportBoundary.Proofs.Json.Document
import ImportBoundary.Proofs.Json.Stripping
import ImportBoundary.Proofs.Json.Plain
import ImportBoundary.Proofs.Project.Loading
import ImportBoundary.Proofs.Syntax.Comments
import ImportBoundary.Proofs.Typing.Agreement
import ImportBoundary.Proofs.Typing.Comments
import ImportBoundary.Proofs.Files.Descent
import ImportBoundary.Proofs.Project.Discovery
import ImportBoundary.Proofs.Project.Exclusion
import ImportBoundary.Proofs.Import.Respelling
import ImportBoundary.Proofs.Project.Collection
import ImportBoundary.Proofs.Syntax.Rows
import ImportBoundary.Proofs.Import.Distinct
