import CardCatalog.Main
import CardCatalog.Proofs.Field.Canonical
import CardCatalog.Proofs.Term.Grammar
import CardCatalog.Proofs.Text.Case
import CardCatalog.Proofs.Token.Segmentation
import CardCatalog.Proofs.Term.Writing
import CardCatalog.Proofs.Query.Distinct
import CardCatalog.Proofs.Query.RoundTrip
import CardCatalog.Proofs.Filter.Fields
import CardCatalog.Proofs.Filter.Negation
import CardCatalog.Proofs.Diagnostic.SingleTerm
import CardCatalog.Proofs.Filter.AnyTerm
import CardCatalog.Proofs.Filter.Keywords
import CardCatalog.Proofs.Filter.Intersection
import CardCatalog.Proofs.Token.Lossless
import CardCatalog.Proofs.Query.Composition
import CardCatalog.Proofs.Filter.Groups
import CardCatalog.Proofs.Filter.WellFormed
import CardCatalog.Proofs.Query.Respelling
import CardCatalog.Proofs.Settings.RoundTrip
import CardCatalog.Proofs.Folder.Writing
import CardCatalog.Proofs.Settings.Failures
import CardCatalog.Proofs.Plan.Outcome
import CardCatalog.Proofs.Session.Steps
import CardCatalog.Proofs.Session.Saving
import CardCatalog.Proofs.CommandLine.Searches
import CardCatalog.Proofs.Session.Success
import CardCatalog.Proofs.Session.LastWrite
import CardCatalog.Proofs.Json.Pretty
import CardCatalog.Proofs.Json.Shown
import CardCatalog.Proofs.Integer.Recognition
import CardCatalog.Proofs.Term.Forms
import CardCatalog.Proofs.Filter.Growth
import CardCatalog.Proofs.Text.Joined
import CardCatalog.Proofs.Filter.JoinedKeywords
import CardCatalog.Proofs.Diagnostic.Account
import CardCatalog.Proofs.Field.Suggestion
import CardCatalog.Proofs.Session.Verbosity
import CardCatalog.Proofs.Table.Rows
import CardCatalog.Proofs.Table.Colors
import CardCatalog.Proofs.Table.Truncation
