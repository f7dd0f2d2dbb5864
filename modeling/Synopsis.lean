import Synopsis.Batch.Outline
import Synopsis.Files.Edit
import Synopsis.Language.Query
import Synopsis.Listing.Scan
import Synopsis.Settings.Format
import Synopsis.Proofs.Outline.Assembly
import Synopsis.Proofs.Outline.Acceptance
import Synopsis.Proofs.Outline.Reordering
import Synopsis.Proofs.Outline.Footprint
import Synopsis.Proofs.Listing.Agreement
import Synopsis.Proofs.Listing.Membership
import Synopsis.Proofs.Listing.Monotonicity
import Synopsis.Proofs.Json.Lexing
import Synopsis.Proofs.Json.RoundTrip
import Synopsis.Proofs.Json.Records
import Synopsis.Proofs.Settings.RoundTrip
import Synopsis.Proofs.Outline.Rejection
import Synopsis.Proofs.Outline.BodyStart
import Synopsis.Proofs.Outline.HeaderText
import Synopsis.Proofs.Outline.OpeningBrace
import Synopsis.Proofs.Outline.Accounting
import Synopsis.Proofs.Outline.Bounds
import Synopsis.Proofs.Outline.Growth
import Synopsis.Proofs.Outline.ReadBack
import Synopsis.Proofs.Outline.LineEndings
import Synopsis.Proofs.Outline.NodeRows
import Synopsis.Proofs.Settings.Extensions
import Synopsis.Proofs.Files.LastComponent
import Synopsis.Proofs.Language.Recognition
import Synopsis.Proofs.Batch.Pool
import Synopsis.Proofs.Batch.Results
import Synopsis.Proofs.Json.KnownFields
import Synopsis.Proofs.Settings.KnownFields
import Synopsis.Proofs.Listing.EntryForms
