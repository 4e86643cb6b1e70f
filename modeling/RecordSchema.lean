import RecordSchema.Main
import RecordSchema.Proofs.Build.Alike
import RecordSchema.Proofs.Build.Decoration
import RecordSchema.Proofs.Build.Entries
import RecordSchema.Proofs.Build.Formatting
import RecordSchema.Proofs.Build.Identifiers
import RecordSchema.Proofs.Build.Lookup
import RecordSchema.Proofs.Build.Patterns
import RecordSchema.Proofs.Build.Providers
import RecordSchema.Proofs.Build.Reachable
import RecordSchema.Proofs.Build.Unshared
import RecordSchema.Proofs.Command.Spelling
import RecordSchema.Proofs.Description.ReadBack
import RecordSchema.Proofs.Description.Rewritten
import RecordSchema.Proofs.Draft.Roots
import RecordSchema.Proofs.Literal.Grammar
import RecordSchema.Proofs.Literal.Kept
import RecordSchema.Proofs.Literal.Rewritten
import RecordSchema.Proofs.Object.Edits
import RecordSchema.Proofs.Schema.Alternatives
import RecordSchema.Proofs.Schema.Text
