import LayeredConfig.Conversion.Builtin
import LayeredConfig.Conversion.Collection
import LayeredConfig.Conversion.Converter
import LayeredConfig.Conversion.Descriptor
import LayeredConfig.Conversion.Idiom
import LayeredConfig.Conversion.Order
import LayeredConfig.Conversion.Registry
import LayeredConfig.Conversion.Table
import LayeredConfig.Expression.Expansion
import LayeredConfig.Expression.Template
import LayeredConfig.Json.Cursor
import LayeredConfig.Json.Numeral
import LayeredConfig.Json.Reader
import LayeredConfig.Json.Value
import LayeredConfig.Log.Event
import LayeredConfig.Lookup.Chain
import LayeredConfig.Lookup.Profile
import LayeredConfig.Lookup.Secret
import LayeredConfig.Lookup.Stages
import LayeredConfig.Net.Address
import LayeredConfig.Net.Reader
import LayeredConfig.Number.Binary
import LayeredConfig.Number.Decimal
import LayeredConfig.Number.Digits
import LayeredConfig.Number.Integer
import LayeredConfig.Number.Shortest
import LayeredConfig.Pattern.Segment
import LayeredConfig.Pattern.Trie
import LayeredConfig.Pattern.TrieText
import LayeredConfig.Resolve.Blueprint
import LayeredConfig.Resolve.Config
import LayeredConfig.Resolve.Error
import LayeredConfig.Resolve.Report
import LayeredConfig.Source.Basic
import LayeredConfig.Source.SourceSet
import LayeredConfig.Source.Wrapper
import LayeredConfig.Text.Ascending
import LayeredConfig.Text.Blank
import LayeredConfig.Text.EscapedList
import LayeredConfig.Text.Printable
import LayeredConfig.Text.Quoted
import LayeredConfig.Text.Record
import LayeredConfig.Text.Separated
import LayeredConfig.Time.Duration
import LayeredConfig.Proofs.Pattern.Contents
import LayeredConfig.Proofs.Pattern.Specificity
import LayeredConfig.Proofs.Expression.Limits
import LayeredConfig.Proofs.Lookup.Composition
import LayeredConfig.Proofs.Lookup.Variants
import LayeredConfig.Proofs.Lookup.LibraryStages
import LayeredConfig.Proofs.Lookup.Hiding
import LayeredConfig.Proofs.Resolve.Masking
import LayeredConfig.Proofs.Resolve.OwnStages
import LayeredConfig.Proofs.Expression.Printing
import LayeredConfig.Proofs.Expression.Substitution
import LayeredConfig.Proofs.Source.Snapshot
import LayeredConfig.Proofs.Conversion.Precedence
import LayeredConfig.Proofs.Conversion.History
import LayeredConfig.Proofs.Conversion.Remembering
import LayeredConfig.Proofs.Resolve.Optional
import LayeredConfig.Proofs.Resolve.ActiveProfiles
import LayeredConfig.Proofs.Lookup.SecretNames
import LayeredConfig.Proofs.Resolve.QualifiedSecrets
import LayeredConfig.Proofs.Text.Trimming
import LayeredConfig.Proofs.Text.EscapedList
import LayeredConfig.Proofs.Expression.Cycles
import LayeredConfig.Lookup.Thread
import LayeredConfig.Proofs.Expression.Cost
import LayeredConfig.Proofs.Lookup.Scopes
import LayeredConfig.Proofs.Lookup.Programs
import LayeredConfig.Proofs.Source.Winner
import LayeredConfig.Proofs.Expression.Unresolved
import LayeredConfig.Proofs.Resolve.AbsentReferences
import LayeredConfig.Proofs.Expression.EscapedDefaults
import LayeredConfig.Proofs.Resolve.RegisteredPatterns
import LayeredConfig.Proofs.Conversion.Elements
import LayeredConfig.Proofs.Text.Separators
import LayeredConfig.Proofs.Text.Separated
import LayeredConfig.Proofs.Pattern.Canonical
import LayeredConfig.Proofs.Pattern.History
import LayeredConfig.Proofs.Pattern.Nesting
import LayeredConfig.Proofs.Pattern.Reordering
import LayeredConfig.Proofs.Conversion.Restoring
import LayeredConfig.Proofs.Conversion.Locating
import LayeredConfig.Proofs.Resolve.Instances
import LayeredConfig.Proofs.Number.Reading
import LayeredConfig.Proofs.Conversion.Builtin
import LayeredConfig.Proofs.Time.Reading
import LayeredConfig.Proofs.Resolve.IntegerLists
import LayeredConfig.Proofs.Text.Ascending
import LayeredConfig.Proofs.Conversion.Padding
import LayeredConfig.Proofs.Resolve.Enumeration
import LayeredConfig.Proofs.Resolve.Reporting
import LayeredConfig.Proofs.Expression.Closing
import LayeredConfig.Proofs.Expression.Pairing
