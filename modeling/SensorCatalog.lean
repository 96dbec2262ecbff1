import SensorCatalog.Catalog.Basic
import SensorCatalog.Catalog.Build
import SensorCatalog.Catalog.Refusal
import SensorCatalog.Catalog.UnitIndex
import SensorCatalog.Check.Directory
import SensorCatalog.Check.Step
import SensorCatalog.Check.Tool
import SensorCatalog.ConstantsFile.Marker
import SensorCatalog.ConstantsFile.Render
import SensorCatalog.ConstantsFile.Splice
import SensorCatalog.Decimal.Shortest
import SensorCatalog.Disk
import SensorCatalog.Document.Comment
import SensorCatalog.Document.Definition
import SensorCatalog.Document.Reading
import SensorCatalog.HexId
import SensorCatalog.Json.Failure
import SensorCatalog.Json.Numbers
import SensorCatalog.Json.Reader
import SensorCatalog.Json.Record
import SensorCatalog.Json.Scalar
import SensorCatalog.Json.Skip
import SensorCatalog.Json.Strings
import SensorCatalog.Json.Value
import SensorCatalog.Label.NameRules
import SensorCatalog.Label.Parenthesis
import SensorCatalog.Label.Words
import SensorCatalog.Main
import SensorCatalog.Network
import SensorCatalog.Proofs.Catalog.Acceptance
import SensorCatalog.Proofs.Catalog.Agreement
import SensorCatalog.Proofs.Catalog.Entries
import SensorCatalog.Proofs.Catalog.ExactIndex
import SensorCatalog.Proofs.Catalog.GroupTokens
import SensorCatalog.Proofs.Catalog.Growth
import SensorCatalog.Proofs.Catalog.Ids
import SensorCatalog.Proofs.Catalog.Provenance
import SensorCatalog.Proofs.Catalog.QualifiedOrder
import SensorCatalog.Proofs.Catalog.SourceNames
import SensorCatalog.Proofs.Catalog.Step
import SensorCatalog.Proofs.Catalog.UnitIndex
import SensorCatalog.Proofs.ConstantsFile.Declared
import SensorCatalog.Proofs.ConstantsFile.Delimiter
import SensorCatalog.Proofs.ConstantsFile.Generated
import SensorCatalog.Proofs.ConstantsFile.Growth
import SensorCatalog.Proofs.ConstantsFile.Handwritten
import SensorCatalog.Proofs.ConstantsFile.ItemNames
import SensorCatalog.Proofs.ConstantsFile.Labels
import SensorCatalog.Proofs.ConstantsFile.Names
import SensorCatalog.Proofs.ConstantsFile.Outline
import SensorCatalog.Proofs.ConstantsFile.Preservation
import SensorCatalog.Proofs.ConstantsFile.Published
import SensorCatalog.Proofs.ConstantsFile.Reading
import SensorCatalog.Proofs.ConstantsFile.References
import SensorCatalog.Proofs.ConstantsFile.Remark
import SensorCatalog.Proofs.ConstantsFile.ScaleKind
import SensorCatalog.Proofs.ConstantsFile.Sections
import SensorCatalog.Proofs.ConstantsFile.Written
import SensorCatalog.Proofs.Document.Comment
import SensorCatalog.Proofs.Document.Written
import SensorCatalog.Proofs.Filling
import SensorCatalog.Proofs.HexId
import SensorCatalog.Proofs.Json.Fronts
import SensorCatalog.Proofs.Json.Layout
import SensorCatalog.Proofs.Json.Reads
import SensorCatalog.Proofs.Json.Written
import SensorCatalog.Proofs.Label.Alphabet
import SensorCatalog.Proofs.Label.Joined
import SensorCatalog.Proofs.Label.LetterCase
import SensorCatalog.Proofs.Label.NormalForm
import SensorCatalog.Proofs.Label.Parenthesis
import SensorCatalog.Proofs.Label.Runs
import SensorCatalog.Proofs.Label.SourceName
import SensorCatalog.Proofs.OneToOne
import SensorCatalog.Proofs.Regeneration.Appended
import SensorCatalog.Proofs.Regeneration.Atomicity
import SensorCatalog.Proofs.Regeneration.Effects
import SensorCatalog.Proofs.Regeneration.File
import SensorCatalog.Proofs.Regeneration.Lookups
import SensorCatalog.Proofs.Regeneration.MemberOrder
import SensorCatalog.Proofs.Regeneration.Sequence
import SensorCatalog.Proofs.Regeneration.Verdict
import SensorCatalog.Proofs.Source
import SensorCatalog.Proofs.Table
import SensorCatalog.Proofs.Text.Lines
import SensorCatalog.Proofs.Text.Shape
import SensorCatalog.Proofs.Text.Trailing
import SensorCatalog.Proofs.Text.Unquoted
import SensorCatalog.Proofs.Text.Utf8
import SensorCatalog.Proofs.Url.Authority
import SensorCatalog.Proofs.Url.Path
import SensorCatalog.Proofs.Url.Plain
import SensorCatalog.Proofs.Url.Slash
import SensorCatalog.Regeneration.Failure
import SensorCatalog.Regeneration.File
import SensorCatalog.Regeneration.Run
import SensorCatalog.Regeneration.Settings
import SensorCatalog.Source
import SensorCatalog.Table
import SensorCatalog.Text.Blank
import SensorCatalog.Text.Lines
import SensorCatalog.Text.Occurrence
import SensorCatalog.Text.Quoted
import SensorCatalog.Text.Transliteration
import SensorCatalog.Text.Utf8
import SensorCatalog.Unicode.Composition
import SensorCatalog.Unicode.Decomposition
import SensorCatalog.Unicode.Direction
import SensorCatalog.Unicode.Joining
import SensorCatalog.Unicode.Stretch
import SensorCatalog.Url.Basic
import SensorCatalog.Url.DomainCharacters
import SensorCatalog.Url.DomainName
import SensorCatalog.Url.Fault
import SensorCatalog.Url.Host
import SensorCatalog.Url.Objection
import SensorCatalog.Url.Path
import SensorCatalog.Url.Percent
import SensorCatalog.Url.Punycode
import SensorCatalog.Url.Reference
