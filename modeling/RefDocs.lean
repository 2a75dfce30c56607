import RefDocs.Command.Arguments
import RefDocs.Command.Build
import RefDocs.Command.Report
import RefDocs.Command.Run
import RefDocs.Compose.Basic
import RefDocs.Compose.Constants
import RefDocs.Compose.Member
import RefDocs.Compose.Package
import RefDocs.Compose.Signature
import RefDocs.Compose.TypePage
import RefDocs.Content.Basic
import RefDocs.Content.Containers
import RefDocs.Content.Depth
import RefDocs.Content.Tabs
import RefDocs.Content.Wrapper
import RefDocs.Content.Write
import RefDocs.Display.AnnotationText
import RefDocs.Display.Erased
import RefDocs.Display.TypeName
import RefDocs.Files.Error
import RefDocs.Files.Host
import RefDocs.Files.Path
import RefDocs.Files.Tree
import RefDocs.Generate
import RefDocs.Graph.Basic
import RefDocs.Graph.Build
import RefDocs.Graph.Error
import RefDocs.Graph.Relations
import RefDocs.Json.Read
import RefDocs.Json.Record
import RefDocs.Json.Value
import RefDocs.Json.Write
import RefDocs.Main
import RefDocs.Markup.Normalize
import RefDocs.Markup.Render
import RefDocs.Markup.Sentence
import RefDocs.Member.Anchor
import RefDocs.Member.Layout
import RefDocs.Page.Link
import RefDocs.Page.Naming
import RefDocs.Proofs.Command.Build
import RefDocs.Proofs.Command.Loading
import RefDocs.Proofs.Command.Writing
import RefDocs.Proofs.Compose.AlikeMembers
import RefDocs.Proofs.Compose.AlikePages
import RefDocs.Proofs.Compose.Basic
import RefDocs.Proofs.Compose.Member
import RefDocs.Proofs.Compose.Pages
import RefDocs.Proofs.Compose.ParameterLists
import RefDocs.Proofs.Compose.Sections
import RefDocs.Proofs.Compose.Summaries
import RefDocs.Proofs.Content.Children
import RefDocs.Proofs.Content.Columns
import RefDocs.Proofs.Content.Containers
import RefDocs.Proofs.Content.Cursor
import RefDocs.Proofs.Content.Delimiters
import RefDocs.Proofs.Content.ExactDepth
import RefDocs.Proofs.Content.FreshLines
import RefDocs.Proofs.Content.LineBreaks
import RefDocs.Proofs.Content.Nesting
import RefDocs.Proofs.Content.Overflow
import RefDocs.Proofs.Content.Placement
import RefDocs.Proofs.Content.Regrouping
import RefDocs.Proofs.Content.Sections
import RefDocs.Proofs.Content.ShownTables
import RefDocs.Proofs.Content.Slots
import RefDocs.Proofs.Content.TabGroups
import RefDocs.Proofs.Content.TabbedBlocks
import RefDocs.Proofs.Display.AnnotationLines
import RefDocs.Proofs.Display.ArrayValues
import RefDocs.Proofs.Display.EscapedNames
import RefDocs.Proofs.Display.HiddenAnnotations
import RefDocs.Proofs.Display.PackageParts
import RefDocs.Proofs.Display.Spellings
import RefDocs.Proofs.Files.Above
import RefDocs.Proofs.Files.Places
import RefDocs.Proofs.Files.Runs
import RefDocs.Proofs.Files.Texts
import RefDocs.Proofs.Graph.Alike
import RefDocs.Proofs.Graph.Ancestors
import RefDocs.Proofs.Graph.Building
import RefDocs.Proofs.Graph.Enclosing
import RefDocs.Proofs.Graph.Ownership
import RefDocs.Proofs.Graph.PackageTree
import RefDocs.Proofs.Graph.QualifiedName
import RefDocs.Proofs.Graph.TypeEdges
import RefDocs.Proofs.Graph.Walk
import RefDocs.Proofs.Json.Restating
import RefDocs.Proofs.Json.Writing
import RefDocs.Proofs.Markup.Balance
import RefDocs.Proofs.Markup.CodeSpans
import RefDocs.Proofs.Markup.FirstSentence
import RefDocs.Proofs.Markup.NormalForm
import RefDocs.Proofs.Markup.Pieces
import RefDocs.Proofs.Markup.RenderedTags
import RefDocs.Proofs.Markup.Sentences
import RefDocs.Proofs.Member.Anchor
import RefDocs.Proofs.Member.Arguments
import RefDocs.Proofs.Member.Reference
import RefDocs.Proofs.Member.Spelling
import RefDocs.Proofs.Page.AlikeLinks
import RefDocs.Proofs.Page.AlikeRuns
import RefDocs.Proofs.Page.Clashes
import RefDocs.Proofs.Page.ConstantTables
import RefDocs.Proofs.Page.Containment
import RefDocs.Proofs.Page.DeclarationOrder
import RefDocs.Proofs.Page.Faults
import RefDocs.Proofs.Page.Generated
import RefDocs.Proofs.Page.LineBreaks
import RefDocs.Proofs.Page.Members
import RefDocs.Proofs.Page.Overlap
import RefDocs.Proofs.Page.PackageTables
import RefDocs.Proofs.Page.Paths
import RefDocs.Proofs.Page.Redaction
import RefDocs.Proofs.Page.RelativeLink
import RefDocs.Proofs.Settings.Acceptance
import RefDocs.Proofs.Settings.Layers
import RefDocs.Proofs.Settings.Loaded
import RefDocs.Proofs.Settings.Overriding
import RefDocs.Proofs.Settings.References
import RefDocs.Proofs.Snapshot.Declarations
import RefDocs.Proofs.Snapshot.RoundTrip
import RefDocs.Proofs.Snapshot.Types
import RefDocs.Proofs.Text.CharacterReferences
import RefDocs.Proofs.Text.Cutting
import RefDocs.Proofs.Text.EscapedBrackets
import RefDocs.Proofs.Text.Links
import RefDocs.Proofs.Text.NameOrder
import RefDocs.Proofs.Text.Reserved
import RefDocs.Proofs.Text.Runs
import RefDocs.Settings.Basic
import RefDocs.Settings.File
import RefDocs.Settings.Load
import RefDocs.Settings.Template
import RefDocs.Snapshot.Basic
import RefDocs.Snapshot.Doc
import RefDocs.Snapshot.Read
import RefDocs.Snapshot.TypeRef
import RefDocs.Snapshot.Write
import RefDocs.Text.Alphanumeric
import RefDocs.Text.Blank
import RefDocs.Text.Escape
import RefDocs.Text.Numeral
import RefDocs.Text.Order
import RefDocs.Text.Split
import RefDocs.Toml.Quoted
import RefDocs.Toml.Read
import RefDocs.Toml.Scalar
import RefDocs.Toml.Value
