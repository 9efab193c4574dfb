import Rulebook.Main
import Rulebook.Override.Encoding
import Rulebook.Registry.Session
import Rulebook.Proofs.Override.Effect
import Rulebook.Proofs.Override.Group
import Rulebook.Proofs.Configuration.Decoding
import Rulebook.Proofs.Json.Record
import Rulebook.Proofs.Rule.Encoding
import Rulebook.Proofs.Cli.Switch
import Rulebook.Proofs.Configuration.WithoutUser
import Rulebook.Proofs.Configuration.Resolutions
import Rulebook.Proofs.Override.Saying
import Rulebook.Proofs.Override.Places
import Rulebook.Proofs.Override.Export
import Rulebook.Proofs.Override.InForce
import Rulebook.Proofs.Override.Order
import Rulebook.Proofs.Conflict.Pairs
import Rulebook.Proofs.Conflict.Coverage
import Rulebook.Proofs.Conflict.Report
import Rulebook.Proofs.Conflict.Symmetry
import Rulebook.Proofs.Conflict.Ranking
import Rulebook.Proofs.Conflict.Grounds
import Rulebook.Proofs.Template.Passage
import Rulebook.Proofs.Template.Balance
import Rulebook.Proofs.Template.Counting
import Rulebook.Proofs.Template.Grammar
import Rulebook.Proofs.Template.WellFormed
import Rulebook.Proofs.Json.Lacking
import Rulebook.Proofs.Template.Scope
import Rulebook.Proofs.Template.Splicing
import Rulebook.Proofs.Template.Meaning
import Rulebook.Proofs.Template.Opaque
import Rulebook.Proofs.Template.Swallowing
import Rulebook.Proofs.Template.Origin
import Rulebook.Proofs.Template.Rescanning
import Rulebook.Proofs.Template.Absence
import Rulebook.Proofs.Prompt.Key
import Rulebook.Proofs.Prompt.Run
import Rulebook.Proofs.Prompt.Memory
import Rulebook.Proofs.Prompt.Reading
import Rulebook.Proofs.Prompt.Lasting
import Rulebook.Proofs.Prompt.Annotation
import Rulebook.Proofs.FileTree.Difference
import Rulebook.Proofs.Registry.Loading
import Rulebook.Proofs.Registry.History
import Rulebook.Proofs.Registry.Overlap
import Rulebook.Proofs.Text.Segments
import Rulebook.Proofs.Text.Lines
import Rulebook.Proofs.FileTree.Walk
import Rulebook.Proofs.FileTree.Content
import Rulebook.Proofs.Registry.Directory
import Rulebook.Proofs.Document.Sections
import Rulebook.Proofs.Document.Settings
import Rulebook.Proofs.Document.Layout
import Rulebook.Proofs.Document.RoundTrip
import Rulebook.Proofs.Configuration.Sections
import Rulebook.Proofs.Configuration.RoundTrip
import Rulebook.Proofs.Configuration.Leniency
import Rulebook.Proofs.Json.Merging
import Rulebook.Proofs.Configuration.Spellings
import Rulebook.Proofs.Cli.Listing
import Rulebook.Proofs.FileTree.Direct
import Rulebook.Proofs.Cli.Checking
import Rulebook.Proofs.Template.Mentions
import Rulebook.Proofs.Template.Needs
import Rulebook.Proofs.Template.Literal
import Rulebook.Proofs.Template.Leftover
import Rulebook.Proofs.Template.Comparison
import Rulebook.Proofs.Json.Paths
import Rulebook.Proofs.Json.Layering
import Rulebook.Proofs.Override.NormalForm
import Rulebook.Proofs.Override.Latest
import Rulebook.Proofs.Conflict.Balance
import Rulebook.Proofs.Template.Nesting
import Rulebook.Proofs.Template.Outermost
import Rulebook.Proofs.Template.Fidelity
import Rulebook.Proofs.Document.Accepted
import Rulebook.Proofs.Override.Table
import Rulebook.Proofs.Template.Laminar
