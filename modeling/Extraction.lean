import Extraction.Character.Class
import Extraction.Character.Folding
import Extraction.Character.Span
import Extraction.Character.Table.Blank
import Extraction.Character.Table.Digit
import Extraction.Character.Table.Fold
import Extraction.Character.Table.Hidden
import Extraction.Character.Table.Letter
import Extraction.Character.Table.Numeral
import Extraction.Character.Table.Word
import Extraction.Fault.Basic
import Extraction.Fault.Collection
import Extraction.Json.Basic
import Extraction.Json.Render
import Extraction.Number.Basic
import Extraction.Number.Layout
import Extraction.Number.Rounding
import Extraction.Number.Shortest
import Extraction.Outcome
import Extraction.Path
import Extraction.Pattern
import Extraction.Pattern.Assertion
import Extraction.Pattern.CharSet
import Extraction.Pattern.Program.Assembly
import Extraction.Pattern.Program.Basic
import Extraction.Pattern.Program.Literals
import Extraction.Pattern.Program.Search
import Extraction.Pattern.Program.Shared
import Extraction.Pattern.Reader.Basic
import Extraction.Pattern.Reader.Class
import Extraction.Pattern.Reader.Escape
import Extraction.Pattern.Reader.Expression
import Extraction.Pattern.Reader.Group
import Extraction.Pattern.Regex
import Extraction.Pattern.Utf8
import Extraction.Presence
import Extraction.Proofs.Adequacy
import Extraction.Proofs.Alternatives
import Extraction.Proofs.Building
import Extraction.Proofs.Calls
import Extraction.Proofs.Closures
import Extraction.Proofs.Composition
import Extraction.Proofs.Conformance
import Extraction.Proofs.Consolidation
import Extraction.Proofs.Contexts
import Extraction.Proofs.Correspondence
import Extraction.Proofs.Coupling
import Extraction.Proofs.Creation
import Extraction.Proofs.CutDocuments
import Extraction.Proofs.Descent
import Extraction.Proofs.Describing
import Extraction.Proofs.Descriptions
import Extraction.Proofs.Documents
import Extraction.Proofs.Entries
import Extraction.Proofs.Equality
import Extraction.Proofs.Equivariance
import Extraction.Proofs.ExactNumbers
import Extraction.Proofs.Expansion
import Extraction.Proofs.Filling
import Extraction.Proofs.Guards
import Extraction.Proofs.History
import Extraction.Proofs.Indifference
import Extraction.Proofs.Items
import Extraction.Proofs.KeyOrder
import Extraction.Proofs.KeyPaths
import Extraction.Proofs.Language
import Extraction.Proofs.Layers
import Extraction.Proofs.Locality
import Extraction.Proofs.Members
import Extraction.Proofs.Merging
import Extraction.Proofs.Origins
import Extraction.Proofs.Parts
import Extraction.Proofs.Places
import Extraction.Proofs.PrintedObjects
import Extraction.Proofs.Progress
import Extraction.Proofs.Reading
import Extraction.Proofs.Relaxation
import Extraction.Proofs.Relocation
import Extraction.Proofs.Reordering
import Extraction.Proofs.Repetition
import Extraction.Proofs.Replacement
import Extraction.Proofs.RewrittenKeys
import Extraction.Proofs.Runs
import Extraction.Proofs.Selection
import Extraction.Proofs.SelfReference
import Extraction.Proofs.Semantics
import Extraction.Proofs.SizeNotices
import Extraction.Proofs.Stock
import Extraction.Proofs.Termination
import Extraction.Proofs.Undeclared
import Extraction.Proofs.Unread
import Extraction.Proofs.Visits
import Extraction.Proofs.Wrapping
import Extraction.Schema.Basic
import Extraction.Schema.Debug
import Extraction.Schema.Describe
import Extraction.Schema.Extract
import Extraction.Schema.Fields
import Extraction.Schema.Memory
import Extraction.Schema.Node
import Extraction.Session
import Extraction.Text.Quoted
import Extraction.Traced
import Extraction.Validator
import Extraction.Value.Basic
import Extraction.Value.Debug
import Extraction.Value.Equality
import Extraction.Value.Json
import Extraction.Value.Merge
