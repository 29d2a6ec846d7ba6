import Wireframe.Command.Arguments
import Wireframe.Command.Basic
import Wireframe.Command.Host
import Wireframe.Command.Run
import Wireframe.Digest.Sha256
import Wireframe.History
import Wireframe.Issue
import Wireframe.Json.Basic
import Wireframe.Json.Decode
import Wireframe.Json.Doc
import Wireframe.Json.Fault
import Wireframe.Json.Reader
import Wireframe.Json.Scanner
import Wireframe.Json.Stable
import Wireframe.Json.Writer
import Wireframe.Limits
import Wireframe.Main
import Wireframe.Members
import Wireframe.ModelText
import Wireframe.Number.Binary64
import Wireframe.Number.Shortest
import Wireframe.Path
import Wireframe.Plan.Basic
import Wireframe.Plan.Complete
import Wireframe.Plan.Crop
import Wireframe.Plan.Decode
import Wireframe.Plan.Diff
import Wireframe.Plan.Explanation
import Wireframe.Plan.Intake
import Wireframe.Plan.Kind
import Wireframe.Plan.Markup
import Wireframe.Plan.Props
import Wireframe.Plan.Salvage
import Wireframe.Plan.Schema
import Wireframe.Prompt.Classify
import Wireframe.Prompt.Edit
import Wireframe.Prompt.Intent
import Wireframe.Prompt.Request
import Wireframe.Prompt.Template
import Wireframe.Proofs.ByteOrder
import Wireframe.Proofs.Canonical
import Wireframe.Proofs.Chatter
import Wireframe.Proofs.Completion
import Wireframe.Proofs.Conformance
import Wireframe.Proofs.Continuation
import Wireframe.Proofs.Cropping
import Wireframe.Proofs.Decoding
import Wireframe.Proofs.Differences
import Wireframe.Proofs.Digests
import Wireframe.Proofs.Editing
import Wireframe.Proofs.Entities
import Wireframe.Proofs.ExplanationDepth
import Wireframe.Proofs.ExplanationLines
import Wireframe.Proofs.Generators
import Wireframe.Proofs.Grammar
import Wireframe.Proofs.HistoryEnds
import Wireframe.Proofs.HistoryLines
import Wireframe.Proofs.HistoryLog
import Wireframe.Proofs.HistoryVersions
import Wireframe.Proofs.Intake
import Wireframe.Proofs.IssueOrder
import Wireframe.Proofs.KeyOrder
import Wireframe.Proofs.Keywords
import Wireframe.Proofs.LetterCase
import Wireframe.Proofs.Lines
import Wireframe.Proofs.Locality
import Wireframe.Proofs.MarkupReader
import Wireframe.Proofs.ModelAnswers
import Wireframe.Proofs.Performing
import Wireframe.Proofs.Placeholders
import Wireframe.Proofs.PlanTexts
import Wireframe.Proofs.Pointers
import Wireframe.Proofs.Precedence
import Wireframe.Proofs.Pretty
import Wireframe.Proofs.Rebuilding
import Wireframe.Proofs.Recording
import Wireframe.Proofs.Refinement
import Wireframe.Proofs.Replacing
import Wireframe.Proofs.Rereading
import Wireframe.Proofs.Returns
import Wireframe.Proofs.Rules
import Wireframe.Proofs.Salvaging
import Wireframe.Proofs.Scalars
import Wireframe.Proofs.Session
import Wireframe.Proofs.Spelling
import Wireframe.Proofs.StableTexts
import Wireframe.Proofs.Tags
import Wireframe.Proofs.TypedValues
import Wireframe.Proofs.Values
import Wireframe.Proofs.Ways
import Wireframe.Proofs.Wrapping
import Wireframe.Settings.Basic
import Wireframe.Settings.Load
import Wireframe.Settings.Placeholder
import Wireframe.Settings.Yaml.Basic
import Wireframe.Settings.Yaml.Cell
import Wireframe.Settings.Yaml.Scalar
import Wireframe.Settings.Yaml.Token
import Wireframe.Text.Blank
import Wireframe.Text.Casing
import Wireframe.Text.CasingTable
import Wireframe.Text.HiddenTable
import Wireframe.Text.Lines
import Wireframe.Text.Natural
import Wireframe.Text.Quoted
import Wireframe.Text.Search
