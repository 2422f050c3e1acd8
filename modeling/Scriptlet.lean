import Scriptlet.CodeFrame
import Scriptlet.Command.Needs
import Scriptlet.Json.Reading
import Scriptlet.Main
import Scriptlet.Session.View
import Scriptlet.Proofs.Grammar.Basic
import Scriptlet.Proofs.Grammar.Steps
import Scriptlet.Proofs.Grammar.Soundness
import Scriptlet.Proofs.Grammar.Completeness
import Scriptlet.Proofs.Recovery
import Scriptlet.Proofs.Reading.Runs
import Scriptlet.Proofs.Reading.Progress
import Scriptlet.Proofs.Reading.Isolation
import Scriptlet.Proofs.Reading.Blame
import Scriptlet.Proofs.Reading.Resumption
import Scriptlet.Proofs.Output
import Scriptlet.Proofs.Stages
import Scriptlet.Proofs.Scanning.Lexicon
import Scriptlet.Proofs.Scanning.Comments
import Scriptlet.Proofs.Scanning.Lexemes
import Scriptlet.Proofs.Scanning.Extents
import Scriptlet.Proofs.Scanning.Partition
import Scriptlet.Proofs.Likeness.Basic
import Scriptlet.Proofs.Likeness.Reading
import Scriptlet.Proofs.Evaluation
import Scriptlet.Proofs.EvaluationRules
import Scriptlet.Proofs.Likeness.Running
import Scriptlet.Proofs.Layout.Respacing
import Scriptlet.Proofs.Layout.Segments
import Scriptlet.Proofs.Layout.Meaning
import Scriptlet.Proofs.Scanning.Lines
import Scriptlet.Proofs.Validation
import Scriptlet.Proofs.Composition
import Scriptlet.Proofs.Number.Rounding
import Scriptlet.Proofs.Number.Text
import Scriptlet.Proofs.Number.Overflow
import Scriptlet.Proofs.Number.Arithmetic
import Scriptlet.Proofs.Number.Grammar
import Scriptlet.Proofs.Reading.Spelling
import Scriptlet.Proofs.Reading.Statements
import Scriptlet.Proofs.Scanning.Written
import Scriptlet.Proofs.Scanning.Places
import Scriptlet.Proofs.Printing
import Scriptlet.Proofs.Form
import Scriptlet.Proofs.Layout.Tidying
import Scriptlet.Proofs.Layout.Tokens
import Scriptlet.Proofs.DocumentedFaults
import Scriptlet.Proofs.Server.Parameters
import Scriptlet.Proofs.Server.Documents
import Scriptlet.Proofs.Server.Responses
import Scriptlet.Proofs.Server.Framing
import Scriptlet.Proofs.Layout.Canonical
import Scriptlet.Proofs.Command.Formatting
import Scriptlet.Proofs.Command.Targets
import Scriptlet.Proofs.Command.Checking
import Scriptlet.Proofs.Command.Writing
import Scriptlet.Proofs.Command.Generation
import Scriptlet.Proofs.Text.Units
import Scriptlet.Proofs.Placement
import Scriptlet.Proofs.Frames
import Scriptlet.Proofs.Server.Diagnostics
import Scriptlet.Proofs.Session.Entries
import Scriptlet.Proofs.Session.Orderly
import Scriptlet.Proofs.Session.Recall
import Scriptlet.Proofs.Scanning.Spacing
import Scriptlet.Proofs.Activations
import Scriptlet.Proofs.Number.Reading
import Scriptlet.Proofs.Number.Words
import Scriptlet.Proofs.Number.RoundTrip
import Scriptlet.Proofs.Session.Completion
import Scriptlet.Proofs.LineSession
import Scriptlet.Proofs.Word.Place
import Scriptlet.Proofs.Word.Kind
import Scriptlet.Proofs.Wording
