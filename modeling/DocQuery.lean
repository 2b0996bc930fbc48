import DocQuery.Main
import DocQuery.Response.Reader
import DocQuery.Proofs.Evaluation.Reference
import DocQuery.Proofs.Evaluation.Advance
import DocQuery.Proofs.Evaluation.Coherence
import DocQuery.Proofs.Evaluation.Selection
import DocQuery.Proofs.Evaluation.Value
import DocQuery.Proofs.Evaluation.Tally
import DocQuery.Proofs.Evaluation.Run
import DocQuery.Proofs.Evaluation.History
import DocQuery.Proofs.Expression.Grammar
import DocQuery.Proofs.Expression.Token
import DocQuery.Proofs.Expression.Pipeline
import DocQuery.Proofs.Expression.Acceptance
import DocQuery.Proofs.Expression.RoundTrip
import DocQuery.Proofs.Evaluation.Filling
import DocQuery.Proofs.Value.Fields
import DocQuery.Proofs.Evaluation.Conformance
import DocQuery.Proofs.Evaluation.Typing
import DocQuery.Proofs.Text.Search
import DocQuery.Proofs.Expression.Names
import DocQuery.Proofs.Tree.Slots
import DocQuery.Proofs.Program.Lookup
import DocQuery.Proofs.Evaluation.Splice
import DocQuery.Proofs.Evaluation.Occurrence
import DocQuery.Proofs.Evaluation.Projection
import DocQuery.Proofs.Tree.Replacement
import DocQuery.Proofs.Evaluation.Likeness
import DocQuery.Proofs.Evaluation.Independence
import DocQuery.Proofs.Expression.Place
import DocQuery.Proofs.Selection.Elements
import DocQuery.Proofs.Tree.Ancestry
import DocQuery.Proofs.XPath.Spread
import DocQuery.Proofs.Json.Address
import DocQuery.Proofs.Expression.Continuation
import DocQuery.Proofs.XPath.Composition
import DocQuery.Proofs.Evaluation.Termination
import DocQuery.Proofs.Evaluation.Nesting
import DocQuery.Proofs.Expression.Printing
import DocQuery.Proofs.Response.RoundTrip
import DocQuery.Proofs.Bounds.Parser
import DocQuery.Proofs.Bounds.Arena
import DocQuery.Proofs.Bounds.Path
import DocQuery.Proofs.Bounds.Operation
import DocQuery.Proofs.Bounds.Tables
import DocQuery.Proofs.Bounds.Evaluation
import DocQuery.Proofs.Expression.Delimitation
import DocQuery.Proofs.Program.Visibility
import DocQuery.Proofs.XPath.Elementwise
import DocQuery.Proofs.XPath.Attributes
import DocQuery.Proofs.XPath.Acceptance
import DocQuery.Proofs.Css.Order
import DocQuery.Proofs.Json.Composition
import DocQuery.Proofs.Selection.Text
import DocQuery.Proofs.Program.Numbering
import DocQuery.Proofs.Text.Template
import DocQuery.Proofs.Evaluation.Frame
import DocQuery.Proofs.Evaluation.Substitution
import DocQuery.Proofs.Evaluation.Aggregation
import DocQuery.Proofs.Value.Change
import DocQuery.Proofs.Value.Arrangement
import DocQuery.Proofs.Text.Digits
import DocQuery.Proofs.Text.Cut
import DocQuery.Proofs.Expression.Excerpt
import DocQuery.Proofs.Expression.Extent
import DocQuery.Proofs.Bounds.Progress
import DocQuery.Proofs.Bounds.Moves
import DocQuery.Proofs.Evaluation.Placeholder
import DocQuery.Proofs.Url.Resolution
