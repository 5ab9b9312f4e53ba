import SqlTemplate.Template
import SqlTemplate.Node.Substitution
import SqlTemplate.Node.Walk
import SqlTemplate.Proofs.Rendering.Bracketing
import SqlTemplate.Proofs.Rendering.Writing
import SqlTemplate.Proofs.Rendering.History
import SqlTemplate.Node.Shape
import SqlTemplate.Proofs.Grammar.Induction
import SqlTemplate.Proofs.Grammar.Scanning
import SqlTemplate.Proofs.Grammar.Shape
import SqlTemplate.Proofs.Pruning.Filled
import SqlTemplate.Proofs.Pruning.Agreement
import SqlTemplate.Proofs.Pruning.Operators
import SqlTemplate.Proofs.Pruning.Correctness
import SqlTemplate.Dialect.Lexeme
import SqlTemplate.Node.Everywhere
import SqlTemplate.Proofs.Inlining.Boundaries
import SqlTemplate.Proofs.Inlining.Literals
import SqlTemplate.Proofs.Inlining.Agreement
import SqlTemplate.Proofs.Inlining.Correctness
import SqlTemplate.Proofs.Grammar.Lookahead
import SqlTemplate.Proofs.Grammar.Settling
import SqlTemplate.Proofs.Grammar.Completeness
import SqlTemplate.Proofs.Grammar.Spelling
import SqlTemplate.Proofs.Grammar.Reading
import SqlTemplate.Proofs.Grammar.Respelling
import SqlTemplate.Proofs.Grammar.Correctness
import SqlTemplate.Proofs.Grammar.WellFormed
import SqlTemplate.Node.WellFormed
import SqlTemplate.Proofs.Rendering.Faults
import SqlTemplate.Rendering.Placeholders
import SqlTemplate.Proofs.Preparing.ColonNames
import SqlTemplate.Proofs.Preparing.Placeholders
import SqlTemplate.Proofs.Preparing.Correctness
import SqlTemplate.Node.Legible
import SqlTemplate.Proofs.Text.Uppercase
import SqlTemplate.Proofs.Grammar.Composition
import SqlTemplate.Proofs.Roundtrip.Names
import SqlTemplate.Proofs.Roundtrip.Literals
import SqlTemplate.Proofs.Roundtrip.Operators
import SqlTemplate.Proofs.Roundtrip.Operands
import SqlTemplate.Proofs.Roundtrip.Clauses
import SqlTemplate.Proofs.Roundtrip.Queries
import SqlTemplate.Proofs.Roundtrip.Correctness
import SqlTemplate.Node.Fragments
import SqlTemplate.Proofs.Rendering.Dependence
import SqlTemplate.Proofs.Preparing.Secrecy
import SqlTemplate.Proofs.Rendering.Substitution
import SqlTemplate.Rendering.Blame
import SqlTemplate.Proofs.Rendering.Failures
import SqlTemplate.Proofs.Walking.Lists
import SqlTemplate.Proofs.Rendering.Reports
import SqlTemplate.Proofs.Walking.Tours
import SqlTemplate.Proofs.Grammar.Relaying
import SqlTemplate.Proofs.Standing.Correctness
import SqlTemplate.Proofs.Standing.SelectItems
import SqlTemplate.Rendering.Height
import SqlTemplate.Proofs.Rendering.Depth
import SqlTemplate.Proofs.Rendering.Membership
import SqlTemplate.Proofs.Grammar.Collecting
import SqlTemplate.Rendering.Places
import SqlTemplate.Proofs.Rendering.Places
import SqlTemplate.Proofs.Rendering.Growth
import SqlTemplate.Dialect.LiteralForm
import SqlTemplate.Proofs.Literals.Reading
import SqlTemplate.Proofs.Literals.Forms
import SqlTemplate.Proofs.Grammar.Literals
import SqlTemplate.Proofs.Roundtrip.Identifiers
import SqlTemplate.Proofs.Roundtrip.Rereading
import SqlTemplate.Proofs.Walking.Removal
import SqlTemplate.Proofs.Walking.Substitution
import SqlTemplate.Proofs.Limits.Correctness
import SqlTemplate.Rendering.Supply
import SqlTemplate.Proofs.Rendering.Supply
import SqlTemplate.Node.BrokenTour
import SqlTemplate.Proofs.Walking.Failures
import SqlTemplate.Grammar.Signs
import SqlTemplate.Proofs.Literals.Signs
import SqlTemplate.Proofs.Rendering.Indentation
import SqlTemplate.Grammar.Pattern
import SqlTemplate.Proofs.Grammar.Quotes
