import FluentRegex.Proofs.Chain.WellFormed
import FluentRegex.Proofs.Chain.GroupTable
import FluentRegex.Proofs.Chain.Captures
import FluentRegex.Proofs.Chain.Delimiter
import FluentRegex.Proofs.Chain.SingleCall
import FluentRegex.Proofs.Representation
import FluentRegex.Proofs.Rejections
import FluentRegex.Proofs.Machine.Complete
import FluentRegex.Proofs.Expr.Language
import FluentRegex.Proofs.Widening
import FluentRegex.Proofs.Machine.Lines
import FluentRegex.Proofs.Text.Lines
import FluentRegex.Proofs.Chain.Lines
import FluentRegex.Proofs.Syntax.Extension.Places
import FluentRegex.Proofs.Syntax.Extension.Escapes
import FluentRegex.Proofs.Syntax.Extension.Classes
import FluentRegex.Proofs.Syntax.Extension.Openings
import FluentRegex.Proofs.Syntax.Extension.Modes
import FluentRegex.Proofs.Syntax.Extension.Steps
import FluentRegex.Proofs.Chain.Accepted
import FluentRegex.Proofs.Agreement
import FluentRegex.Proofs.Chain.Reports
import FluentRegex.Proofs.Chain.Written
import FluentRegex.Proofs.Chain.Repeated
import FluentRegex.Proofs.Chain.CountedText
import FluentRegex.Proofs.Chain.Copies
import FluentRegex.Proofs.Chain.EqualBounds
import FluentRegex.Proofs.Chain.TakenNames
import FluentRegex.Proofs.Syntax.Range
import FluentRegex.Proofs.Chain.Interval
import FluentRegex.Proofs.Chain.NamedGroup
import FluentRegex.Draft.Run
