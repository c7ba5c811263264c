import Reckon.Main
import Reckon.Proofs.Cli.Flags
import Reckon.Proofs.Cli.Trimming
import Reckon.Proofs.Expr.Completion
import Reckon.Proofs.Expr.Diagnosis
import Reckon.Proofs.Expr.Evaluation
import Reckon.Proofs.Expr.Pipeline
import Reckon.Proofs.Expr.Printing
import Reckon.Proofs.Expr.Spacing
import Reckon.Proofs.Expr.Stream
import Reckon.Proofs.Operation.Canonical
import Reckon.Proofs.Operation.Tolerance
import Reckon.Proofs.Records
