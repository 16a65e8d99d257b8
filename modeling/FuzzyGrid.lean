import FuzzyGrid.Main
import FuzzyGrid.Proofs.Command.Distinct
import FuzzyGrid.Proofs.Conversion.Category
import FuzzyGrid.Proofs.Conversion.Complement
import FuzzyGrid.Proofs.Conversion.Interpolation
import FuzzyGrid.Proofs.Conversion.Inverse
import FuzzyGrid.Proofs.Conversion.Listing
import FuzzyGrid.Proofs.Conversion.Rescaling
import FuzzyGrid.Proofs.Conversion.Thresholds
import FuzzyGrid.Proofs.Conversion.Units
import FuzzyGrid.Proofs.Evaluation.Accountability
import FuzzyGrid.Proofs.Evaluation.Effects
import FuzzyGrid.Proofs.Evaluation.History
import FuzzyGrid.Proofs.Evaluation.Locality
import FuzzyGrid.Proofs.Evaluation.Precursors
import FuzzyGrid.Proofs.Fuzzy.ExclusiveOr
import FuzzyGrid.Proofs.Fuzzy.Monotonicity
import FuzzyGrid.Proofs.Fuzzy.SelectedUnion
import FuzzyGrid.Proofs.Lists.Regrouping
import FuzzyGrid.Proofs.Lists.Weights
import FuzzyGrid.Proofs.Masking.Noninterference
import FuzzyGrid.Proofs.Safety.Domain
import FuzzyGrid.Proofs.Schedule.Counters
import FuzzyGrid.Proofs.Schedule.Depth
import FuzzyGrid.Proofs.Tags.FuzzyRange
import FuzzyGrid.Proofs.Tags.Numeric
import FuzzyGrid.Proofs.Tags.Substitution
import FuzzyGrid.Proofs.Tags.Undefined
import FuzzyGrid.Proofs.Grid.Buffers
import FuzzyGrid.Proofs.Grid.Layout
import FuzzyGrid.Proofs.Grid.StackFold
