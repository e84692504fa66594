import StrategyCoordinator.Binary.Format
import StrategyCoordinator.Binary.Options
import StrategyCoordinator.Coordinator.Configuration
import StrategyCoordinator.Coordinator.Journal
import StrategyCoordinator.Coordinator.Operation
import StrategyCoordinator.Coordinator.Optimize
import StrategyCoordinator.Coordinator.Session
import StrategyCoordinator.Coordinator.Shelf
import StrategyCoordinator.Coordinator.Solvers
import StrategyCoordinator.Coordinator.Workshop
import StrategyCoordinator.Model.Change
import StrategyCoordinator.Model.Quadratic
import StrategyCoordinator.Model.QuasiNewton
import StrategyCoordinator.NameMap
import StrategyCoordinator.Numeric.Binary64
import StrategyCoordinator.Numeric.Nearest
import StrategyCoordinator.Numeric.Scalar
import StrategyCoordinator.Numeric.ShortestDecimal
import StrategyCoordinator.Numeric.Vector
import StrategyCoordinator.Options.Edit
import StrategyCoordinator.Options.Kind
import StrategyCoordinator.Options.Store
import StrategyCoordinator.Options.Table
import StrategyCoordinator.Options.Value
import StrategyCoordinator.Problem.Basic
import StrategyCoordinator.Problem.Point
import StrategyCoordinator.Solvers.Elementary
import StrategyCoordinator.Solvers.ProjectedGradient
import StrategyCoordinator.Solvers.Recentering
import StrategyCoordinator.Solvers.ScaledIdentity
import StrategyCoordinator.Solvers.SeparableProblem
import StrategyCoordinator.Solvers.ShiftedSurrogate
import StrategyCoordinator.Strategy
import StrategyCoordinator.Text.Blank
import StrategyCoordinator.Text.LowerCase
import StrategyCoordinator.Text.Padding
import StrategyCoordinator.Proofs.NameMap
import StrategyCoordinator.Proofs.Text.Words
import StrategyCoordinator.Proofs.Numeric.Value
import StrategyCoordinator.Proofs.Numeric.Rounding
import StrategyCoordinator.Proofs.Binary.Exactness
import StrategyCoordinator.Proofs.Binary.Options
import StrategyCoordinator.Proofs.Binary.Points
import StrategyCoordinator.Proofs.Binary.Capacity
import StrategyCoordinator.Proofs.Binary.RoundTrip
import StrategyCoordinator.Proofs.Binary.Refusals
import StrategyCoordinator.Proofs.Model.Coherence
import StrategyCoordinator.Proofs.Model.Shapes
import StrategyCoordinator.Proofs.Model.Exact
import StrategyCoordinator.Proofs.Model.Expansion
import StrategyCoordinator.Proofs.Model.Box
import StrategyCoordinator.Proofs.Options.Acceptance
import StrategyCoordinator.Proofs.Options.Writing
import StrategyCoordinator.Proofs.Options.Validity
import StrategyCoordinator.Proofs.Options.Replay
import StrategyCoordinator.Proofs.Options.Interleaving
import StrategyCoordinator.Proofs.Options.Equality
import StrategyCoordinator.Proofs.Options.Rendering
import StrategyCoordinator.Proofs.Options.Conversion
import StrategyCoordinator.Proofs.Coordinator.Assembly
import StrategyCoordinator.Proofs.Coordinator.Running
import StrategyCoordinator.Proofs.Coordinator.WriteOnlyJournal
import StrategyCoordinator.Proofs.Coordinator.Resolution
import StrategyCoordinator.Proofs.Coordinator.Aside
import StrategyCoordinator.Proofs.Coordinator.History
import StrategyCoordinator.Proofs.Coordinator.Holding
import StrategyCoordinator.Proofs.Coordinator.Lifetime
import StrategyCoordinator.Proofs.Coordinator.Wiring
import StrategyCoordinator.Proofs.Coordinator.Refusal
import StrategyCoordinator.Proofs.Coordinator.Handles
import StrategyCoordinator.Proofs.Coordinator.Readiness
import StrategyCoordinator.Proofs.Coordinator.DefaultOptions
import StrategyCoordinator.Proofs.Coordinator.Contents
import StrategyCoordinator.Proofs.Coordinator.Persistence
import StrategyCoordinator.Proofs.Coordinator.Reuse
import StrategyCoordinator.Proofs.Coordinator.Parting
import StrategyCoordinator.Proofs.Coordinator.Discarding
import StrategyCoordinator.Proofs.Coordinator.Release
import StrategyCoordinator.Proofs.Coordinator.Checks
import StrategyCoordinator.Proofs.Coordinator.Records
import StrategyCoordinator.Proofs.Coordinator.Reports
import StrategyCoordinator.Proofs.Coordinator.Sharing
