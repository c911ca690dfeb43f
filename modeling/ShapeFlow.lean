import ShapeFlow.Arithmetic
import ShapeFlow.Call.Read
import ShapeFlow.Call.Signature
import ShapeFlow.Catalog
import ShapeFlow.Config.Basic
import ShapeFlow.Config.Context
import ShapeFlow.Dataset.Class
import ShapeFlow.Dataset.Stream
import ShapeFlow.Decimal
import ShapeFlow.Expr.Basic
import ShapeFlow.Expr.Collect
import ShapeFlow.Expr.Eval
import ShapeFlow.Expr.Printer
import ShapeFlow.Expr.Simplify
import ShapeFlow.Item
import ShapeFlow.Layer.Apply
import ShapeFlow.Layer.Basic
import ShapeFlow.Layer.Construct
import ShapeFlow.Layer.Error
import ShapeFlow.Layer.Fields
import ShapeFlow.Layer.Sizes
import ShapeFlow.Notice
import ShapeFlow.Observation
import ShapeFlow.Policy
import ShapeFlow.Proofs.Arithmetic
import ShapeFlow.Proofs.Call.KnownSizes
import ShapeFlow.Proofs.Call.Reading
import ShapeFlow.Proofs.Catalog.Respelling
import ShapeFlow.Proofs.Config.Overrides
import ShapeFlow.Proofs.Config.Validation
import ShapeFlow.Proofs.Dataset.ItemRun
import ShapeFlow.Proofs.Expr.Assumptions
import ShapeFlow.Proofs.Expr.Cancellation
import ShapeFlow.Proofs.Expr.ConstantFolding
import ShapeFlow.Proofs.Expr.Differences
import ShapeFlow.Proofs.Expr.FixedPoint
import ShapeFlow.Proofs.Expr.FreshSymbols
import ShapeFlow.Proofs.Expr.Leaves
import ShapeFlow.Proofs.Expr.NormalForm
import ShapeFlow.Proofs.Expr.Positivity
import ShapeFlow.Proofs.Expr.Reading
import ShapeFlow.Proofs.Expr.Recollection
import ShapeFlow.Proofs.Expr.StrictDivision
import ShapeFlow.Proofs.Expr.Text
import ShapeFlow.Proofs.Layer.Agreement
import ShapeFlow.Proofs.Layer.Broadcasting
import ShapeFlow.Proofs.Layer.CeilPooling
import ShapeFlow.Proofs.Layer.ConstantSizes
import ShapeFlow.Proofs.Layer.Constraints
import ShapeFlow.Proofs.Layer.PaddedSizes
import ShapeFlow.Proofs.Layer.Placement
import ShapeFlow.Proofs.Layer.PositiveSizes
import ShapeFlow.Proofs.Layer.SamePadding
import ShapeFlow.Proofs.Layer.Stages
import ShapeFlow.Proofs.Layer.StrictRun
import ShapeFlow.Proofs.Layer.SymbolicSizes
import ShapeFlow.Proofs.Observation.Coverage
import ShapeFlow.Proofs.Random.Offsets
import ShapeFlow.Proofs.Random.Replay
import ShapeFlow.Proofs.Session.Isolation
import ShapeFlow.Proofs.Session.Notices
import ShapeFlow.Proofs.Session.Verbosity
import ShapeFlow.Proofs.Shape.ElementCount
import ShapeFlow.Proofs.Shape.Text
import ShapeFlow.Proofs.Text.Tokens
import ShapeFlow.Proofs.Transform.NormalForm
import ShapeFlow.Random.Machine
import ShapeFlow.Random.Source
import ShapeFlow.Session
import ShapeFlow.Shape
import ShapeFlow.Table
import ShapeFlow.Text.Characters
import ShapeFlow.Text.Json
import ShapeFlow.Transform
