import ShapeAssert.Check.Checker
import ShapeAssert.Program.Routine
import ShapeAssert.Proofs.Check.Depth
import ShapeAssert.Proofs.Check.Drawing
import ShapeAssert.Proofs.Check.Interference
import ShapeAssert.Proofs.Check.Likelihood
import ShapeAssert.Proofs.Check.Meeting
import ShapeAssert.Proofs.Check.Names
import ShapeAssert.Proofs.Check.Reordering
import ShapeAssert.Proofs.Check.Strictness
import ShapeAssert.Proofs.Constraint
import ShapeAssert.Proofs.Expr.Evaluation
import ShapeAssert.Proofs.Expr.Pieces
import ShapeAssert.Proofs.Expr.Printing
import ShapeAssert.Proofs.Formula.Composition
import ShapeAssert.Proofs.Formula.Language
import ShapeAssert.Proofs.Formula.RoundTrip
import ShapeAssert.Proofs.Formula.Sides
import ShapeAssert.Proofs.Formula.Spacing
import ShapeAssert.Proofs.Guarded.Operations
import ShapeAssert.Proofs.Program.Representation
import ShapeAssert.Proofs.Shape.Addressable
import ShapeAssert.Proofs.Shape.Counting
import ShapeAssert.Proofs.Storage.Cleanup
import ShapeAssert.Proofs.Storage.Client
import ShapeAssert.Proofs.Tensor.Factors
import ShapeAssert.Proofs.Tensor.Layout
import ShapeAssert.Random.Generator
