import ShapeAssert.Bounds

/-! Shapes: the extents of the axes of a tensor, outermost first. A shape is addressable if the
product of its non-zero extents is a size. Counting an empty axis as one keeps every product over a
part of the shape in range, also when the shape has no elements. -/

namespace ShapeAssert

/-- The extents of the axes, outermost first. -/
abbrev Shape := List Nat

namespace Shape

/-- The extents in brackets. -/
def text (shape : Shape) : String :=
  "[" ++ ", ".intercalate (shape.map toString) ++ "]"

/-- The product of all extents. -/
def product (shape : Shape) : Nat :=
  shape.foldr (· * ·) 1

/-- The product of two sizes if it is a size. -/
def checkedMul (left right : Nat) : Option Nat :=
  if left * right < sizeLimit then some (left * right) else none

/-- The product of the extents that are not zero, as long as no step of it is too large. -/
def nonzeroProduct (shape : Shape) : Option Nat :=
  (shape.filter (· ≠ 0)).foldlM checkedMul 1

/-- The number of elements of an addressable shape. -/
def checkedSize (shape : Shape) : Option Nat :=
  shape.nonzeroProduct.map fun product => if 0 ∈ shape then 0 else product

def Addressable (shape : Shape) : Prop :=
  shape.checkedSize.isSome = true

instance (shape : Shape) : Decidable shape.Addressable :=
  inferInstanceAs (Decidable (_ = _))

/-- The number of elements, or the largest size for a shape that is not addressable. -/
def size (shape : Shape) : Nat :=
  shape.checkedSize.getD maxSize

/-- The row-major strides together with the number of elements, all modulo the size limit. -/
def stridesAndSize : Shape → List Nat × Nat
  | [] => ([], 1)
  | extent :: rest =>
      let (strides, size) := stridesAndSize rest
      (size :: strides, size * extent % sizeLimit)

/-- How far apart in memory neighbours on each axis lie. -/
def strides (shape : Shape) : List Nat :=
  shape.stridesAndSize.1

end Shape

end ShapeAssert
