import ShapeAssert.Error

/-! Working on one axis of a shape, and reordering the axes. -/

namespace ShapeAssert

namespace Shape

/-- The number of elements, which has to be a size. -/
def elementCount (shape : Shape) : Except Error Nat :=
  match shape.checkedSize with
  | some count => .ok count
  | none => .error (.shapeTooLarge shape)

/-- Checks that the number of elements is as many as are held. -/
def checkHeld (shape : Shape) (held : Nat) : Except Error Unit := do
  let count ← shape.elementCount
  if held = count then .ok () else .error (.shapeSize shape count held)

theorem checkHeld_eq_ok {shape : Shape} {held : Nat} :
    shape.checkHeld held = .ok () ↔ shape.checkedSize = some held := by
  unfold checkHeld elementCount
  cases shape.checkedSize with
  | none => simp [bind, Except.bind]
  | some count =>
      by_cases h : held = count
      · simp [bind, Except.bind, h]
      · simp [bind, Except.bind, h, Ne.symm h]

def checkAxis (shape : Shape) (axis : Nat) : Except Error Unit :=
  if axis < shape.length then .ok () else .error (.invalidAxis axis shape.length)

/-- A shape seen from one axis: how many rows there are along it, and how many elements lie between
neighbours on it. -/
structure Split where
  outer : Nat
  extent : Nat
  inner : Nat
  deriving DecidableEq

/-- Splits the shape around an axis. -/
def split (shape : Shape) (axis : Nat) : Except Error Split := do
  shape.checkAxis axis
  .ok ⟨product (shape.take axis), shape.getD axis 0, product (shape.drop (axis + 1))⟩

/-- The shape with the extent of an axis replaced. -/
def withExtent (shape : Shape) (axis extent : Nat) : Except Error Shape := do
  shape.checkAxis axis
  .ok (shape.set axis extent)

/-- The shape without an axis. -/
def removeAxis (shape : Shape) (axis : Nat) : Except Error Shape := do
  shape.checkAxis axis
  .ok (shape.eraseIdx axis)

/-- The extents of the axes in the order given, the axes in `seen` having been used before. An axis
that does not exist is told apart from one that is used twice. -/
def pick (shape : Shape) (order : List Nat) : List Nat → List Nat → Except Error Shape
  | [], _ => .ok []
  | axis :: rest, seen => do
      shape.checkAxis axis
      if axis ∈ seen then .error (.incompatibleShapes shape order)
      let extents ← pick shape order rest (axis :: seen)
      .ok (shape.getD axis 0 :: extents)

/-- The shape whose axis `i` is the axis `order[i]` of the given one. -/
def permute (shape : Shape) (order : List Nat) : Except Error Shape :=
  if order.length = shape.length then shape.pick order order []
  else .error (.incompatibleShapes shape order)

end Shape

end ShapeAssert
