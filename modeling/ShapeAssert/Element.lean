/-! The numbers that tensors hold, in single or double precision. Operations on tensors use no law of
their arithmetic, only the order in which it is carried out. -/

namespace ShapeAssert

/-- Arithmetic on elements, with conversions from sizes and from double precision. -/
class Element (α : Type) extends Zero α, One α, Add α, Sub α, Mul α, Div α, NatCast α where
  ofFloat : Float → α
  isFinite : α → Bool

instance : Element Float where
  zero := 0.0
  one := 1.0
  add := Float.add
  sub := Float.sub
  mul := Float.mul
  div := Float.div
  natCast := Float.ofNat
  ofFloat x := x
  isFinite := Float.isFinite

instance : Element Float32 where
  zero := 0.0
  one := 1.0
  add := Float32.add
  sub := Float32.sub
  mul := Float32.mul
  div := Float32.div
  natCast := Float32.ofNat
  ofFloat := Float.toFloat32
  isFinite := Float32.isFinite

end ShapeAssert
