import ShapeAssert.Proofs.Tensor.Fitting

/-! Computations that stop where machine arithmetic or access to memory would go wrong: at a sum or a
product that is not a size, and at a place or a span outside of the elements. An operation written
with them that always has the result of the plain operation never takes such a step. -/

namespace ShapeAssert

namespace Guarded

variable {α β : Type}

/-- The sum of two sizes if it is a size. -/
def add (left right : Nat) : Option Nat :=
  if left + right < sizeLimit then some (left + right) else none

/-- The product of two sizes if it is a size. -/
def mul (left right : Nat) : Option Nat :=
  Shape.checkedMul left right

/-- The product of all extents, multiplied from the outermost on. -/
def product (shape : Shape) : Option Nat :=
  shape.foldlM mul 1

/-- The first axes of a shape, which has to have that many. -/
def firstAxes (shape : Shape) (count : Nat) : Option Shape :=
  if count ≤ shape.length then some (shape.take count) else none

/-- The axes from a place on, which is at most the number of axes and so a size like it. -/
def axesFrom (shape : Shape) (first : Nat) : Option Shape :=
  if first ≤ shape.length then some (shape.drop first) else none

/-- The elements of a span, which has to lie within the data. -/
def slice (data : Array α) (span : Span) : Option (Array α) :=
  if span.start ≤ span.stop ∧ span.stop ≤ data.size then some (Tensor.copySpan data span) else none

/-- Changes the element at a place, which has to be one of the data. -/
def update (data : Array α) (place : Nat) (f : α → α) : Option (Array α) :=
  if place < data.size then some (data.modify place f) else none

/-- Passes the numbers below `count` through the body in increasing order. -/
def loop (count : Nat) (start : β) (body : Nat → β → Option β) : Option β :=
  (List.range count).foldlM (fun state i => body i state) start

theorem add_eq_some {left right : Nat} (h : left + right < sizeLimit) :
    add left right = some (left + right) :=
  if_pos h

theorem mul_eq_some {left right : Nat} (h : left * right < sizeLimit) :
    mul left right = some (left * right) :=
  if_pos h

theorem firstAxes_eq_some {shape : Shape} {count : Nat} (h : count ≤ shape.length) :
    firstAxes shape count = some (shape.take count) :=
  if_pos h

theorem axesFrom_eq_some {shape : Shape} {first : Nat} (h : first ≤ shape.length) :
    axesFrom shape first = some (shape.drop first) :=
  if_pos h

theorem slice_eq_some {data : Array α} {span : Span} (hstart : span.start ≤ span.stop)
    (hstop : span.stop ≤ data.size) : slice data span = some (Tensor.copySpan data span) :=
  if_pos ⟨hstart, hstop⟩

/-- No product over the first axes is larger than the product with empty axes counted as one. -/
theorem foldlM_mul_eq_some {shape : Shape} {start : Nat}
    (h : max 1 start * shape.paddedProduct < sizeLimit) :
    shape.foldlM mul start = some (start * shape.product) := by
  induction shape generalizing start with
  | nil => rw [List.foldlM_nil, Shape.product_nil, Nat.mul_one]; rfl
  | cons extent shape ih =>
      rw [Shape.paddedProduct_cons, ← Nat.mul_assoc] at h
      have hstep : start * extent ≤ max 1 start * max 1 extent :=
        Nat.mul_le_mul (Nat.le_max_right 1 start) (Nat.le_max_right 1 extent)
      have hone : 1 ≤ max 1 start * max 1 extent :=
        Nat.mul_pos (Nat.le_max_left 1 start) (Nat.le_max_left 1 extent)
      -- the extents still to come only make the bound larger
      have hlt : start * extent < sizeLimit :=
        calc start * extent
          _ ≤ max 1 start * max 1 extent := hstep
          _ ≤ max 1 start * max 1 extent * Shape.paddedProduct shape :=
              Nat.le_mul_of_pos_right _ (Shape.paddedProduct_pos shape)
          _ < sizeLimit := h
      rw [List.foldlM_cons, mul_eq_some hlt, Shape.product_cons, ← Nat.mul_assoc]
      exact ih (Nat.lt_of_le_of_lt (Nat.mul_le_mul_right _ (max_le hone hstep)) h)

theorem product_eq_some {shape : Shape} (h : shape.Addressable) :
    product shape = some shape.product := by
  have hpadded : max 1 1 * shape.paddedProduct < sizeLimit := by
    rw [Nat.max_self, Nat.one_mul]
    exact Shape.addressable_iff.1 h
  rw [product, foldlM_mul_eq_some hpadded, Nat.one_mul]

/-! ### Results and errors -/

/-- A computation that stops with nothing at a misstep, and has a result or an error otherwise. -/
abbrev Run : Type → Type :=
  ExceptT Error Option

namespace Run

variable {γ : Type}

def step (x : Option β) : Run β :=
  ExceptT.lift x

/-- A computation without a misstep. -/
def safe (result : Except Error β) : Run β :=
  ExceptT.mk (some result)

theorem step_some_bind (b : β) (next : β → Run γ) : (step (some b) >>= next) = next b := rfl

theorem safe_bind {x : Except Error β} {next : β → Run γ} {result : β → Except Error γ}
    (h : ∀ b, x = .ok b → next b = safe (result b)) : (safe x >>= next) = safe (x >>= result) := by
  cases x with
  | error e => rfl
  | ok b => exact h b rfl

end Run

/-! ### Grids

The loops of an operation run over a grid: some axes taken together, one axis, and the axes after it
taken together. -/

/-- Taking axes together leaves a shape addressable. -/
theorem addressable_grid {left middle right : Shape}
    (h : Shape.Addressable (left ++ middle ++ right)) :
    Shape.Addressable [left.product, middle.product, right.product] := by
  refine Shape.addressable_of_le h ?_
  have hmax (shape : Shape) : max 1 shape.product ≤ shape.paddedProduct :=
    max_le shape.paddedProduct_pos shape.product_le_paddedProduct
  simp only [Shape.paddedProduct_append, Shape.paddedProduct_cons, Shape.paddedProduct_nil,
    Nat.mul_one, Nat.mul_assoc]
  exact Nat.mul_le_mul (hmax left) (Nat.mul_le_mul (hmax middle) (hmax right))

section Grid

variable {a b c : Nat} (h : Shape.Addressable [a, b, c])
include h

theorem grid_mul_lt {i j k : Nat} (hi : i ≤ max 1 a) (hj : j ≤ max 1 b) (hk : k ≤ max 1 c) :
    i * j * k < sizeLimit := by
  have hgrid := Shape.addressable_iff.1 h
  simp only [Shape.paddedProduct_cons, Shape.paddedProduct_nil, Nat.mul_one, ← Nat.mul_assoc] at hgrid
  exact Nat.lt_of_le_of_lt (Nat.mul_le_mul (Nat.mul_le_mul hi hj) hk) hgrid

theorem grid_first_lt {i j : Nat} (hi : i ≤ a) (hj : j ≤ b) : i * j < sizeLimit := by
  have hlt := grid_mul_lt h (i := i) (j := j) (k := 1) (by omega) (by omega) (by omega)
  rwa [Nat.mul_one] at hlt

theorem grid_last_lt {j k : Nat} (hj : j ≤ b) (hk : k ≤ c) : j * k < sizeLimit := by
  have hlt := grid_mul_lt h (i := 1) (j := j) (k := k) (by omega) (by omega) (by omega)
  rwa [Nat.one_mul] at hlt

theorem grid_ends_lt {i k : Nat} (hi : i ≤ a) (hk : k ≤ c) : i * k < sizeLimit := by
  have hlt := grid_mul_lt h (i := i) (j := 1) (k := k) (by omega) (by omega) (by omega)
  rwa [Nat.mul_one] at hlt

theorem grid_outer_lt : a < sizeLimit := by
  have hlt := grid_mul_lt h (i := a) (j := 1) (k := 1) (by omega) (by omega) (by omega)
  rwa [Nat.mul_one, Nat.mul_one] at hlt

theorem grid_middle_lt : b < sizeLimit := by
  have hlt := grid_mul_lt h (i := 1) (j := b) (k := 1) (by omega) (by omega) (by omega)
  rwa [Nat.one_mul, Nat.mul_one] at hlt

theorem grid_size_lt : a * (b * c) < sizeLimit := by
  have hlt := grid_mul_lt h (i := a) (j := b) (k := c) (by omega) (by omega) (by omega)
  rwa [Nat.mul_assoc] at hlt

end Grid

/-- A place of a grid whose places are numbered row by row. -/
theorem grid_place_lt {a b c i j k : Nat} (hi : i < a) (hj : j < b) (hk : k < c) :
    i * b * c + j * c + k < a * (b * c) :=
  calc i * b * c + j * c + k
    _ = i * (b * c) + (j * c + k) := by rw [Nat.mul_assoc, Nat.add_assoc]
    _ < a * (b * c) := Shape.block_lt hi (Shape.block_lt hj hk)

/-! ### Splitting a shape around an axis -/

/-- The split of a shape with its products computed in sizes. -/
def split (shape : Shape) (axis : Nat) : Run Shape.Split := do
  Run.safe (shape.checkAxis axis)
  let before ← Run.step (firstAxes shape axis)
  let outer ← Run.step (product before)
  let after ← Run.step (axesFrom shape (axis + 1))
  let inner ← Run.step (product after)
  let extent ← Run.step shape[axis]?
  return ⟨outer, extent, inner⟩

/-- Every axis of an addressable shape can be split off, as the shapes on both sides of it are
addressable too. -/
theorem split_eq {shape : Shape} (h : shape.Addressable) (axis : Nat) :
    split shape axis = Run.safe (shape.split axis) := by
  unfold split Shape.split
  by_cases haxis : axis < shape.length
  · rw [Shape.checkAxis_eq_ok haxis, firstAxes_eq_some haxis.le, axesFrom_eq_some haxis,
      List.getElem?_eq_getElem haxis, List.getD_eq_getElem _ _ haxis]
    refine Run.safe_bind fun _ _ => ?_
    rw [Run.step_some_bind, product_eq_some (h.take axis), Run.step_some_bind, Run.step_some_bind,
      product_eq_some (h.drop (axis + 1))]
    rfl
  · rw [Shape.checkAxis_eq_error haxis]
    rfl

/-- The grid around an axis. -/
theorem addressable_split {shape : Shape} (h : shape.Addressable) {axis : Nat} {split : Shape.Split}
    (hsplit : shape.split axis = .ok split) :
    axis < shape.length ∧ Shape.Addressable [split.outer, split.extent, split.inner] ∧
      shape.product = split.outer * (split.extent * split.inner) := by
  have haxis : axis < shape.length := by
    by_contra hnot
    rw [Shape.split_eq_error hnot] at hsplit
    cases hsplit
  rw [Shape.split_eq_ok haxis] at hsplit
  obtain rfl := Except.ok.inj hsplit
  refine ⟨haxis, ?_, Shape.product_eq_split haxis⟩
  rw [Shape.eq_append_of_lt haxis, List.append_cons] at h
  have hgrid := addressable_grid h
  rwa [Shape.product_cons, Shape.product_nil, Nat.mul_one] at hgrid

end Guarded

end ShapeAssert
