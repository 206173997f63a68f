import ShapeAssert.Proofs.Guarded.Product
import ShapeAssert.Proofs.Tensor.Entries

/-! Products of matrices by place. The entry of a product at a row and a column is made of that row of the
left factor and that column of the right one, at the same place of the batch: the products of their
entries are added up from zero in increasing order. -/

namespace ShapeAssert

namespace Tensor

variable {S : Type → Type} [Storage S] {α : Type} {left right : Tensor S α}

/-- The shapes of a left factor, of a right factor that fits it, and the batch and the sizes that they
have in common. -/
structure Multipliable (left right batch : Shape) (m k n : Nat) : Prop where
  left_eq : left = batch ++ [m, k]
  right_eq : right = batch ++ [k, n]

theorem Multipliable.matrixSizes?_eq {left right batch : Shape} {m k n : Nat}
    (h : Multipliable left right batch m k n) :
    matrixSizes? left right = some ⟨batch.product, m, k, n⟩ := by
  obtain ⟨rfl, rfl⟩ := h
  simp [matrixSizes?]

theorem exists_multipliable {left right : Shape} {sizes : MatrixSizes}
    (h : matrixSizes? left right = some sizes) :
    ∃ batch, Multipliable left right batch sizes.m sizes.k sizes.n := by
  obtain ⟨batch, hleft, hright, -⟩ := Guarded.matrixSizes?_eq_some h
  exact ⟨batch, hleft, hright⟩

section Lines

variable [Zero α] {batch : Shape} {m k n : Nat} {place : List Nat}

/-- A row of the left factor. -/
theorem line?_row (h : left.WellFormed) (hshape : left.shape = batch ++ [m, k])
    (hplace : batch.IsPlace place) {i : Nat} (hi : i < m) :
    left.line? (batch.length + 1) (place ++ [i]) = some ((List.range k).map fun p =>
      left.data.getD ((⟨batch.product, m, k, n⟩ : MatrixSizes).leftOffset (batch.position place) i p)
        0) := by
  have hsplit : left.shape = (batch ++ [m]) ++ k :: [] := by simpa using hshape
  have hline := h.line?_eq hsplit (hplace.append (.cons hi .nil)) .nil 0
  rw [List.append_nil, List.length_append, Shape.position_append hplace] at hline
  refine hline.trans (congrArg some (List.map_congr_left fun p _ => congrArg (left.data.getD · 0) ?_))
  show ((batch.position place * (m * 1) + (i * 1 + 0)) * k + p) * 1 + 0 =
    batch.position place * m * k + i * k + p
  simp only [Nat.mul_one, Nat.add_zero, Nat.add_mul]

/-- A column of the right factor. -/
theorem line?_column (h : right.WellFormed) (hshape : right.shape = batch ++ [k, n])
    (hplace : batch.IsPlace place) {j : Nat} (hj : j < n) :
    right.line? batch.length (place ++ [j]) = some ((List.range k).map fun p =>
      right.data.getD
        ((⟨batch.product, m, k, n⟩ : MatrixSizes).rightOffset (batch.position place) p j) 0) := by
  have hline := h.line?_eq hshape hplace (.cons hj .nil) 0
  refine hline.trans (congrArg some (List.map_congr_left fun p _ => congrArg (right.data.getD · 0) ?_))
  show (batch.position place * k + p) * (n * 1) + (j * 1 + 0) =
    batch.position place * k * n + p * n + j
  simp only [Nat.mul_one, Nat.add_zero, Nat.add_mul]

/-- The row of the left factor and the column of the right one that meet at a place of the product. -/
def meeting? (left right : Tensor S α) (batchAxes : Nat) (index : List Nat) :
    Option (List α × List α) := do
  let row ← left.line? (batchAxes + 1) (index.take (batchAxes + 1))
  let column ← right.line? batchAxes (index.eraseIdx batchAxes)
  return (row, column)

theorem meeting?_eq (h : Multipliable left.shape right.shape batch m k n) (hleft : left.WellFormed)
    (hright : right.WellFormed) (hplace : batch.IsPlace place) {i j : Nat} (hi : i < m) (hj : j < n) :
    meeting? left right batch.length (place ++ [i, j]) =
      some ((List.range k).map fun p => left.data.getD
          ((⟨batch.product, m, k, n⟩ : MatrixSizes).leftOffset (batch.position place) i p) 0,
        (List.range k).map fun p => right.data.getD
          ((⟨batch.product, m, k, n⟩ : MatrixSizes).rightOffset (batch.position place) p j) 0) := by
  have htake : (place ++ [i, j]).take (batch.length + 1) = place ++ [i] := by
    rw [← hplace.length_eq]
    exact List.take_length_add_append 1
  rw [meeting?, htake, hplace.eraseIdx_append i [j], line?_row hleft h.left_eq hplace hi,
    line?_column hright h.right_eq hplace hj]
  rfl

end Lines

section Matmul

variable [Zero α] [Add α] [Mul α] {batch : Shape} {m k n : Nat}

theorem matmul_eq_error (h : ¬∃ batch m k n, Multipliable left.shape right.shape batch m k n) :
    left.matmul right = .error (.incompatibleShapes left.shape right.shape) := by
  cases hsizes : matrixSizes? left.shape right.shape with
  | none => rw [matmul, hsizes]
  | some sizes =>
      obtain ⟨batch, hfit⟩ := exists_multipliable hsizes
      exact absurd ⟨_, _, _, _, hfit⟩ h

theorem matmul_eq (h : Multipliable left.shape right.shape batch m k n) :
    left.matmul right = (Shape.elementCount (batch ++ [m, n]) >>= fun count =>
      ofArray (Array.ofFn fun place : Fin count =>
        (⟨batch.product, m, k, n⟩ : MatrixSizes).entry left.data right.data
          (place / n / m) (place / n % m) (place % n)) (batch ++ [m, n])) := by
  have hbatch : left.shape.take (left.rank - 2) = batch := by
    rw [rank, h.left_eq]
    simp
  rw [matmul, h.matrixSizes?_eq]
  dsimp only
  rw [hbatch]

theorem matmul_eq_tooLarge (h : Multipliable left.shape right.shape batch m k n)
    (hout : ¬Shape.Addressable (batch ++ [m, n])) :
    left.matmul right = .error (.shapeTooLarge (batch ++ [m, n])) := by
  have hcount : Shape.elementCount (batch ++ [m, n]) = .error (.shapeTooLarge (batch ++ [m, n])) := by
    rw [Shape.elementCount_eq_error]
    exact ⟨Option.not_isSome_iff_eq_none.1 hout, rfl⟩
  rw [matmul_eq h, hcount]
  rfl

/-- The products of a row's and a column's entries, added up from zero in increasing order. -/
def dot (row column : List α) : α :=
  total (List.zipWith (· * ·) row column)

theorem entry_eq_dot (sizes : MatrixSizes) (a b : Array α) (place i j : Nat) :
    sizes.entry a b place i j =
      dot ((List.range sizes.k).map fun p => a.getD (sizes.leftOffset place i p) 0)
        ((List.range sizes.k).map fun p => b.getD (sizes.rightOffset place p j) 0) := by
  rw [MatrixSizes.entry, fold_eq_total, dot, List.zipWith_map, List.zipWith_self]

theorem makes_matmul (h : Multipliable left.shape right.shape batch m k n) (hleft : left.WellFormed)
    (hright : right.WellFormed) (hout : Shape.Addressable (batch ++ [m, n])) :
    Makes (left.matmul right) (batch ++ [m, n]) fun index =>
      (meeting? left right batch.length index).map fun (row, column) => dot row column := by
  rw [matmul_eq h, hout.elementCount]
  refine makes_ofArray hout Array.size_ofFn fun index hindex => ?_
  have hlt := hindex.position_lt
  obtain ⟨place, rest, rfl, hplace, hrest⟩ := Shape.isPlace_append_iff.1 hindex
  obtain ⟨i, rest, rfl, hi, hrest⟩ := Shape.isPlace_cons_iff.1 hrest
  obtain ⟨j, rest, rfl, hj, ⟨⟩⟩ := Shape.isPlace_cons_iff.1 hrest
  have hposition : Shape.position (batch ++ [m, n]) (place ++ [i, j]) =
      (batch.position place * m + i) * n + j := by
    rw [Shape.position_append hplace]
    show batch.position place * (m * (n * 1)) + (i * (n * 1) + (j * 1 + 0)) = _
    simp only [Nat.mul_one, Nat.add_zero, Nat.add_mul, Nat.mul_assoc, Nat.add_assoc]
  rw [hposition] at hlt ⊢
  -- the number of the place is taken apart into the number in the batch, the row and the column
  obtain ⟨hrow, hcolumn⟩ := @Shape.div_mod_block (batch.position place * m + i) _ _ hj
  obtain ⟨hbatch, hi'⟩ := @Shape.div_mod_block (batch.position place) _ _ hi
  rw [Array.getElem?_ofFn, dif_pos hlt]
  dsimp only
  rw [hrow, hcolumn, hbatch, hi', entry_eq_dot, meeting?_eq h hleft hright hplace hi hj]
  rfl

/-- The factors decide whether there is a product. -/
theorem exists_matmul_iff (hleft : left.WellFormed) (hright : right.WellFormed) :
    (∃ product, left.matmul right = .ok product) ↔
      ∃ batch m k n, Multipliable left.shape right.shape batch m k n ∧
        Shape.Addressable (batch ++ [m, n]) := by
  constructor
  · intro ⟨product, hproduct⟩
    by_cases hfit : ∃ batch m k n, Multipliable left.shape right.shape batch m k n
    · obtain ⟨batch, m, k, n, hfit⟩ := hfit
      refine ⟨batch, m, k, n, hfit, ?_⟩
      by_contra hout
      cases (matmul_eq_tooLarge hfit hout).symm.trans hproduct
    · cases (matmul_eq_error hfit).symm.trans hproduct
  · intro ⟨batch, m, k, n, hfit, hout⟩
    obtain ⟨product, hproduct, -⟩ := makes_matmul hfit hleft hright hout
    exact ⟨product, hproduct⟩

/-- A product exists exactly if both factors are batches of the same extents whose matrices fit and its
shape is addressable. Every entry is the row of the left factor times the column of the right one at
the same place of the batch, added up from zero in increasing order. The loops that add in place to
the entries of all matrices compute the same. This is for products that memory can hold: a buffer of
`2 ^ 63` bytes or more cannot be allocated, which is no error of the product. -/
theorem matmul_multiplies_every_batch (hleft : left.WellFormed) (hright : right.WellFormed) :
    Guarded.matmul left right = Guarded.Run.safe (left.matmul right) ∧
    ((∃ product, left.matmul right = .ok product) ↔
      ∃ batch m k n, Multipliable left.shape right.shape batch m k n ∧
        Shape.Addressable (batch ++ [m, n])) ∧
    ((¬∃ batch m k n, Multipliable left.shape right.shape batch m k n) →
      left.matmul right = .error (.incompatibleShapes left.shape right.shape)) ∧
    ∀ batch m k n, Multipliable left.shape right.shape batch m k n →
      (¬Shape.Addressable (batch ++ [m, n]) →
        left.matmul right = .error (.shapeTooLarge (batch ++ [m, n]))) ∧
      ∀ product : Tensor S α, left.matmul right = .ok product →
        product.WellFormed ∧ product.shape = batch ++ [m, n] ∧
        ∀ place i j, batch.IsPlace place → i < m → j < n →
          ∃ row column, left.line? (batch.length + 1) (place ++ [i]) = some row ∧
            right.line? batch.length (place ++ [j]) = some column ∧
            row.length = k ∧ column.length = k ∧
            product.element? (place ++ [i, j]) = some (dot row column) ∧
            (k = 0 → product.element? (place ++ [i, j]) = some 0) := by
  refine ⟨Guarded.matmul_eq hleft hright, exists_matmul_iff hleft hright, matmul_eq_error,
    fun batch m k n hfit => ⟨matmul_eq_tooLarge hfit, fun product hproduct => ?_⟩⟩
  have hout : Shape.Addressable (batch ++ [m, n]) := by
    by_contra hout
    cases (matmul_eq_tooLarge hfit hout).symm.trans hproduct
  have hmade := (makes_matmul hfit hleft hright hout).tabulates hproduct
  refine ⟨hmade.wellFormed, hmade.shape_eq, fun place i j hplace hi hj => ?_⟩
  have hentry := hmade.element?_eq _ (hplace.append (.cons hi (.cons hj .nil)))
  rw [meeting?_eq hfit hleft hright hplace hi hj, Option.map_some] at hentry
  refine ⟨_, _, line?_row hleft hfit.left_eq hplace hi, line?_column hright hfit.right_eq hplace hj,
    ?_, ?_, hentry, fun hk => ?_⟩
  · rw [List.length_map, List.length_range]
  · rw [List.length_map, List.length_range]
  · rw [hentry, hk]
    rfl

end Matmul

/-- A batch of two products, of matrices with one inner place. -/
theorem matmul_multiplies_batch_of_two :
    let left : Tensor HeapStorage Nat := { storage := ⟨#[1, 2, 3, 4]⟩, shape := [2, 2, 1] }
    let right : Tensor HeapStorage Nat := { storage := ⟨#[5, 6, 7, 8, 9, 10]⟩, shape := [2, 1, 3] }
    left.WellFormed ∧ right.WellFormed ∧ ∃ product, left.matmul right = .ok product ∧
      product.shape = [2, 2, 3] ∧ product.element? [1, 0, 2] = some 30 := by
  intro left right
  have hleft : left.WellFormed := by decide
  have hright : right.WellFormed := by decide
  have hfit : Multipliable left.shape right.shape [2] 2 1 3 := ⟨rfl, rfl⟩
  obtain ⟨-, hexists, -, hall⟩ := matmul_multiplies_every_batch hleft hright
  obtain ⟨product, hproduct⟩ := hexists.2 ⟨_, _, _, _, hfit, by decide⟩
  obtain ⟨-, hshape, hentries⟩ := (hall _ _ _ _ hfit).2 product hproduct
  obtain ⟨row, column, hrow, hcolumn, -, -, hentry, -⟩ :=
    hentries [1] 0 2 (by decide) (by decide) (by decide)
  refine ⟨hleft, hright, product, hproduct, hshape, hentry.trans ?_⟩
  have hrow' : left.line? 2 [1, 0] = some [3] := by decide
  have hcolumn' : right.line? 1 [1, 2] = some [10] := by decide
  obtain rfl := Option.some.inj (hrow'.symm.trans hrow)
  obtain rfl := Option.some.inj (hcolumn'.symm.trans hcolumn)
  rfl

end Tensor

end ShapeAssert
