import ShapeAssert.Proofs.Tensor.Permute
import ShapeAssert.Proofs.Tensor.Product
import ShapeAssert.Proofs.Tensor.Ranges

/-! Products of matrices whose factors are rearranged. An entry of a product depends on a row of the left
factor and a column of the right one alone, so a product of the transposed factors has the same
entries at swapped places, up to the order in which two elements are multiplied, and a range of the
product is the product of the ranges that its rows and columns come from. -/

namespace ShapeAssert

namespace Tensor

variable {S : Type → Type} [Storage S] {α : Type} {left right product : Tensor S α}
  {batch place : Shape} {m k n : Nat} {a b : List Nat → Option α}

/-! ### Rows and columns -/

/-- An entry at a place of a batch of matrices. -/
theorem forall_isPlace_matrices {P : List Nat → Prop} :
    (∀ index, Shape.IsPlace (batch ++ [m, n]) index → P index) ↔
      ∀ place i j, batch.IsPlace place → i < m → j < n → P (place ++ [i, j]) := by
  constructor
  · intro h place i j hplace hi hj
    exact h _ (hplace.append (.cons hi (.cons hj .nil)))
  · intro h index hindex
    obtain ⟨place, rest, rfl, hplace, hrest⟩ := Shape.isPlace_append_iff.1 hindex
    obtain ⟨i, rest, rfl, hi, hrest⟩ := Shape.isPlace_cons_iff.1 hrest
    obtain ⟨j, rest, rfl, hj, ⟨⟩⟩ := Shape.isPlace_cons_iff.1 hrest
    exact h place i j hplace hi hj

section Entry

variable [Zero α] [Add α] [Mul α]

/-- The products of the first entries of a row and of a column, added up from zero. -/
def dot? (count : Nat) (row column : Nat → Option α) : Option α := do
  let xs ← (List.range count).mapM row
  let ys ← (List.range count).mapM column
  return dot xs ys

theorem dot?_congr {row row' column column' : Nat → Option α} (hrow : ∀ p < k, row p = row' p)
    (hcolumn : ∀ p < k, column p = column' p) : dot? k row column = dot? k row' column' := by
  rw [dot?, dot?, mapM_congr fun p hp => hrow p (List.mem_range.1 hp),
    mapM_congr fun p hp => hcolumn p (List.mem_range.1 hp)]

/-- Nothing but the two factors of each term changes places. -/
theorem dot?_comm (hcomm : ∀ x y : α, x * y = y * x) (count : Nat) (row column : Nat → Option α) :
    dot? count row column = dot? count column row := by
  have hdot (xs ys : List α) : dot xs ys = dot ys xs := by
    rw [dot, dot, List.zipWith_comm_of_comm hcomm]
  rw [dot?, dot?]
  cases (List.range count).mapM row with
  | none => cases (List.range count).mapM column <;> rfl
  | some xs =>
      cases (List.range count).mapM column with
      | none => rfl
      | some ys => exact congrArg some (hdot xs ys)

/-- The entry of a product, from the entries of its factors. -/
def productEntry (axes count : Nat) (a b : List Nat → Option α) (index : List Nat) : Option α :=
  let place := index.take axes
  dot? count (fun p => a (place ++ [index.getD axes 0, p]))
    (fun p => b (place ++ [p, index.getD (axes + 1) 0]))

theorem productEntry_append (hplace : batch.IsPlace place) (i j : Nat) :
    productEntry batch.length k a b (place ++ [i, j]) =
      dot? k (fun p => a (place ++ [i, p])) (fun p => b (place ++ [p, j])) := by
  rw [productEntry, ← hplace.length_eq, List.take_left]
  simp

/-- A product of tensors that are known by their entries. -/
theorem HasEntries.makes_matmul (ha : left.HasEntries (batch ++ [m, k]) a)
    (hb : right.HasEntries (batch ++ [k, n]) b) (hout : Shape.Addressable (batch ++ [m, n])) :
    Makes (left.matmul right) (batch ++ [m, n]) (productEntry batch.length k a b) := by
  have hmade := Tensor.makes_matmul ⟨ha.shape_eq, hb.shape_eq⟩ ha.wellFormed hb.wellFormed hout
  refine hmade.congr (forall_isPlace_matrices.2 fun place i j hplace hi hj => ?_)
  have hrows : left.HasEntries ((batch ++ [m]) ++ k :: []) a := by
    rwa [List.append_assoc]
  have hrow : left.line? (batch.length + 1) ((place ++ [i, j]).take (batch.length + 1)) =
      (List.range k).mapM fun p => a (place ++ [i, p]) := by
    have hline := hrows.line?_eq (hplace.append (.cons hi .nil)) .nil
    rw [← hplace.length_eq, List.take_length_add_append, hplace.length_eq]
    simpa using hline
  have hcolumn : right.line? batch.length ((place ++ [i, j]).eraseIdx batch.length) =
      (List.range k).mapM fun p => b (place ++ [p, j]) := by
    rw [hplace.eraseIdx_append]
    exact hb.line?_eq hplace (.cons hj .nil)
  rw [productEntry_append hplace, meeting?, hrow, hcolumn, dot?]
  cases (List.range k).mapM fun p => a (place ++ [i, p]) with
  | none => rfl
  | some row => cases (List.range k).mapM fun p => b (place ++ [p, j]) <;> rfl

end Entry

/-! ### Transposed matrices -/

/-- The last two axes of a batch of matrices swapped. -/
theorem HasEntries.makes_transpose (h : left.HasEntries (batch ++ [m, n]) a) :
    Makes (left.transpose batch.length (batch.length + 1)) (batch ++ [n, m]) fun index =>
      a (Shape.restore (swapOrder (batch.length + 2) batch.length (batch.length + 1)) index) := by
  have hrank : left.rank = batch.length + 2 := by
    rw [rank, h.shape_eq, List.length_append]
    rfl
  have horder := @Shape.isOrder_swapOrder left.shape batch.length (batch.length + 1)
    (show batch.length < left.rank by omega) (show batch.length + 1 < left.rank by omega)
  rw [← rank, hrank, h.shape_eq] at horder
  have hmade := h.makes_permute horder
  rw [Shape.reorder_swapLast rfl] at hmade
  rw [transpose_eq (by omega) (by omega), hrank]
  exact hmade

section Products

variable [Zero α] [Add α] [Mul α] (ha : left.HasEntries (batch ++ [m, k]) a)
  (hb : right.HasEntries (batch ++ [k, n]) b) (hout : Shape.Addressable (batch ++ [m, n]))
  (hproduct : product.HasEntries (batch ++ [m, n]) (productEntry batch.length k a b))
include ha hb hout hproduct

/-- The rows of the transposed right factor are its columns, and the columns of the transposed left
one its rows. -/
theorem matmul_transpose (hcomm : ∀ x y : α, x * y = y * x) :
    (do
      let rows ← right.transpose batch.length (batch.length + 1)
      let columns ← left.transpose batch.length (batch.length + 1)
      rows.matmul columns) = product.transpose batch.length (batch.length + 1) := by
  have hswapped : Shape.Addressable (batch ++ [n, m]) :=
    Shape.addressable_of_le hout (by simp [Nat.mul_comm])
  have hmade := hb.makes_transpose.bind fun rows hrows =>
    ha.makes_transpose.bind fun columns hcolumns =>
      hrows.hasEntries.makes_matmul hcolumns.hasEntries hswapped
  refine hmade.eq hproduct.makes_transpose ?_
  refine forall_isPlace_matrices.2 fun place j i hplace hj hi => ?_
  have hrestore (x y : Nat) := Shape.restore_swapLast hplace.length_eq x y
  rw [productEntry_append hplace, hrestore, productEntry_append hplace, dot?_comm hcomm]
  refine dot?_congr (fun p _ => ?_) (fun p _ => ?_)
  · rw [hrestore]
  · rw [hrestore]

/-! ### Ranges of matrices -/

variable {axis start length : Nat}

/-- A range of the batch is that of both factors. -/
theorem narrow_product_batch (haxis : axis < batch.length) :
    product.narrow axis start length = (do
      let rows ← left.narrow axis start length
      let columns ← right.narrow axis start length
      rows.matmul columns) := by
  have hextent (x y : Nat) : (batch ++ [x, y]).getD axis 0 = batch.getD axis 0 :=
    List.getD_append _ _ _ _ haxis
  have hset (x y : Nat) : (batch ++ [x, y]).set axis length = batch.set axis length ++ [x, y] :=
    List.set_append_left _ _ haxis
  have hsame (x y : Nat) (hrange : Shape.HasRange (batch ++ [m, n]) axis start length) :
      Shape.HasRange (batch ++ [x, y]) axis start length := by
    rwa [Shape.hasRange_congr (by simp) ((hextent x y).trans (hextent m n).symm)]
  refine hproduct.narrow_eq (by rw [rank, ha.shape_eq]; simp)
    (by rw [ha.shape_eq, hextent, hextent]) fun hrange => ?_
  have hrows := ha.makes_narrow (hsame m k hrange)
  have hcolumns := hb.makes_narrow (hsame k n hrange)
  have hnarrowed := hrange.addressable_set hout
  rw [hset] at hrows hcolumns hnarrowed ⊢
  have hmade := hrows.bind fun rows hrows => hcolumns.bind fun columns hcolumns =>
    hrows.hasEntries.makes_matmul hcolumns.hasEntries hnarrowed
  refine hmade.congr (forall_isPlace_matrices.2 fun place i j hplace hi hj => ?_)
  have hlt : axis < place.length := by
    rwa [hplace.length_eq, List.length_set]
  have hmoved : batch.IsPlace (place.modify axis (start + ·)) := by
    refine Shape.HasRange.isPlace_modify ⟨haxis, ?_⟩ hplace
    rw [← hextent m n]
    exact hrange.2
  rw [productEntry_append hplace, Shape.modify_append_left hlt, productEntry_append hmoved]
  refine dot?_congr (fun p _ => ?_) (fun p _ => ?_)
  · rw [Shape.modify_append_left hlt]
  · rw [Shape.modify_append_left hlt]

/-- A range of the rows is that of the left factor. -/
theorem narrow_product_rows :
    product.narrow batch.length start length = (do
      let rows ← left.narrow batch.length start length
      rows.matmul right) := by
  refine hproduct.narrow_eq (by rw [rank, ha.shape_eq]; simp)
    (by rw [ha.shape_eq, Shape.getD_around, Shape.getD_around]) fun hrange => ?_
  have hextent (x : Nat) : (batch ++ [m, x]).getD batch.length 0 = m := Shape.getD_around ..
  have hsame : Shape.HasRange (batch ++ [m, k]) batch.length start length := by
    rwa [Shape.hasRange_congr (by simp) ((hextent k).trans (hextent n).symm)]
  have hrows := ha.makes_narrow hsame
  have hnarrowed := hrange.addressable_set hout
  rw [Shape.set_around] at hrows hnarrowed ⊢
  have hmade := hrows.bind fun rows hrows => hrows.hasEntries.makes_matmul hb hnarrowed
  refine hmade.congr (forall_isPlace_matrices.2 fun place i j hplace hi hj => ?_)
  rw [hplace.modify_append, productEntry_append hplace, productEntry_append hplace]
  refine dot?_congr (fun p _ => ?_) (fun p _ => rfl)
  rw [hplace.modify_append]

/-- A range of the columns is that of the right factor. -/
theorem narrow_product_columns :
    product.narrow (batch.length + 1) start length = (do
      let columns ← right.narrow (batch.length + 1) start length
      left.matmul columns) := by
  have hextent (x y : Nat) : (batch ++ [x, y]).getD (batch.length + 1) 0 = y := by simp
  have hset (x y z : Nat) : (batch ++ [x, y]).set (batch.length + 1) z = batch ++ [x, z] := by simp
  refine hproduct.narrow_eq (by rw [rank, hb.shape_eq]; simp)
    (by rw [hb.shape_eq, hextent, hextent]) fun hrange => ?_
  have hsame : Shape.HasRange (batch ++ [k, n]) (batch.length + 1) start length := by
    rwa [Shape.hasRange_congr (by simp) ((hextent k n).trans (hextent m n).symm)]
  have hcolumns := hb.makes_narrow hsame
  have hnarrowed := hrange.addressable_set hout
  rw [hset] at hcolumns hnarrowed ⊢
  have hmade := hcolumns.bind fun columns hcolumns => ha.makes_matmul hcolumns.hasEntries hnarrowed
  refine hmade.congr (forall_isPlace_matrices.2 fun place i j hplace hi hj => ?_)
  have hmodify (x y : Nat) : (place ++ [x, y]).modify (batch.length + 1) (start + ·) =
      place ++ [x, start + y] := by
    rw [Shape.modify_eq_set, ← hplace.length_eq]
    simp
  rw [hmodify, productEntry_append hplace, productEntry_append hplace]
  refine dot?_congr (fun p _ => rfl) (fun p _ => ?_)
  rw [hmodify]

end Products

/-- Where two tensors have a product, the product of their transposed matrices in reverse order is its
transpose, if it does not matter in which order two elements are multiplied; and a range of the
product, on an axis of the batch, of the rows or of the columns, is the product of the ranges of the
factors that have this axis. A range that does not exist is refused alike. No sum is taken in another
order. -/
theorem matmul_rearranges_with_factors [Zero α] [Add α] [Mul α] (hleft : left.WellFormed)
    (hright : right.WellFormed) (hproduct : left.matmul right = .ok product) :
    2 ≤ left.rank ∧ right.rank = left.rank ∧ product.rank = left.rank ∧
    ((∀ x y : α, x * y = y * x) → ∃ result,
      product.transpose (left.rank - 2) (left.rank - 1) = .ok result ∧
      (do
        let rows ← right.transpose (left.rank - 2) (left.rank - 1)
        let columns ← left.transpose (left.rank - 2) (left.rank - 1)
        rows.matmul columns) = .ok result) ∧
    ∀ start length,
      (∀ axis, axis < left.rank - 2 → product.narrow axis start length = (do
        let rows ← left.narrow axis start length
        let columns ← right.narrow axis start length
        rows.matmul columns)) ∧
      product.narrow (left.rank - 2) start length = (do
        let rows ← left.narrow (left.rank - 2) start length
        rows.matmul right) ∧
      product.narrow (left.rank - 1) start length = (do
        let columns ← right.narrow (left.rank - 1) start length
        left.matmul columns) := by
  obtain ⟨batch, m, k, n, hfit, hout⟩ := (exists_matmul_iff hleft hright).1 ⟨product, hproduct⟩
  have ha := hleft.hasEntries hfit.left_eq
  have hb := hright.hasEntries hfit.right_eq
  have hmade := ((ha.makes_matmul hb hout).tabulates hproduct).hasEntries
  have hrank : left.rank = batch.length + 2 := by
    rw [rank, hfit.left_eq, List.length_append]
    rfl
  have hrows : left.rank - 2 = batch.length := by omega
  have hcolumns : left.rank - 1 = batch.length + 1 := by omega
  rw [hrows, hcolumns]
  refine ⟨by omega, ?_, ?_, fun hcomm => ?_, fun start length => ⟨fun axis haxis => ?_, ?_, ?_⟩⟩
  · rw [rank, hrank, hfit.right_eq, List.length_append]
    rfl
  · rw [rank, hrank, hmade.shape_eq, List.length_append]
    rfl
  · obtain ⟨result, hresult, -⟩ := hmade.makes_transpose
    exact ⟨result, hresult, (matmul_transpose ha hb hout hmade hcomm).trans hresult⟩
  · exact narrow_product_batch ha hb hout hmade haxis
  · exact narrow_product_rows ha hb hout hmade
  · exact narrow_product_columns ha hb hout hmade

/-- A batch of two products of matrices with two rows, one inner place and three columns. -/
theorem matmul_of_two_rearranges_with_factors :
    let left : Tensor HeapStorage Nat := { storage := ⟨#[1, 2, 3, 4]⟩, shape := [2, 2, 1] }
    let right : Tensor HeapStorage Nat := { storage := ⟨#[5, 6, 7, 8, 9, 10]⟩, shape := [2, 1, 3] }
    let product : Tensor HeapStorage Nat :=
      { storage := ⟨#[5, 6, 7, 10, 12, 14, 24, 27, 30, 32, 36, 40]⟩, shape := [2, 2, 3] }
    left.WellFormed ∧ right.WellFormed ∧ left.matmul right = .ok product ∧
      (∃ result, product.transpose 1 2 = .ok result ∧ (do
        let rows ← right.transpose 1 2
        let columns ← left.transpose 1 2
        rows.matmul columns) = .ok result) ∧
      product.narrow 0 1 1 = (do
        let rows ← left.narrow 0 1 1
        let columns ← right.narrow 0 1 1
        rows.matmul columns) ∧
      product.narrow 2 1 2 = (do
        let columns ← right.narrow 2 1 2
        left.matmul columns) := by
  intro left right product
  have hleft : left.WellFormed := by decide
  have hright : right.WellFormed := by decide
  have hproduct : left.matmul right = .ok product := by cbv
  obtain ⟨-, -, -, htranspose, hnarrow⟩ := matmul_rearranges_with_factors hleft hright hproduct
  exact ⟨hleft, hright, hproduct, htranspose Nat.mul_comm, (hnarrow 1 1).1 0 (by decide),
    (hnarrow 1 2).2.2⟩

end Tensor

end ShapeAssert
