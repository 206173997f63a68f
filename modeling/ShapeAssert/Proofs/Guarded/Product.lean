import ShapeAssert.Proofs.Guarded.Loop

/-! Products of matrices, with every place computed in sizes. -/

namespace ShapeAssert.Guarded

variable {S : Type → Type} [Storage S] {α : Type}

/-- Where the matrices of one place of the batch begin: in the left factor, in the right one and in
the product. -/
structure Bases where
  left : Nat
  right : Nat
  out : Nat

def bases (sizes : MatrixSizes) (b : Nat) : Option Bases := do
  let left ← mul (← mul b sizes.m) sizes.k
  let right ← mul (← mul b sizes.k) sizes.n
  let out ← mul (← mul b sizes.m) sizes.n
  return ⟨left, right, out⟩

/-- Where a row and a column lie in a matrix of a given width that begins at `base`. -/
def entryPlace (base row width column : Nat) : Option Nat := do
  add (← add base (← mul row width)) column

/-- Adds one entry of the left factor times one row of the right factor to a row of the product. -/
def addRow [Add α] [Mul α] (sizes : MatrixSizes) (left right : Array α) (bases : Bases) (i p : Nat)
    (out : Array α) : Option (Array α) := do
  let x ← left[← entryPlace bases.left i sizes.k p]?
  loop sizes.n out fun j out => do
    let y ← right[← entryPlace bases.right p sizes.n j]?
    let place ← entryPlace bases.out i sizes.n j
    update out place (· + x * y)

/-- Adds the product of the matrices at one place of the batch. -/
def addMatrix [Add α] [Mul α] (sizes : MatrixSizes) (left right : Array α) (b : Nat)
    (out : Array α) : Option (Array α) := do
  let bases ← bases sizes b
  loop sizes.m out fun i out =>
    loop sizes.k out fun p out => addRow sizes left right bases i p out

/-- The products of the matrices, added up in a buffer of `count` zeros. -/
def products [Zero α] [Add α] [Mul α] (sizes : MatrixSizes) (left right : Array α) (count : Nat) :
    Option (Array α) :=
  loop sizes.batch (Array.replicate count 0) fun b out => addMatrix sizes left right b out

def matmul [Zero α] [Add α] [Mul α] (left right : Tensor S α) : Run (Tensor S α) :=
  match Tensor.matrixSizes? left.shape right.shape with
  | none => throw (.incompatibleShapes left.shape right.shape)
  | some sizes => do
      let axes ← Run.step (firstAxes left.shape (left.rank - 2))
      let batch ← Run.step (product axes)
      let shape : Shape := axes ++ [sizes.m, sizes.n]
      let count ← Run.safe shape.elementCount
      let data ← Run.step (products { sizes with batch } left.data right.data count)
      Run.safe (Tensor.ofArray data shape)

theorem entryPlace_eq {base row width column : Nat} (hrow : row * width < sizeLimit)
    (h : base + row * width + column < sizeLimit) :
    entryPlace base row width column = some (base + row * width + column) := by
  unfold entryPlace
  rw [mul_eq_some hrow]
  simp only [Option.bind_eq_bind, Option.bind_some]
  rw [add_eq_some (by omega), Option.bind_some, add_eq_some h]

/-- Numbering the rows of all matrices in a batch one after the other. -/
theorem div_mod_rows (m n place : Nat) : place / (m * n) = place / n / m ∧
    place % (m * n) / n = place / n % m ∧ place % (m * n) % n = place % n := by
  rw [Nat.mul_comm m]
  exact ⟨(Nat.div_div_eq_div_mul ..).symm, Nat.mod_mul_right_div_self .., Nat.mod_mul_right_mod ..⟩

/-- All products of entries that belong to one entry of the product, added to what is there. -/
def accumulate [Zero α] [Add α] [Mul α] (sizes : MatrixSizes) (left right : Array α) (b i j : Nat)
    (total : α) : α :=
  sizes.k.fold (fun p _ total =>
    total + left.getD (sizes.leftOffset b i p) 0 * right.getD (sizes.rightOffset b p j) 0) total

section Products

variable {sizes : MatrixSizes} {left right : Array α}
  (hleft : Shape.Addressable [sizes.batch, sizes.m, sizes.k])
  (hright : Shape.Addressable [sizes.batch, sizes.k, sizes.n])
  (hout : Shape.Addressable [sizes.batch, sizes.m, sizes.n])
include hleft hright hout

theorem bases_eq {b : Nat} (hb : b < sizes.batch) :
    bases sizes b = some ⟨b * sizes.m * sizes.k, b * sizes.k * sizes.n, b * sizes.m * sizes.n⟩ := by
  unfold bases
  rw [mul_eq_some (grid_first_lt hleft hb.le le_rfl), mul_eq_some (grid_first_lt hright hb.le le_rfl)]
  simp only [Option.bind_eq_bind, Option.bind_some]
  rw [mul_eq_some (grid_mul_lt hleft (by omega) (by omega) (by omega)), Option.bind_some,
    mul_eq_some (grid_mul_lt hright (by omega) (by omega) (by omega)), Option.bind_some,
    mul_eq_some (grid_mul_lt hout (by omega) (by omega) (by omega))]
  rfl

variable [Zero α] [Add α] [Mul α]
  (hleftData : left.size = sizes.batch * (sizes.m * sizes.k))
  (hrightData : right.size = sizes.batch * (sizes.k * sizes.n))
include hleftData hrightData

/-- Of the product only row `i` changes, each entry by the one product that is added to it. -/
theorem addRow_eq {b i p : Nat} (hb : b < sizes.batch) (hi : i < sizes.m) (hp : p < sizes.k)
    {out : Array α} (hsize : out.size = sizes.batch * (sizes.m * sizes.n)) :
    addRow sizes left right ⟨b * sizes.m * sizes.k, b * sizes.k * sizes.n, b * sizes.m * sizes.n⟩ i p
        out =
      some (alter (b * sizes.m * sizes.n + i * sizes.n) sizes.n (fun j total =>
        total + left.getD (sizes.leftOffset b i p) 0 * right.getD (sizes.rightOffset b p j) 0) out) := by
  have hleftPlace := grid_place_lt hb hi hp
  have hleftSize := grid_size_lt hleft
  have hrightSize := grid_size_lt hright
  have houtSize := grid_size_lt hout
  unfold addRow
  dsimp only
  rw [entryPlace_eq (grid_last_lt hleft hi.le le_rfl) (by omega)]
  simp only [Option.bind_eq_bind, Option.bind_some]
  rw [Array.getElem?_eq_getElem (by omega), Option.bind_some]
  refine loop_places hsize fun j hj out hsize => ?_
  have hrightPlace := grid_place_lt hb hp hj
  have houtPlace := grid_place_lt hb hi hj
  rw [entryPlace_eq (grid_last_lt hright hp.le le_rfl) (by omega), Option.bind_some,
    Array.getElem?_eq_getElem (by omega), Option.bind_some,
    entryPlace_eq (grid_last_lt hout hi.le le_rfl) (by omega), Option.bind_some,
    update_eq_alter (by omega)]
  simp only [MatrixSizes.leftOffset, MatrixSizes.rightOffset]
  rw [Array.getElem_eq_getD 0, Array.getElem_eq_getD 0]

theorem addMatrix_eq {b : Nat} (hb : b < sizes.batch) {out : Array α}
    (hsize : out.size = sizes.batch * (sizes.m * sizes.n)) :
    addMatrix sizes left right b out =
      some (alter (b * (sizes.m * sizes.n)) (sizes.m * sizes.n) (fun place =>
        accumulate sizes left right b (place / sizes.n) (place % sizes.n)) out) := by
  have hrow (i : Nat) (hi : i < sizes.m) (out : Array α)
      (hsize : out.size = sizes.batch * (sizes.m * sizes.n)) :
      loop sizes.k out (fun p out => addRow sizes left right
        ⟨b * sizes.m * sizes.k, b * sizes.k * sizes.n, b * sizes.m * sizes.n⟩ i p out) =
        some (alter (b * sizes.m * sizes.n + i * sizes.n) sizes.n
          (accumulate sizes left right b i) out) :=
    loop_same hsize fun p hp out hsize =>
      addRow_eq hleft hright hout hleftData hrightData hb hi hp hsize
  unfold addMatrix
  rw [bases_eq hleft hright hout hb, ← Nat.mul_assoc]
  exact loop_blocks hsize hrow

theorem products_eq {count : Nat} (hcount : count = sizes.batch * (sizes.m * sizes.n)) :
    products sizes left right count = some (Array.ofFn fun place : Fin count =>
      sizes.entry left right (place / sizes.n / sizes.m) (place / sizes.n % sizes.m)
        (place % sizes.n)) := by
  subst hcount
  have hmatrix (b : Nat) (hb : b < sizes.batch) (out : Array α)
      (hsize : out.size = sizes.batch * (sizes.m * sizes.n)) :
      addMatrix sizes left right b out =
        some (alter (0 + b * (sizes.m * sizes.n)) (sizes.m * sizes.n) (fun place =>
          accumulate sizes left right b (place / sizes.n) (place % sizes.n)) out) := by
    rw [Nat.zero_add, addMatrix_eq hleft hright hout hleftData hrightData hb hsize]
  unfold products
  rw [loop_blocks Array.size_replicate hmatrix, alter_replicate]
  refine congrArg some (congrArg Array.ofFn (funext fun place => ?_))
  -- the blocks are matrices and rows within them, the entries are told apart by rows of all matrices
  obtain ⟨hbatch, hrow, hcolumn⟩ := div_mod_rows sizes.m sizes.n place
  rw [hbatch, hrow, hcolumn]
  rfl

end Products

/-- A shape of at least two axes ends with the last two of them. -/
theorem eq_append_pair {shape : Shape} (h : 2 ≤ shape.length) :
    shape = shape.take (shape.length - 2) ++
      [shape.getD (shape.length - 2) 0, shape.getD (shape.length - 1) 0] := by
  have hlast : shape.drop (shape.length - 2 + 1) = [shape.getD (shape.length - 1) 0] := by
    have hsucc : shape.length - 2 + 1 = shape.length - 1 := by omega
    have hend : shape.length - 1 + 1 = shape.length := by omega
    have hlt : shape.length - 1 < shape.length := by omega
    rw [hsucc, List.drop_eq_getElem_cons hlt, hend, List.drop_length, List.getD_eq_getElem _ _ hlt]
  have hbefore : shape.length - 2 < shape.length := by omega
  have hsplit := Shape.eq_append_of_lt hbefore
  rwa [hlast] at hsplit

/-- The grid of matrices in a batch. -/
theorem addressable_matrices {batch : Shape} {rows columns : Nat}
    (h : Shape.Addressable (batch ++ [rows, columns])) :
    Shape.Addressable [batch.product, rows, columns] := by
  rw [List.append_cons] at h
  have hgrid := addressable_grid h
  rwa [Shape.product_cons, Shape.product_cons, Shape.product_nil, Nat.mul_one, Nat.mul_one] at hgrid

theorem product_matrices (batch : Shape) (rows columns : Nat) :
    Shape.product (batch ++ [rows, columns]) = batch.product * (rows * columns) := by
  rw [Shape.product_append, Shape.product_cons, Shape.product_cons, Shape.product_nil, Nat.mul_one]

/-- Shapes that can be multiplied are made up of the same batch axes and matrices that fit. -/
theorem matrixSizes?_eq_some {left right : Shape} {sizes : MatrixSizes}
    (h : Tensor.matrixSizes? left right = some sizes) :
    ∃ batch : Shape, left = batch ++ [sizes.m, sizes.k] ∧ right = batch ++ [sizes.k, sizes.n] ∧
      left.take (left.length - 2) = batch ∧ sizes.batch = batch.product := by
  unfold Tensor.matrixSizes? at h
  dsimp only at h
  split at h
  swap
  · cases h
  next hfit =>
    obtain ⟨hrank, hlength, hbatch, hinner⟩ := hfit
    obtain rfl := Option.some.inj h
    refine ⟨left.take (left.length - 2), eq_append_pair hrank, ?_, rfl, rfl⟩
    have hright := eq_append_pair (hlength.symm ▸ hrank)
    rw [hlength, ← hbatch, ← hinner] at hright
    exact hright

variable {left right : Tensor S α}

theorem matmul_eq [Zero α] [Add α] [Mul α] (hleft : left.WellFormed) (hright : right.WellFormed) :
    matmul left right = Run.safe (left.matmul right) := by
  unfold matmul Tensor.matmul
  cases hsizes : Tensor.matrixSizes? left.shape right.shape with
  | none => rfl
  | some sizes =>
      obtain ⟨batch, hleftShape, hrightShape, htake, hbatch⟩ := matrixSizes?_eq_some hsizes
      obtain ⟨_, m, k, n⟩ := sizes
      dsimp only at hleftShape hrightShape hbatch ⊢
      have hleftMatrices : Shape.Addressable (batch ++ [m, k]) := hleftShape ▸ hleft.addressable
      have hrightMatrices : Shape.Addressable (batch ++ [k, n]) := hrightShape ▸ hright.addressable
      have hrank : left.shape.take (left.rank - 2) = batch := htake
      have hbatchAxes : batch.Addressable := hrank ▸ hleft.addressable.take _
      have haxes : left.rank - 2 ≤ left.shape.length := Nat.sub_le left.rank 2
      rw [firstAxes_eq_some haxes, Run.step_some_bind, hrank, product_eq_some hbatchAxes,
        Run.step_some_bind]
      refine Run.safe_bind fun count hcount => ?_
      obtain ⟨hout, rfl⟩ := Shape.checkedSize_eq_some.1 (Shape.elementCount_eq_ok.1 hcount)
      subst hbatch
      have hleftData : left.data.size = batch.product * (m * k) := by
        rw [hleft.size_data, hleftShape, product_matrices]
      have hrightData : right.data.size = batch.product * (k * n) := by
        rw [hright.size_data, hrightShape, product_matrices]
      rw [products_eq (addressable_matrices hleftMatrices) (addressable_matrices hrightMatrices)
        (addressable_matrices (Shape.addressable_iff.2 hout)) hleftData hrightData
        (product_matrices batch m n)]
      rfl

end ShapeAssert.Guarded
