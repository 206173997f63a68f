import ShapeAssert.Program.Basic
import ShapeAssert.Proofs.Tensor.Fitting

/-! What holds of the tensors of a program. Whatever steps a program is made of, every tensor it makes
has an addressable shape, as many elements as the shape asks for, and row-major strides; and only a
step that is given elements can be told that they are of another number. -/

namespace ShapeAssert

variable {S : Type → Type} [Storage S] {σ α : Type}

/-! ### Generated tensors -/

theorem Fill.not_isMisfit_of_generate [Element α] {fill : Fill} {source : RandomSource σ α}
    {count : Nat} {state : σ} {e : Error} (h : fill.generate source count state = .error e) :
    ¬e.IsMisfit := by
  cases fill with
  | constant value =>
      have helement := map_eq_error.1 h
      rw [element] at helement
      split at helement
      · cases helement
      · obtain rfl := Except.error.inj helement
        exact id
  | _ => cases h

namespace Backend

/-- What a backend stores can be read back. -/
def Faithful (backend : Backend S α) : Prop :=
  ∀ data directory storage directory',
    backend.store data directory = (.ok storage, directory') → Storage.elements storage = data

theorem faithful_heap : (heap : Backend HeapStorage α).Faithful := by
  intro data directory storage directory' h
  obtain ⟨rfl, -⟩ := by simpa [heap] using h
  rfl

theorem faithful_mapped : (mapped : Backend MappedStorage α).Faithful := by
  intro data directory storage directory' h
  obtain ⟨rfl, -⟩ := by simpa [mapped] using h
  exact MappedStorage.elements_ofMap data none

theorem faithful_files : (files : Backend MappedStorage α).Faithful := by
  intro data directory storage directory' h
  change MappedStorage.inDirectory data directory = _ at h
  rw [MappedStorage.inDirectory] at h
  split at h
  · obtain ⟨rfl, -⟩ := by simpa using h
    exact MappedStorage.elements_ofMap data none
  · split at h
    · next name created hcreate =>
        obtain ⟨rfl, -⟩ := by simpa using h
        exact MappedStorage.elements_ofMap data (some name)
    · cases h

variable [Element α] {backend : Backend S α}

/-- Generating a tensor generates as many elements as its shape asks for. -/
theorem Faithful.fitting_build (h : backend.Faithful) (source : RandomSource σ α) (shape : Shape)
    (fill : Fill) (room : Room σ) : Tensor.Fitting (backend.build source shape fill room).1 := by
  rw [build_eq]
  split
  · next e hcount =>
      obtain ⟨-, rfl⟩ := Shape.elementCount_eq_error.1 hcount
      exact id
  next count hcount =>
  split
  · next e hfill => exact Fill.not_isMisfit_of_generate hfill
  next data random hfill =>
  split
  · exact id
  next storage directory hstore =>
  have hfitting : Tensor.Fitting (Tensor.ofStorage storage shape) := by
    refine Tensor.fitting_ofStorage fun hshape => ?_
    rw [h _ _ _ _ hstore, Fill.size_generate hfill]
    rw [hshape.elementCount] at hcount
    exact (Except.ok.inj hcount).symm
  split
  · next e htensor =>
      rw [htensor] at hfitting
      exact hfitting
  · next tensor htensor =>
      rw [htensor] at hfitting
      exact hfitting

end Backend

/-! ### Representation -/

/-- What holds of every tensor: the product of the extents that are not zero is a size, the storage
holds as many elements as there are places, and the strides are row-major and do not wrap. -/
structure Tensor.Represented (tensor : Tensor S α) : Prop where
  addressable : Shape.product (tensor.shape.filter (· ≠ 0)) < sizeLimit
  size_data : tensor.data.size = tensor.shape.product
  strides : tensor.strides = Shape.rowMajor tensor.shape

theorem Tensor.represented_iff {tensor : Tensor S α} : tensor.Represented ↔ tensor.WellFormed := by
  rw [wellFormed_iff, Shape.addressable_iff, ← Shape.product_filter_ne_zero]
  constructor
  · intro h
    exact ⟨h.addressable, h.size_data⟩
  · rintro ⟨hshape, hsize⟩
    refine ⟨hshape, hsize, ?_⟩
    rw [Shape.product_filter_ne_zero] at hshape
    exact tensor.strides_eq.trans (Shape.addressable_iff.2 hshape).strides

/-! ### Steps -/

/-- The result of a step that is given no elements: a well-formed tensor, or a failure that is not
about the number of elements. -/
def StepFitting (result : Except StepFailure (Tensor S α)) : Prop :=
  (∀ tensor, result = .ok tensor → tensor.WellFormed) ∧
    ∀ e, result = .error (.error e) → ¬e.IsMisfit

theorem Tensor.Fitting.mapError {result : Except Error (Tensor S α)} (h : Tensor.Fitting result) :
    StepFitting (result.mapError .error) := by
  cases result with
  | ok tensor =>
      refine ⟨fun other hother => ?_, fun e he => ?_⟩
      · obtain rfl := Except.ok.inj hother
        exact h
      · cases he
  | error e =>
      refine ⟨fun other hother => ?_, fun e' he => ?_⟩
      · cases hother
      · obtain rfl := StepFailure.error.inj (Except.error.inj he)
        exact h

theorem stepFitting_noValue (x : String) :
    StepFitting (.error (.noValue x) : Except StepFailure (Tensor S α)) := by
  refine ⟨fun tensor hok => ?_, fun e he => ?_⟩
  · cases hok
  · cases he

/-- The tensors named so far are well-formed and their buffers smaller than the largest size. -/
def Names.Sound (names : Names S α) : Prop :=
  ∀ entry ∈ names, entry.2.WellFormed ∧ entry.2.data.size < maxSize

namespace Names

variable {names : Names S α} {x : String} {tensor : Tensor S α}

omit [Storage S] in
theorem get_eq_ok : names.get x = .ok tensor ↔ names.lookup x = some tensor := by
  rw [get]
  cases names.lookup x <;> simp

omit [Storage S] in
theorem get_eq_error {failure : StepFailure} (h : names.get x = .error failure) :
    failure = .noValue x := by
  rw [get] at h
  split at h
  · cases h
  · exact (Except.error.inj h).symm

theorem Sound.get (h : names.Sound) (hget : names.get x = .ok tensor) :
    tensor.WellFormed ∧ tensor.data.size < maxSize := by
  obtain ⟨before, after, rfl, -⟩ := List.lookup_eq_some_iff.1 (get_eq_ok.1 hget)
  exact h (x, tensor) (by simp)

/-- A step that reads a name and works on its tensor. -/
theorem Sound.fitting_bind (h : names.Sound) {next : Tensor S α → Except StepFailure (Tensor S α)}
    (hnext : ∀ tensor, tensor.WellFormed → tensor.data.size < maxSize → StepFitting (next tensor)) :
    StepFitting (names.get x >>= next) := by
  cases hget : names.get x with
  | error failure =>
      obtain rfl := get_eq_error hget
      exact stepFitting_noValue x
  | ok tensor =>
      obtain ⟨hwell, hsize⟩ := h.get hget
      exact hnext tensor hwell hsize

theorem Sound.fitting_bind_mapM (h : names.Sound) {xs : List String}
    {next : List (Tensor S α) → Except StepFailure (Tensor S α)}
    (hnext : ∀ tensors : List (Tensor S α), (∀ tensor ∈ tensors, tensor.WellFormed) →
      StepFitting (next tensors)) :
    StepFitting (xs.mapM names.get >>= next) := by
  cases hget : xs.mapM names.get with
  | error failure =>
      obtain ⟨x, -, hx⟩ := mapM_eq_error hget
      obtain rfl := get_eq_error hx
      exact stepFitting_noValue x
  | ok tensors =>
      refine hnext tensors fun tensor hmem => ?_
      obtain ⟨x, -, hx⟩ := exists_of_mem_mapM hget hmem
      exact (h.get hx).1

end Names

/-- The operations that are given the elements of the tensor they make. -/
def Operation.GivenElements : Operation α → Prop
  | ofArray .. | ofStorage .. => True
  | _ => False

variable [Element α] {names : Names S α}

theorem Operation.fitting_run (h : names.Sound) {operation : Operation α}
    (hgiven : ¬operation.GivenElements) : StepFitting (operation.run names) := by
  cases operation with
  | ofArray data shape => exact absurd trivial hgiven
  | ofStorage data shape => exact absurd trivial hgiven
  | clone x =>
      refine ⟨fun tensor hok => (h.get hok).1, fun e he => ?_⟩
      cases Names.get_eq_error he
  | reshape x shape =>
      exact h.fitting_bind fun _ hwell hsize => (Tensor.fitting_reshape hwell hsize shape).mapError
  | elementwise op x y =>
      refine h.fitting_bind fun left hleft _ => h.fitting_bind fun right hright _ => ?_
      cases op with
      | add => exact (Tensor.fitting_zipWith _ hleft hright).mapError
      | sub => exact (Tensor.fitting_zipWith _ hleft hright).mapError
      | mul => exact (Tensor.fitting_zipWith _ hleft hright).mapError
  | scale x factor =>
      exact h.fitting_bind fun _ hwell _ => (Tensor.fitting_scale hwell factor).mapError
  | reduce op x axis keep =>
      refine h.fitting_bind fun tensor _ _ => ?_
      cases op with
      | sum => exact (Tensor.fitting_sumAxis tensor axis keep).mapError
      | mean => exact (Tensor.fitting_meanAxis tensor axis keep).mapError
  | narrow x axis start length =>
      exact h.fitting_bind fun _ hwell _ =>
        (Tensor.fitting_narrow hwell axis start length).mapError
  | concat xs axis =>
      exact h.fitting_bind_mapM fun _ hwell => (Tensor.fitting_concat hwell axis).mapError
  | permute x order =>
      exact h.fitting_bind fun _ hwell _ => (Tensor.fitting_permute hwell order).mapError
  | transpose x a b =>
      exact h.fitting_bind fun _ hwell _ => (Tensor.fitting_transpose hwell a b).mapError
  | matmul x y =>
      exact h.fitting_bind fun left _ _ => h.fitting_bind fun right _ _ =>
        (Tensor.fitting_matmul left right).mapError

/-- A tensor made of given elements is well-formed, since their number is checked. -/
theorem Operation.wellFormed_of_given {operation : Operation α} (hgiven : operation.GivenElements)
    {tensor : Tensor S α} (h : operation.run names = .ok tensor) : tensor.WellFormed := by
  cases operation with
  | ofArray data shape =>
      have hmade := mapError_eq_ok.1 h
      rw [Tensor.ofArray_eq] at hmade
      obtain ⟨hcount, rfl⟩ := Tensor.ofStorage_eq_ok_iff.1 hmade
      exact hcount
  | ofStorage data shape =>
      obtain ⟨hcount, rfl⟩ := Tensor.ofStorage_eq_ok_iff.1 (mapError_eq_ok.1 h)
      exact hcount
  | _ => exact absurd hgiven id

/-- The steps that may report a wrong number of elements: those that are given elements, and those
that fail as they are told. -/
def Step.MayMisfit : Step α → Prop
  | build .. => False
  | compute operation => operation.GivenElements
  | fail _ => True

theorem Step.sound_run {backend : Backend S α} (hbackend : backend.Faithful)
    (source : RandomSource σ α) (h : names.Sound) (room : Room σ) (step : Step α) :
    (∀ tensor, (step.run backend source names room).1 = .ok tensor → tensor.WellFormed) ∧
      ∀ e, (step.run backend source names room).1 = .error (.error e) → e.IsMisfit →
        step.MayMisfit := by
  cases step with
  | build shape fill =>
      obtain ⟨hok, herror⟩ := (hbackend.fitting_build source shape fill room).mapError
      exact ⟨hok, fun e he hmisfit => absurd hmisfit (herror e he)⟩
  | compute operation =>
      by_cases hgiven : operation.GivenElements
      · exact ⟨fun tensor hok => operation.wellFormed_of_given hgiven hok, fun _ _ _ => hgiven⟩
      · obtain ⟨hok, herror⟩ := operation.fitting_run h hgiven
        exact ⟨hok, fun e he hmisfit => absurd hmisfit (herror e he)⟩
  | fail failure =>
      refine ⟨fun tensor hok => ?_, fun _ _ _ => trivial⟩
      cases hok

/-! ### Programs -/

theorem forall₂_sound_runSteps {backend : Backend S α} (hbackend : backend.Faithful)
    (source : RandomSource σ α) {number : Nat} {steps : List (Step α)} {names : Names S α}
    {room : Room σ} (h : names.Sound)
    (hbuffers : ∀ tensor, .ok tensor ∈ (runSteps backend source number steps names room).1 →
      tensor.data.size < maxSize) :
    List.Forall₂ (fun step result =>
        (∀ tensor, result = .ok tensor → tensor.WellFormed) ∧
          ∀ e, result = .error (.error e) → e.IsMisfit → step.MayMisfit)
      steps (runSteps backend source number steps names room).1 := by
  induction steps generalizing number names room with
  | nil => exact .nil
  | cons step steps ih =>
      have hstep := step.sound_run hbackend source h room
      rw [runSteps] at hbuffers ⊢
      dsimp only at hbuffers ⊢
      refine .cons hstep (ih ?_ fun tensor hmem => hbuffers tensor (List.mem_cons_of_mem _ hmem))
      cases hresult : (step.run backend source names room).1 with
      | error failure => exact h
      | ok tensor =>
          refine List.forall_mem_cons.2 ⟨⟨hstep.1 tensor hresult, hbuffers tensor ?_⟩, h⟩
          exact List.mem_cons.2 (.inl hresult.symm)

/-- Every tensor that a program makes from well-formed tensors is represented as it should be, and
only the steps that are given elements report a wrong number of them, as long as no buffer has as many
elements as the largest size. -/
theorem runSteps_keeps_representation {backend : Backend S α} (hbackend : backend.Faithful)
    (source : RandomSource σ α) (number : Nat) (steps : List (Step α)) (names : Names S α)
    (room : Room σ)
    (hnames : ∀ entry ∈ names, entry.2.Represented ∧ entry.2.data.size < maxSize)
    (hbuffers : ∀ tensor, .ok tensor ∈ (runSteps backend source number steps names room).1 →
      tensor.data.size < maxSize) :
    List.Forall₂ (fun step result =>
        (∀ tensor, result = .ok tensor → tensor.Represented) ∧
          ∀ shape expected actual, result = .error (.error (.shapeSize shape expected actual)) →
            (∃ data shape', step = .compute (.ofArray data shape') ∨
              step = .compute (.ofStorage data shape')) ∨ ∃ failure, step = .fail failure)
      steps (runSteps backend source number steps names room).1 := by
  have hsound : names.Sound := fun entry hmem =>
    ⟨Tensor.represented_iff.1 (hnames entry hmem).1, (hnames entry hmem).2⟩
  refine (forall₂_sound_runSteps hbackend source hsound hbuffers).imp ?_
  rintro step result ⟨hok, herror⟩
  refine ⟨fun tensor htensor => Tensor.represented_iff.2 (hok tensor htensor),
    fun shape expected actual he => ?_⟩
  have hmay := herror _ he trivial
  cases step with
  | build => exact absurd hmay id
  | fail failure => exact .inr ⟨failure, rfl⟩
  | compute operation =>
      cases operation with
      | ofArray data shape' => exact .inl ⟨data, shape', .inl rfl⟩
      | ofStorage data shape' => exact .inl ⟨data, shape', .inr rfl⟩
      | _ => exact absurd hmay id

/-- A program with tensors over files, an empty axis beside an extent of `2 ^ 63`, and elements of
the wrong number. -/
theorem runSteps_keeps_representation_beside_empty_axis :
    let steps : List (Step Float) :=
      [.build [2, 3] .ones, .compute (.permute "s0" [1, 0]), .compute (.reduce .sum "s1" 0 false),
        .compute (.ofArray #[] [0, 9223372036854775808]), .compute (.transpose "s3" 0 1),
        .compute (.narrow "s4" 0 5 9223372036854775800), .compute (.reshape "s5" [0]),
        .compute (.ofArray #[] [1])]
    let source := RandomSource.scripted (0 : Float)
    let results := (runSteps Backend.files source 0 steps [] ⟨[], .empty⟩).1
    (∀ tensor, .ok tensor ∈ results → tensor.data.size < maxSize) ∧
      (results.map fun result => result.toOption.map (·.shape)) =
        [some [2, 3], some [3, 2], some [2], some [0, 9223372036854775808],
          some [9223372036854775808, 0], some [9223372036854775800, 0], some [0], none] ∧
      List.Forall₂ (fun step result =>
          (∀ tensor, result = .ok tensor → tensor.Represented) ∧
            ∀ shape expected actual, result = .error (.error (.shapeSize shape expected actual)) →
              (∃ data shape', step = .compute (.ofArray data shape') ∨
                step = .compute (.ofStorage data shape')) ∨ ∃ failure, step = .fail failure)
        steps results := by
  intro steps source results
  have hsizes : (results.all fun result => result.toOption.all (·.data.size < maxSize)) = true := by
    rfl
  have hbuffers : ∀ tensor, .ok tensor ∈ results → tensor.data.size < maxSize := by
    intro tensor hmem
    simpa [Except.toOption] using List.all_eq_true.1 hsizes _ hmem
  exact ⟨hbuffers, by rfl, runSteps_keeps_representation Backend.faithful_files source 0 steps []
    ⟨[], .empty⟩ (by simp) hbuffers⟩

end ShapeAssert
