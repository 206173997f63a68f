import ShapeAssert.Check.Trial
import ShapeAssert.Proofs.Sequence

/-! The files behind generated tensors. Generating a tensor leaves one new file in the directory or
none, and none if it fails, at whatever point that is. What it does depends on the next name and on
which names fail, not on the files that are there. So a check that gives up all its inputs leaves the
files of the directory as it found them. -/

namespace ShapeAssert

variable {S : Type → Type} [Storage S] {σ κ ε α : Type}

/-- The file behind a tensor, if there is one. -/
def Tensor.file? (tensor : Tensor S α) : Option FileName :=
  Storage.file? tensor.storage

theorem Tensor.storage_of_ofStorage {storage : S α} {shape : Shape} {tensor : Tensor S α}
    (h : ofStorage storage shape = .ok tensor) : tensor.storage = storage := by
  obtain ⟨-, rfl⟩ := ofStorage_eq_ok_iff.1 h
  rfl

/-! ### Directories -/

namespace Directory

variable {directory directory' : Directory}

theorem eq_of_fields (hfiles : directory.files = directory'.files)
    (hnext : directory.next = directory'.next) (hfaults : directory.faults = directory'.faults) :
    directory = directory' := by
  cases directory
  cases directory'
  simp_all

/-- A file that could not be set up leaves nothing behind. -/
theorem files_add_remove (directory : Directory) :
    (directory.add.remove directory.next).files = directory.files := by
  have hold : ∀ name ∈ directory.files, (name != directory.next) = true := by
    intro name hname
    exact bne_iff_ne.2 (Nat.ne_of_lt (directory.files_lt_next name hname))
  change List.filter (· != directory.next) (directory.next :: directory.files) = directory.files
  rw [List.filter_cons_of_neg (by simp), List.filter_eq_self.2 hold]

theorem files_release (directory : Directory) (storage : S α) :
    (directory.release storage).files =
      directory.files.filter fun name => Storage.file? storage ≠ some name := by
  rw [release]
  split
  · next hnone =>
      rw [hnone]
      exact (List.filter_eq_self.2 fun _ _ => by simp).symm
  · next name hname =>
      rw [hname]
      refine List.filter_congr fun other _ => ?_
      rw [Bool.eq_iff_iff, bne_iff_ne, decide_eq_true_iff, ne_comm]
      exact not_congr Option.some_inj.symm

/-- Two directories in which the same happens next, whatever files they hold. -/
structure Alike (directory directory' : Directory) : Prop where
  next : directory.next = directory'.next
  faults : directory.faults = directory'.faults

theorem alike_release (directory : Directory) (storage : S α) :
    (directory.release storage).Alike directory := by
  rw [release]
  split <;> exact ⟨rfl, rfl⟩

theorem Alike.trans {directory'' : Directory} (h : directory.Alike directory')
    (h' : directory'.Alike directory'') : directory.Alike directory'' :=
  ⟨h.next.trans h'.next, h.faults.trans h'.faults⟩

theorem Alike.symm (h : directory.Alike directory') : directory'.Alike directory :=
  ⟨h.next.symm, h.faults.symm⟩

/-- What creating a file can do. -/
theorem create_cases (directory : Directory) :
    directory.create = (.ok directory.next, directory.add) ∨
      ∃ fault left, directory.create = (.error fault, left) ∧ left.files = directory.files ∧
        left.next = directory.next + 1 ∧ left.faults = directory.faults := by
  rw [create]
  split
  · exact .inl rfl
  · exact .inr ⟨.creation, directory.skip, rfl, rfl, rfl, rfl⟩
  · exact .inr ⟨.mapping, _, rfl, directory.files_add_remove, rfl, rfl⟩

theorem Alike.create (h : directory.Alike directory') :
    directory.create.1 = directory'.create.1 ∧ directory.create.2.Alike directory'.create.2 := by
  obtain ⟨hnext, hfaults⟩ := h
  unfold Directory.create
  rw [hfaults, hnext]
  cases directory'.faults directory'.next with
  | none => exact ⟨rfl, congrArg (· + 1) hnext, hfaults⟩
  | some fault =>
      cases fault with
      | creation => exact ⟨rfl, congrArg (· + 1) hnext, hfaults⟩
      | mapping => exact ⟨rfl, congrArg (· + 1) hnext, hfaults⟩

end Directory

/-! ### Generated tensors -/

/-- What becomes of a directory when a tensor is generated: there is one new file if the tensor has
elements, and none otherwise. -/
structure Directory.Gains (directory : Directory) (tensor : Tensor S α) (left : Directory) : Prop where
  files : left.files = tensor.file?.toList ++ directory.files
  next : directory.next ≤ left.next
  backed : tensor.file?.isSome ↔ 0 < tensor.data.size
  fresh : ∀ name, tensor.file? = some name → directory.next ≤ name ∧ name < left.next

namespace MappedStorage

/-- What storing elements in a directory can do. -/
theorem inDirectory_cases (data : Array α) (directory : Directory) :
    (data.size = 0 ∧ inDirectory data directory = (.ok (anonymous data), directory)) ∨
      (0 < data.size ∧
        inDirectory data directory = (.ok (ofMap data (some directory.next)), directory.add)) ∨
      ∃ fault left, inDirectory data directory = (.error fault, left) ∧
        left.files = directory.files ∧ directory.next ≤ left.next := by
  unfold inDirectory
  by_cases hempty : data.isEmpty = true
  · rw [if_pos hempty]
    exact .inl ⟨Array.isEmpty_iff_size_eq_zero.1 hempty, rfl⟩
  · rw [if_neg hempty]
    have hpos : 0 < data.size :=
      Nat.pos_of_ne_zero fun hzero => hempty (Array.isEmpty_iff_size_eq_zero.2 hzero)
    obtain hcreate | ⟨fault, left, hcreate, hfiles, hnext, -⟩ := directory.create_cases
    · rw [hcreate]
      exact .inr (.inl ⟨hpos, rfl⟩)
    · rw [hcreate]
      exact .inr (.inr ⟨fault, left, rfl, hfiles, hnext ▸ Nat.le_succ _⟩)

theorem inDirectory_alike {directory directory' : Directory} (h : directory.Alike directory')
    (data : Array α) :
    (inDirectory data directory).1 = (inDirectory data directory').1 ∧
      (inDirectory data directory).2.Alike (inDirectory data directory').2 := by
  unfold inDirectory
  split
  · exact ⟨rfl, h⟩
  · obtain ⟨hresult, hleft⟩ := h.create
    cases hcreate : directory.create with
    | mk result left =>
    cases hcreate' : directory'.create with
    | mk result' left' =>
    rw [hcreate, hcreate'] at hresult hleft
    obtain rfl : result = result' := hresult
    cases result with
    | error fault => exact ⟨rfl, hleft⟩
    | ok name => exact ⟨rfl, hleft⟩

end MappedStorage

/-- Without the file of the tensor the files are those there were. -/
theorem Directory.Gains.files_without {directory left : Directory} {tensor : Tensor S α}
    (h : directory.Gains tensor left) :
    (left.files.filter fun name => tensor.file? ≠ some name) = directory.files := by
  have hold : ∀ name ∈ directory.files, decide (tensor.file? ≠ some name) = true := by
    intro name hname
    refine decide_eq_true fun hfile => ?_
    exact absurd (directory.files_lt_next name hname) (Nat.not_lt.2 (h.fresh name hfile).1)
  rw [h.files, List.filter_append, List.filter_eq_self.2 hold]
  cases tensor.file? with
  | none => rfl
  | some name => simp

section Gains

variable {data : Array α} {directory : Directory} {shape : Shape} {tensor : Tensor MappedStorage α}

theorem Directory.Gains.of_empty
    (h : Tensor.ofStorage (MappedStorage.anonymous data) shape = .ok tensor) (hsize : data.size = 0) :
    directory.Gains tensor directory := by
  have hstorage := Tensor.storage_of_ofStorage h
  have hfile : tensor.file? = none := congrArg Storage.file? hstorage
  have hdata : tensor.data = data :=
    (congrArg Storage.elements hstorage).trans (MappedStorage.elements_ofMap data none)
  refine ⟨?_, Nat.le_refl _, ?_, fun name hname => ?_⟩
  · rw [hfile]
    rfl
  · rw [hfile, hdata, hsize]
    simp
  · rw [hfile] at hname
    cases hname

theorem Directory.Gains.of_elements
    (h : Tensor.ofStorage (MappedStorage.ofMap data (some directory.next)) shape = .ok tensor)
    (hsize : 0 < data.size) : directory.Gains tensor directory.add := by
  have hstorage := Tensor.storage_of_ofStorage h
  have hfile : tensor.file? = some directory.next := congrArg Storage.file? hstorage
  have hdata : tensor.data = data :=
    (congrArg Storage.elements hstorage).trans (MappedStorage.elements_ofMap data _)
  refine ⟨?_, Nat.le_succ _, ?_, fun name hname => ?_⟩
  · rw [hfile]
    rfl
  · rw [hfile, hdata]
    simpa using hsize
  · rw [hfile] at hname
    obtain rfl := Option.some.inj hname
    exact ⟨Nat.le_refl _, Nat.lt_succ_self _⟩

end Gains

namespace Backend

variable [Element α]

/-- What generating a tensor over files can do. It fails and leaves the files as they are, or the
tensor has a file of its own if it has elements. -/
theorem build_files_cases (source : RandomSource σ α) (shape : Shape) (fill : Fill) (room : Room σ) :
    (∃ e left, files.build source shape fill room = (.error e, left) ∧
        left.directory.files = room.directory.files ∧ room.directory.next ≤ left.directory.next) ∨
      ∃ tensor left, files.build source shape fill room = (.ok tensor, left) ∧
        room.directory.Gains tensor left.directory := by
  rw [build_eq]
  cases hcount : shape.elementCount with
  | error e => exact .inl ⟨e, room, rfl, rfl, Nat.le_refl _⟩
  | ok count =>
      dsimp only
      cases fill.generate source count room.random with
      | error e => exact .inl ⟨e, room, rfl, rfl, Nat.le_refl _⟩
      | ok drawn =>
          obtain ⟨data, random⟩ := drawn
          dsimp only [files]
          obtain ⟨hsize, hstore⟩ | ⟨hsize, hstore⟩ | ⟨fault, left, hstore, hfiles, hnext⟩ :=
            MappedStorage.inDirectory_cases data room.directory
          · rw [hstore]
            dsimp only
            cases htensor : Tensor.ofStorage (MappedStorage.anonymous data) shape with
            | error e => exact .inl ⟨_, _, rfl, rfl, Nat.le_refl _⟩
            | ok tensor => exact .inr ⟨tensor, _, rfl, .of_empty htensor hsize⟩
          · rw [hstore]
            dsimp only
            cases htensor : Tensor.ofStorage (MappedStorage.ofMap data (some room.directory.next))
              shape with
            | error e =>
                -- the file is there already, and goes with the storage that is given up
                exact .inl ⟨_, _, rfl, room.directory.files_add_remove, Nat.le_succ _⟩
            | ok tensor => exact .inr ⟨tensor, _, rfl, .of_elements htensor hsize⟩
          · rw [hstore]
            exact .inl ⟨_, _, rfl, hfiles, hnext⟩

theorem build_files_alike (source : RandomSource σ α) (shape : Shape) (fill : Fill)
    {room room' : Room σ} (hrandom : room.random = room'.random)
    (h : room.directory.Alike room'.directory) :
    (files.build source shape fill room).1 = (files.build source shape fill room').1 ∧
      (files.build source shape fill room).2.random =
        (files.build source shape fill room').2.random ∧
      (files.build source shape fill room).2.directory.Alike
        (files.build source shape fill room').2.directory := by
  rw [build_eq, build_eq, hrandom]
  cases shape.elementCount with
  | error e => exact ⟨rfl, hrandom, h⟩
  | ok count =>
      dsimp only
      cases fill.generate source count room'.random with
      | error e => exact ⟨rfl, hrandom, h⟩
      | ok drawn =>
          dsimp only [files]
          obtain ⟨hresult, hleft⟩ := MappedStorage.inDirectory_alike h drawn.1
          cases hstore : MappedStorage.inDirectory drawn.1 room.directory with
          | mk result left =>
          cases hstore' : MappedStorage.inDirectory drawn.1 room'.directory with
          | mk result' left' =>
          rw [hstore, hstore'] at hresult hleft
          obtain rfl : result = result' := hresult
          cases result with
          | error fault => exact ⟨rfl, rfl, hleft⟩
          | ok storage =>
              dsimp only
              cases Tensor.ofStorage storage shape with
              | error e =>
                  exact ⟨rfl, rfl, ((left.alike_release storage).trans hleft).trans
                    (left'.alike_release storage).symm⟩
              | ok tensor => exact ⟨rfl, rfl, hleft⟩

end Backend

/-! ### Checks -/

/-- The files behind tensors, in their order. -/
def fileNames (tensors : List (Tensor S α)) : List FileName :=
  tensors.filterMap Tensor.file?

theorem fileNames_cons (tensor : Tensor S α) (tensors : List (Tensor S α)) :
    fileNames (tensor :: tensors) = tensor.file?.toList ++ fileNames tensors := by
  rw [fileNames, List.filterMap_cons]
  cases tensor.file? <;> rfl

theorem mem_fileNames_cons {tensor : Tensor S α} {tensors : List (Tensor S α)} {name : FileName} :
    name ∈ fileNames (tensor :: tensors) ↔ tensor.file? = some name ∨ name ∈ fileNames tensors := by
  simp [fileNames_cons]

theorem files_foldl_release (tensors : List (Tensor S α)) (room : Room σ) :
    (tensors.foldl Room.release room).directory.files =
      room.directory.files.filter (· ∉ fileNames tensors) := by
  induction tensors generalizing room with
  | nil => exact (List.filter_eq_self.2 fun _ _ => rfl).symm
  | cons tensor tensors ih =>
      rw [List.foldl_cons, ih, Room.release, Directory.files_release, List.filter_filter]
      refine List.filter_congr fun name _ => ?_
      rw [Bool.eq_iff_iff]
      simp [mem_fileNames_cons, Tensor.file?, and_comm]

theorem alike_foldl_release (tensors : List (Tensor S α)) (room : Room σ) :
    (tensors.foldl Room.release room).random = room.random ∧
      (tensors.foldl Room.release room).directory.Alike room.directory := by
  induction tensors generalizing room with
  | nil => exact ⟨rfl, rfl, rfl⟩
  | cons tensor tensors ih =>
      obtain ⟨hrandom, hdirectory⟩ := ih (room.release tensor)
      exact ⟨hrandom, hdirectory.trans (room.directory.alike_release tensor.storage)⟩

variable [Element α]

/-- What generating inputs over files can do. It fails and leaves the files as they are, or there is
one more file for each input with elements. -/
theorem buildInputs_files_cases (source : RandomSource σ α) (fill : Fill) (binding : Binding)
    (formulas : List TensorFormula) (room : Room σ) :
    (∃ e left, buildInputs .files source fill binding formulas room = (.error e, left) ∧
        left.directory.files = room.directory.files) ∨
      ∃ inputs left, buildInputs .files source fill binding formulas room = (.ok inputs, left) ∧
        left.directory.files = (fileNames inputs).reverse ++ room.directory.files ∧
        ∀ name ∈ fileNames inputs, room.directory.next ≤ name := by
  induction formulas generalizing room with
  | nil => exact .inr ⟨[], room, rfl, rfl, fun _ hname => nomatch hname⟩
  | cons formula formulas ih =>
      rw [buildInputs]
      cases formula.shape binding with
      | error e => exact .inl ⟨e, room, rfl, rfl⟩
      | ok shape =>
          dsimp only
          obtain ⟨e, left, hbuild, hfiles, -⟩ | ⟨tensor, built, hbuild, hgains⟩ :=
            Backend.build_files_cases source shape fill room
          · rw [hbuild]
            exact .inl ⟨e, left, rfl, hfiles⟩
          · rw [hbuild]
            dsimp only
            obtain ⟨e, left, hrest, hfiles⟩ | ⟨inputs, left, hrest, hfiles, hnew⟩ := ih built
            · rw [hrest]
              refine .inl ⟨e, _, rfl, ?_⟩
              rw [Room.release, Directory.files_release, hfiles]
              exact hgains.files_without
            · rw [hrest]
              refine .inr ⟨tensor :: inputs, left, rfl, ?_, fun name hname => ?_⟩
              · rw [hfiles, hgains.files, fileNames_cons, List.reverse_append, List.append_assoc]
                cases tensor.file? <;> rfl
              · obtain hname | hname := mem_fileNames_cons.1 hname
                · exact (hgains.fresh name hname).1
                · exact Nat.le_trans hgains.next (hnew name hname)

/-- A trial leaves the files as it found them, whatever the function does and wherever the trial ends.
During its call there is one more file for each input with elements. -/
theorem files_trial (config : Config) (source : RandomSource σ α) (pattern : Pattern)
    (constraints : Constraints) (f : Callable κ ε MappedStorage α) (session : Session σ κ) :
    let report := trial .files config source pattern constraints f session
    report.session.room.directory.files = session.room.directory.files ∧
      ∀ call ∈ report.calls,
        call.directory.files = (fileNames call.inputs).reverse ++ session.room.directory.files := by
  unfold trial
  cases Assignment.draw source pattern.inputs constraints config.bound session.room.random with
  | error e => exact ⟨rfl, fun _ hcall => nomatch hcall⟩
  | ok drawn =>
      dsimp only
      obtain ⟨e, left, hbuild, hfiles⟩ | ⟨inputs, left, hbuild, hfiles, hnew⟩ :=
        buildInputs_files_cases source config.fill drawn.1.lookup pattern.inputs.tensors
          ⟨drawn.2, session.room.directory⟩
      · rw [hbuild]
        exact ⟨hfiles, fun _ hcall => nomatch hcall⟩
      · rw [hbuild]
        refine ⟨?_, fun call hcall => ?_⟩
        · have hold : ∀ name ∈ session.room.directory.files,
              decide (name ∉ fileNames inputs) = true := by
            intro name hname
            refine decide_eq_true fun hmem => ?_
            exact absurd (session.room.directory.files_lt_next name hname) (Nat.not_lt.2 (hnew name hmem))
          change (inputs.foldl Room.release left).directory.files = _
          rw [files_foldl_release, hfiles, List.filter_append, List.filter_eq_self.2 hold]
          simp
        · obtain rfl := List.mem_singleton.1 hcall
          exact hfiles

/-- So does a check, in which the trials follow one another until one fails. -/
theorem files_trials (config : Config) (source : RandomSource σ α) (pattern : Pattern)
    (constraints : Constraints) (f : Callable κ ε MappedStorage α) (depth : Nat)
    (session : Session σ κ) :
    let report := trials .files config source pattern constraints f depth session
    report.session.room.directory.files = session.room.directory.files ∧
      ∀ call ∈ report.calls,
        call.directory.files = (fileNames call.inputs).reverse ++ session.room.directory.files := by
  induction depth generalizing session with
  | zero => exact ⟨rfl, fun _ hcall => nomatch hcall⟩
  | succ depth ih =>
      have hfirst := files_trial config source pattern constraints f session
      rw [trials]
      dsimp only
      split
      · exact hfirst
      · obtain ⟨hleft, hcalls⟩ := ih (trial .files config source pattern constraints f session).session
        rw [hfirst.1] at hleft hcalls
        refine ⟨hleft, fun call hcall => ?_⟩
        exact (List.mem_append.1 hcall).elim (hfirst.2 call) (hcalls call)

end ShapeAssert
