import ShapeAssert.Fill
import ShapeAssert.Tensor.Basic

/-! Backends: where the tensors that a check generates are stored. -/

namespace ShapeAssert

/-- A place to store elements, which may use a directory and may fail. It may also have them counted
before they are stored. -/
structure Backend (S : Type → Type) (α : Type) where
  name : String
  countsFirst : Bool
  store : Array α → Directory → Except StorageFault (S α) × Directory

/-- What generating a tensor draws on and changes. -/
structure Room (σ : Type) where
  random : σ
  directory : Directory

/-- The room after a tensor is given up. Its file goes with it, whoever else may hold its storage. -/
def Room.release {S : Type → Type} [Storage S] {σ α : Type} (room : Room σ)
    (tensor : Tensor S α) : Room σ :=
  { room with directory := room.directory.release tensor.storage }

namespace Backend

variable {S : Type → Type} [Storage S] {σ α : Type}

/-- Elements on the heap. -/
def heap : Backend HeapStorage α where
  name := "cpu"
  countsFirst := true
  store data directory := (.ok ⟨data⟩, directory)

/-- Elements in mapped memory without files. -/
def mapped : Backend MappedStorage α where
  name := "mmap"
  countsFirst := false
  store data directory := (.ok (.anonymous data), directory)

/-- Elements in mapped memory, every tensor over a file of its own. -/
def files : Backend MappedStorage α where
  name := "mmap"
  countsFirst := false
  store data directory := MappedStorage.inDirectory data directory

/-- What is checked of a number of elements before they are stored. -/
def precheck (backend : Backend S α) (shape : Shape) (held : Nat) : Except Error Unit :=
  if backend.countsFirst then shape.checkHeld held else .ok ()

/-- Generates a tensor. The shape is judged first, then the fill, and only then is anything
stored. -/
def build [Element α] (backend : Backend S α) (source : RandomSource σ α) (shape : Shape) (fill : Fill)
    (room : Room σ) : Except Error (Tensor S α) × Room σ :=
  match shape.elementCount with
  | .error e => (.error e, room)
  | .ok count =>
      match fill.generate source count room.random with
      | .error e => (.error e, room)
      | .ok (data, random) =>
          match backend.precheck shape data.size with
          | .error e => (.error e, { room with random })
          | .ok _ =>
              match backend.store data room.directory with
              | (.error fault, directory) => (.error (.storage fault), ⟨random, directory⟩)
              | (.ok storage, directory) =>
                  match Tensor.ofStorage storage shape with
                  | .error e => (.error e, ⟨random, directory.release storage⟩)
                  | .ok tensor => (.ok tensor, ⟨random, directory⟩)

/-- As many elements are generated as the shape asks for, so counting them before they are stored
changes nothing. -/
theorem build_eq [Element α] (backend : Backend S α) (source : RandomSource σ α) (shape : Shape)
    (fill : Fill) (room : Room σ) :
    backend.build source shape fill room =
      match shape.elementCount with
      | .error e => (.error e, room)
      | .ok count =>
          match fill.generate source count room.random with
          | .error e => (.error e, room)
          | .ok (data, random) =>
              match backend.store data room.directory with
              | (.error fault, directory) => (.error (.storage fault), ⟨random, directory⟩)
              | (.ok storage, directory) =>
                  match Tensor.ofStorage storage shape with
                  | .error e => (.error e, ⟨random, directory.release storage⟩)
                  | .ok tensor => (.ok tensor, ⟨random, directory⟩) := by
  unfold build
  cases hcount : shape.elementCount with
  | error e => rfl
  | ok count =>
      dsimp only
      cases hfill : fill.generate source count room.random with
      | error e => rfl
      | ok drawn =>
          have hheld : shape.checkHeld drawn.1.size = .ok () := by
            simp [Shape.checkHeld, hcount, Fill.size_generate hfill, bind, Except.bind]
          dsimp only
          rw [precheck, hheld, ite_self]

end Backend

end ShapeAssert
