import ShapeAssert.Storage.Directory

/-! Storages: what holds the elements of a tensor in row-major order. Elements are either on the heap
or in mapped memory, and mapped memory may be backed by a file. -/

namespace ShapeAssert

/-- A kind of storage. What is stored can be read back, and storing needs no file. -/
class Storage (S : Type → Type) where
  ofArray {α : Type} : Array α → S α
  elements {α : Type} : S α → Array α
  file? {α : Type} : S α → Option FileName
  elements_ofArray {α : Type} (data : Array α) : elements (ofArray data) = data
  file?_ofArray {α : Type} (data : Array α) : file? (ofArray data) = none

attribute [simp] Storage.elements_ofArray Storage.file?_ofArray

structure HeapStorage (α : Type) where
  elements : Array α

instance : Storage HeapStorage where
  ofArray data := ⟨data⟩
  elements := HeapStorage.elements
  file? _ := none
  elements_ofArray _ := rfl
  file?_ofArray _ := rfl

/-- Elements in mapped memory, over the file if there is one. Nothing can be mapped that has no
elements, so an empty storage has no map. -/
structure MappedStorage (α : Type) where
  map? : Option (Array α)
  file? : Option FileName
  size_pos : ∀ data ∈ map?, 0 < data.size

namespace MappedStorage

variable {α : Type}

def elements (storage : MappedStorage α) : Array α :=
  storage.map?.getD #[]

/-- Maps the elements if there are any. -/
def ofMap (data : Array α) (file? : Option FileName) : MappedStorage α where
  map? := if 0 < data.size then some data else none
  file? := file?
  size_pos := by
    intro mapped hmapped
    split at hmapped
    · next hpos =>
        obtain rfl := Option.some.inj hmapped
        exact hpos
    · cases hmapped

@[simp] theorem elements_ofMap (data : Array α) (file? : Option FileName) :
    (ofMap data file?).elements = data := by
  unfold elements ofMap
  dsimp only
  split
  · rfl
  · next hpos => exact (Array.eq_empty_of_size_eq_zero (Nat.eq_zero_of_not_pos hpos)).symm

/-- Elements in mapped memory without a file. -/
def anonymous (data : Array α) : MappedStorage α := ofMap data none

/-- Elements mapped over a new file. Without elements there is nothing to map, and no file. -/
def inDirectory (data : Array α) (directory : Directory) :
    Except StorageFault (MappedStorage α) × Directory :=
  if data.isEmpty then (.ok (anonymous data), directory)
  else
    match directory.create with
    | (.ok name, directory) => (.ok (ofMap data (some name)), directory)
    | (.error fault, directory) => (.error fault, directory)

end MappedStorage

instance : Storage MappedStorage where
  ofArray := .anonymous
  elements := MappedStorage.elements
  file? := MappedStorage.file?
  elements_ofArray data := MappedStorage.elements_ofMap data none
  file?_ofArray _ := rfl

/-- The directory after a storage is given up, which removes its file. -/
def Directory.release {S : Type → Type} [Storage S] {α : Type} (directory : Directory)
    (storage : S α) : Directory :=
  match Storage.file? storage with
  | none => directory
  | some name => directory.remove name

end ShapeAssert
