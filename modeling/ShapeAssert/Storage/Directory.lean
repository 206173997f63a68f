import ShapeAssert.Error

/-! A directory that backing files are created in and removed from. Names are numbers given out in
order, so a new name is always fresh. Setting up a file may fail in two ways: before the file exists,
or after, and then it is removed again. -/

namespace ShapeAssert

abbrev FileName := Nat

/-- The files present, the next free name, and which of the names will fail and how. -/
structure Directory where
  files : List FileName
  next : FileName
  faults : FileName → Option StorageFault
  files_lt_next : ∀ name ∈ files, name < next

namespace Directory

/-- A directory without files in which nothing fails. -/
def empty : Directory := ⟨[], 0, fun _ => none, by simp⟩

/-- A directory that does not exist, so no file can be created in it. -/
def missing : Directory := ⟨[], 0, fun _ => some .creation, by simp⟩

instance : Inhabited Directory := ⟨empty⟩

/-- Uses up a name without leaving a file. -/
def skip (directory : Directory) : Directory :=
  { directory with
    next := directory.next + 1
    files_lt_next := fun name mem => Nat.lt_succ_of_lt (directory.files_lt_next name mem) }

/-- Adds a file under the next free name. -/
def add (directory : Directory) : Directory :=
  { directory with
    files := directory.next :: directory.files
    next := directory.next + 1
    files_lt_next := fun name mem => by
      obtain rfl | mem := List.mem_cons.1 mem
      · exact Nat.lt_succ_self _
      · exact Nat.lt_succ_of_lt (directory.files_lt_next name mem) }

def remove (directory : Directory) (name : FileName) : Directory :=
  { directory with
    files := directory.files.filter (· != name)
    files_lt_next := fun other mem => directory.files_lt_next other (List.mem_filter.1 mem).1 }

/-- Creates a file and maps it into memory. -/
def create (directory : Directory) : Except StorageFault FileName × Directory :=
  match directory.faults directory.next with
  | none => (.ok directory.next, directory.add)
  | some .creation => (.error .creation, directory.skip)
  | some .mapping => (.error .mapping, directory.add.remove directory.next)

end Directory

end ShapeAssert
