import Mathlib.Data.List.Pairwise
import ShapeAssert.Proofs.Storage.Sharing

/-! Who holds the tensors of a check over files. Several tensors may be over one storage, so its file
stays until the last of them is given up. At each moment the files in the directory are those that were
there before and one for each storage that was built, has elements and is still held. Each move keeps
this: an input is generated or cannot be, a tensor is taken, or one is given up. -/

namespace ShapeAssert

/-- Who holds a tensor: the check, as an input or as an output, or the function, by a name. -/
inductive Holder where
  | input
  | output
  | name (reference : String)
  deriving DecidableEq

/-- The tensors that the function has named, the latest first. -/
def heldNames {α : Type} (held : List (Holder × Tensor MappedStorage α)) : Names MappedStorage α :=
  held.filterMap fun
    | (.name reference, tensor) => some (reference, tensor)
    | (.input, _) | (.output, _) => none

/-- One moment of a check over files: the directory, the storages that were built so far, the latest
first, and the tensors that are held. -/
structure Moment (α : Type) where
  directory : Directory
  built : List (MappedStorage α)
  held : List (Holder × Tensor MappedStorage α)

namespace Moment

variable {α : Type}

/-- Nothing has been built yet, and the function may hold tensors that it had before. -/
def start (directory : Directory) (names : Names MappedStorage α) : Moment α :=
  ⟨directory, [], names.map fun entry => (.name entry.1, entry.2)⟩

def names (moment : Moment α) : Names MappedStorage α :=
  heldNames moment.held

/-- The files behind the tensors that are held. -/
def heldFiles (moment : Moment α) : List FileName :=
  fileNames (moment.held.map Prod.snd)

/-- The backend has built an input. -/
def receive (moment : Moment α) (tensor : Tensor MappedStorage α) (directory : Directory) :
    Moment α :=
  ⟨directory, tensor.storage :: moment.built, moment.held ++ [(.input, tensor)]⟩

/-- More tensors are held. -/
def take (moment : Moment α) (entries : List (Holder × Tensor MappedStorage α)) : Moment α :=
  { moment with held := entries ++ moment.held }

/-- A tensor is given up and the others stay. Its storage goes with it unless one of the others is over
the same, that is, over the same file. -/
def giveUp (moment : Moment α) (tensor : Tensor MappedStorage α)
    (others : List (Holder × Tensor MappedStorage α)) : Moment α :=
  { moment with
    held := others
    directory := if others.any (·.2.file? == tensor.file?) then moment.directory
      else moment.directory.release tensor.storage }

/-- What holds of the directory at every moment: its files are those that were there before and one
for each storage that was built and is still held, unless it is empty. -/
structure Accounted (before : Directory) (moment : Moment α) : Prop where
  files : moment.directory.files =
    (moment.built.filterMap (·.file?)).filter (· ∈ moment.heldFiles) ++ before.files
  next : before.next ≤ moment.directory.next
  backed : ∀ storage ∈ moment.built, storage.file?.isSome ↔ 0 < storage.elements.size
  fresh : ∀ name ∈ moment.built.filterMap (·.file?),
    before.next ≤ name ∧ name < moment.directory.next
  distinct : (moment.built.filterMap (·.file?)).Nodup
  held : ∀ entry ∈ moment.held, entry.2.file?.isSome → entry.2.storage ∈ moment.built

theorem mem_fileNames_map {held : List (Holder × Tensor MappedStorage α)} {name : FileName} :
    name ∈ fileNames (held.map Prod.snd) ↔ ∃ entry ∈ held, entry.2.file? = some name := by
  simp [fileNames]

theorem mem_heldFiles {moment : Moment α} {name : FileName} :
    name ∈ moment.heldFiles ↔ ∃ entry ∈ moment.held, entry.2.file? = some name :=
  mem_fileNames_map

theorem accounted_start (directory : Directory) {names : Names MappedStorage α}
    (hnames : ∀ entry ∈ names, entry.2.file? = none) : (start directory names).Accounted directory where
  files := rfl
  next := Nat.le_refl _
  backed _ h := nomatch h
  fresh _ h := nomatch h
  distinct := .nil
  held entry hentry hfile := by
    obtain ⟨named, hnamed, rfl⟩ := List.mem_map.1 hentry
    rw [hnames named hnamed] at hfile
    cases hfile

namespace Accounted

variable {before : Directory} {moment : Moment α} (h : moment.Accounted before)
include h

/-- No two storages share a file. -/
theorem eq_of_file? {storage storage' : MappedStorage α} (hbuilt : storage ∈ moment.built)
    (hbuilt' : storage' ∈ moment.built) {name : FileName} (hname : storage.file? = some name)
    (hname' : storage'.file? = some name) : storage = storage' := by
  have hdistinct := List.pairwise_filterMap.1 h.distinct
  have : Std.Symm fun storage storage' : MappedStorage α => ∀ name, storage.file? = some name →
      ∀ name', storage'.file? = some name' → name ≠ name' :=
    ⟨fun _ _ hne name hname name' hname' => (hne name' hname' name hname).symm⟩
  by_contra hne
  exact hdistinct.forall hbuilt hbuilt' hne name hname name hname' rfl

/-- The files are the old ones and those of the storages that were built, have elements and are held. -/
theorem mem_files_iff {name : FileName} :
    name ∈ moment.directory.files ↔ name ∈ before.files ∨
      ∃ storage ∈ moment.built, 0 < storage.elements.size ∧
        (∃ entry ∈ moment.held, entry.2.storage = storage) ∧ storage.file? = some name := by
  rw [h.files, List.mem_append, or_comm, List.mem_filter, List.mem_filterMap, decide_eq_true_iff,
    mem_heldFiles]
  refine or_congr_right ⟨?_, ?_⟩
  · rintro ⟨⟨storage, hbuilt, hname⟩, entry, hentry, hfile⟩
    have hother := h.held entry hentry (Option.isSome_of_eq_some hfile)
    exact ⟨storage, hbuilt, (h.backed storage hbuilt).1 (Option.isSome_of_eq_some hname),
      ⟨entry, hentry, h.eq_of_file? hother hbuilt hfile hname⟩, hname⟩
  · rintro ⟨storage, hbuilt, -, ⟨entry, hentry, rfl⟩, hname⟩
    exact ⟨⟨entry.2.storage, hbuilt, hname⟩, entry, hentry, hname⟩

/-- An input that could not be generated has left no file. -/
theorem refuse {directory : Directory} (hfiles : directory.files = moment.directory.files)
    (hnext : moment.directory.next ≤ directory.next) :
    { moment with directory }.Accounted before where
  files := hfiles.trans h.files
  next := h.next.trans hnext
  backed := h.backed
  fresh name hname := (h.fresh name hname).imp_right (Nat.lt_of_lt_of_le · hnext)
  distinct := h.distinct
  held := h.held

/-- An input that has been generated is held, and so its file is there if it has elements. -/
theorem receive {tensor : Tensor MappedStorage α} {directory : Directory}
    (hgains : moment.directory.Gains tensor directory) :
    (moment.receive tensor directory).Accounted before := by
  have hbuilt : (moment.receive tensor directory).built.filterMap (·.file?) =
      tensor.file?.toList ++ moment.built.filterMap (·.file?) := by
    change (tensor.storage :: moment.built).filterMap (·.file?) =
      tensor.storage.file?.toList ++ moment.built.filterMap (·.file?)
    rw [List.filterMap_cons]
    cases tensor.storage.file? <;> rfl
  have hheld (name : FileName) : name ∈ (moment.receive tensor directory).heldFiles ↔
      name ∈ moment.heldFiles ∨ tensor.file? = some name := by
    simp only [mem_heldFiles, Moment.receive, List.mem_append, List.mem_singleton, or_and_right,
      exists_or, exists_eq_left]
  -- the new name is not below the next one, so no older storage has it
  have hnew (name : FileName) (hname : tensor.file? = some name) :
      name ∉ moment.built.filterMap (·.file?) := fun hold =>
    absurd (h.fresh name hold).2 (Nat.not_lt.2 (hgains.fresh name hname).1)
  refine ⟨?_, h.next.trans hgains.next, ?_, ?_, ?_, ?_⟩
  · have hfirst : ∀ name ∈ tensor.file?.toList,
        decide (name ∈ (moment.receive tensor directory).heldFiles) = true := by
      intro name hname
      exact decide_eq_true ((hheld name).2 (.inr (Option.mem_toList.1 hname)))
    have hrest : ∀ name ∈ moment.built.filterMap (·.file?),
        decide (name ∈ (moment.receive tensor directory).heldFiles) =
          decide (name ∈ moment.heldFiles) := by
      intro name hname
      refine decide_eq_decide.2 ((hheld name).trans (or_iff_left fun hfile => ?_))
      exact hnew name hfile hname
    rw [hbuilt, List.filter_append, List.filter_eq_self.2 hfirst, List.filter_congr hrest,
      List.append_assoc, ← h.files]
    exact hgains.files
  · intro storage hstorage
    obtain rfl | hstorage := List.mem_cons.1 hstorage
    · exact hgains.backed
    · exact h.backed storage hstorage
  · intro name hname
    rw [hbuilt, List.mem_append] at hname
    obtain hname | hname := hname
    · obtain ⟨hlow, hhigh⟩ := hgains.fresh name (Option.mem_toList.1 hname)
      exact ⟨h.next.trans hlow, hhigh⟩
    · obtain ⟨hlow, hhigh⟩ := h.fresh name hname
      exact ⟨hlow, hhigh.trans_le hgains.next⟩
  · rw [hbuilt]
    cases hfile : tensor.file? with
    | none => exact h.distinct
    | some name => exact List.nodup_cons.2 ⟨hnew name hfile, h.distinct⟩
  · intro entry hentry hfile
    obtain hentry | hentry := List.mem_append.1 hentry
    · exact List.mem_cons_of_mem _ (h.held entry hentry hfile)
    · obtain rfl := List.mem_singleton.1 hentry
      exact List.mem_cons_self

/-- Who else holds the same files does not matter to the directory. -/
theorem of_heldFiles {held : List (Holder × Tensor MappedStorage α)}
    (hfiles : ∀ name, name ∈ fileNames (held.map Prod.snd) ↔ name ∈ moment.heldFiles)
    (hheld : ∀ entry ∈ held, entry.2.file?.isSome → entry.2.storage ∈ moment.built) :
    { moment with held }.Accounted before where
  files := by
    rw [h.files]
    refine congrArg (· ++ before.files) (List.filter_congr fun name _ => ?_)
    exact decide_eq_decide.2 (hfiles name).symm
  next := h.next
  backed := h.backed
  fresh := h.fresh
  distinct := h.distinct
  held := hheld

/-- A tensor may be taken that has no file or is over the storage of a tensor that is held. -/
theorem take {entries : List (Holder × Tensor MappedStorage α)}
    (hentries : ∀ entry ∈ entries, entry.2.file? = none ∨
      ∃ origin ∈ moment.held, entry.2.storage = origin.2.storage) :
    (moment.take entries).Accounted before := by
  refine h.of_heldFiles (fun name => ?_) fun entry hentry hfile => ?_
  · change name ∈ (moment.take entries).heldFiles ↔ _
    rw [mem_heldFiles, mem_heldFiles]
    refine ⟨?_, fun ⟨entry, hentry, hname⟩ => ⟨entry, List.mem_append_right _ hentry, hname⟩⟩
    rintro ⟨entry, hentry, hname⟩
    obtain hentry | hentry := List.mem_append.1 hentry
    · obtain hnone | ⟨origin, horigin, hshared⟩ := hentries entry hentry
      · rw [hnone] at hname
        cases hname
      · exact ⟨origin, horigin, (congrArg Storage.file? hshared).symm.trans hname⟩
    · exact ⟨entry, hentry, hname⟩
  · obtain hentry | hentry := List.mem_append.1 hentry
    · obtain hnone | ⟨origin, horigin, hshared⟩ := hentries entry hentry
      · rw [hnone] at hfile
        cases hfile
      · rw [Tensor.file?, hshared] at hfile
        rw [hshared]
        exact h.held origin horigin hfile
    · exact h.held entry hentry hfile

/-- A file goes with the last tensor over it. -/
theorem giveUp {entry : Holder × Tensor MappedStorage α}
    {others : List (Holder × Tensor MappedStorage α)}
    (hheld : ∀ other, other ∈ moment.held ↔ other = entry ∨ other ∈ others) :
    (moment.giveUp entry.2 others).Accounted before := by
  have hothers : ∀ other ∈ others, other.2.file?.isSome → other.2.storage ∈ moment.built :=
    fun other hother => h.held other ((hheld other).2 (.inr hother))
  have hbefore (name : FileName) : name ∈ moment.heldFiles ↔
      entry.2.file? = some name ∨ name ∈ fileNames (others.map Prod.snd) := by
    rw [mem_heldFiles, mem_fileNames_map]
    simp only [hheld, or_and_right, exists_or, exists_eq_left]
  by_cases hshared : others.any (·.2.file? == entry.2.file?) = true
  · obtain ⟨other, hother, hsame⟩ := List.any_eq_true.1 hshared
    rw [Moment.giveUp, if_pos hshared]
    refine h.of_heldFiles (fun name => ?_) hothers
    rw [hbefore, or_iff_right_of_imp fun hname => ?_]
    exact mem_fileNames_map.2 ⟨other, hother, (beq_iff_eq.1 hsame).trans hname⟩
  · rw [Moment.giveUp, if_neg hshared]
    have hlast (name : FileName) (hname : entry.2.file? = some name) :
        name ∉ fileNames (others.map Prod.snd) := fun hmem => by
      obtain ⟨other, hother, hfile⟩ := mem_fileNames_map.1 hmem
      exact hshared (List.any_eq_true.2 ⟨other, hother, beq_iff_eq.2 (hfile.trans hname.symm)⟩)
    have halike := moment.directory.alike_release entry.2.storage
    refine ⟨?_, ?_, h.backed, ?_, h.distinct, hothers⟩
    · change (moment.directory.release entry.2.storage).files =
        (moment.built.filterMap (·.file?)).filter (· ∈ fileNames (others.map Prod.snd)) ++ before.files
      rw [Directory.files_release, h.files, List.filter_append, List.filter_filter]
      congr 1
      · refine List.filter_congr fun name _ => ?_
        rw [Bool.eq_iff_iff]
        simp only [Bool.and_eq_true, decide_eq_true_iff, hbefore]
        constructor
        · rintro ⟨hne, hname | hmem⟩
          · exact absurd hname hne
          · exact hmem
        · exact fun hmem => ⟨fun hname => hlast name hname hmem, .inr hmem⟩
      · -- what was there before is below the names of all built storages
        refine List.filter_eq_self.2 fun name hname => decide_eq_true fun hfile => ?_
        have hbuilt := h.held entry ((hheld entry).2 (.inl rfl)) (Option.isSome_of_eq_some hfile)
        have hlow := (h.fresh name (List.mem_filterMap.2 ⟨_, hbuilt, hfile⟩)).1
        exact absurd (before.files_lt_next name hname) (Nat.not_lt.2 hlow)
    · exact halike.next.symm ▸ h.next
    · intro name hname
      rw [halike.next]
      exact h.fresh name hname

end Accounted

end Moment

end ShapeAssert
