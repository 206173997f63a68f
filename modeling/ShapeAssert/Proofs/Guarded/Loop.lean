import ShapeAssert.Proofs.Guarded.Basic

/-! Loops that change elements in place. One pass changes the elements of a block, each by itself.
Passes over neighbouring blocks change the block they make up, passes over one block change its
elements repeatedly, so nested loops are read off from their innermost step. -/

namespace ShapeAssert.Guarded

variable {α β : Type}

theorem loop_succ (count : Nat) (start : β) (body : Nat → β → Option β) :
    loop (count + 1) start body = loop count start body >>= body count := by
  rw [loop, List.range_succ, List.foldlM_append]
  refine bind_congr fun state => ?_
  rw [List.foldlM_cons]
  exact bind_pure _

/-- A loop none of whose passes stops. -/
theorem loop_eq_some {count : Nat} {start : β} {body : Nat → β → Option β} {next : Nat → β → β}
    (valid : β → Prop) (hstart : valid start) (hvalid : ∀ i state, valid state → valid (next i state))
    (hbody : ∀ i < count, ∀ state, valid state → body i state = some (next i state)) :
    loop count start body = some (count.fold (fun i _ state => next i state) start) := by
  suffices hloop : loop count start body = some (count.fold (fun i _ state => next i state) start) ∧
      valid (count.fold (fun i _ state => next i state) start) from hloop.1
  induction count with
  | zero => exact ⟨rfl, hstart⟩
  | succ count ih =>
      obtain ⟨hloop, hreached⟩ := ih fun i hi => hbody i (Nat.lt_succ_of_lt hi)
      rw [loop_succ, hloop, Nat.fold_succ]
      exact ⟨hbody count (Nat.lt_succ_self count) _ hreached, hvalid count _ hreached⟩

/-- Changes the elements of the block of `width` places from `start` on, each by its place in the
block. -/
def alter (start width : Nat) (f : Nat → α → α) (data : Array α) : Array α :=
  data.mapIdx fun place x => if start ≤ place ∧ place < start + width then f (place - start) x else x

theorem size_alter (start width : Nat) (f : Nat → α → α) (data : Array α) :
    (alter start width f data).size = data.size :=
  Array.size_mapIdx

theorem getElem?_alter (start width : Nat) (f : Nat → α → α) (data : Array α) (place : Nat) :
    (alter start width f data)[place]? = data[place]?.map fun x =>
      if start ≤ place ∧ place < start + width then f (place - start) x else x :=
  Array.getElem?_mapIdx

/-- Two changes of an array are the same if they do the same to every element. -/
theorem eq_alter {start width : Nat} {f : Nat → α → α} {data changed : Array α}
    (h : ∀ place, changed[place]? = data[place]?.map fun x =>
      if start ≤ place ∧ place < start + width then f (place - start) x else x) :
    changed = alter start width f data :=
  Array.ext_getElem? fun place => (h place).trans (getElem?_alter ..).symm

theorem update_eq_alter {data : Array α} {place : Nat} (h : place < data.size) (f : α → α) :
    update data place f = some (alter place 1 (fun _ => f) data) := by
  rw [update, if_pos h]
  refine congrArg some (eq_alter fun other => ?_)
  rw [Array.getElem?_modify]
  by_cases hsame : place = other
  · subst hsame
    simp
  · rw [if_neg hsame]
    have hout : ¬(place ≤ other ∧ other < place + 1) := by omega
    simp only [if_neg hout, Option.map_id']

/-- Changing neighbouring blocks of one width one after the other. -/
theorem fold_alter_blocks (count start width : Nat) (f : Nat → Nat → α → α) (data : Array α) :
    count.fold (fun i _ out => alter (start + i * width) width (f i) out) data =
      alter start (count * width) (fun place => f (place / width) (place % width)) data := by
  refine eq_alter fun place => ?_
  induction count with
  | zero =>
      have hout : ¬(start ≤ place ∧ place < start + 0 * width) := by omega
      simp only [Nat.fold_zero, if_neg hout, Option.map_id']
  | succ count ih =>
      rw [Nat.fold_succ, getElem?_alter, ih, Option.map_map]
      refine Option.map_congr fun x _ => ?_
      rw [Nat.succ_mul]
      -- the last pass finds the elements of its own block as they were, and leaves the others
      by_cases hlast : start + count * width ≤ place ∧ place < start + count * width + width
      · have hbefore : ¬(start ≤ place ∧ place < start + count * width) := by omega
        have hin : start ≤ place ∧ place < start + (count * width + width) := by omega
        have hoffset : place - (start + count * width) < width := by omega
        have hplace : place - start = count * width + (place - (start + count * width)) := by omega
        obtain ⟨hblock, hrest⟩ := @Shape.div_mod_block count _ _ hoffset
        simp only [Function.comp_apply, if_pos hlast, if_neg hbefore, if_pos hin]
        rw [hplace, hblock, hrest]
      · simp only [Function.comp_apply, if_neg hlast]
        split <;> split <;> first | rfl | omega

/-- Changing one block repeatedly. -/
theorem fold_alter_same (count start width : Nat) (f : Nat → Nat → α → α) (data : Array α) :
    count.fold (fun i _ out => alter start width (f i) out) data =
      alter start width (fun place x => count.fold (fun i _ x => f i place x) x) data := by
  refine eq_alter fun place => ?_
  induction count with
  | zero => simp
  | succ count ih =>
      rw [Nat.fold_succ, getElem?_alter, ih, Option.map_map]
      refine Option.map_congr fun x _ => ?_
      by_cases hin : start ≤ place ∧ place < start + width
      · simp only [Function.comp_apply, if_pos hin, Nat.fold_succ]
      · simp only [Function.comp_apply, if_neg hin]

section Loops

variable {count start width size : Nat} {f : Nat → Nat → α → α} {data : Array α}
  {body : Nat → Array α → Option (Array α)}

/-- A loop over neighbouring blocks. -/
theorem loop_blocks (hdata : data.size = size)
    (hbody : ∀ i < count, ∀ out : Array α, out.size = size →
      body i out = some (alter (start + i * width) width (f i) out)) :
    loop count data body =
      some (alter start (count * width) (fun place => f (place / width) (place % width)) data) := by
  have hvalid (i : Nat) (out : Array α) (hout : out.size = size) :
      (alter (start + i * width) width (f i) out).size = size := by rw [size_alter, hout]
  rw [loop_eq_some (fun out => out.size = size) hdata hvalid hbody, fold_alter_blocks]

/-- A loop over one block. -/
theorem loop_same (hdata : data.size = size)
    (hbody : ∀ i < count, ∀ out : Array α, out.size = size →
      body i out = some (alter start width (f i) out)) :
    loop count data body =
      some (alter start width (fun place x => count.fold (fun i _ x => f i place x) x) data) := by
  have hvalid (i : Nat) (out : Array α) (hout : out.size = size) :
      (alter start width (f i) out).size = size := by rw [size_alter, hout]
  rw [loop_eq_some (fun out => out.size = size) hdata hvalid hbody, fold_alter_same]

/-- A loop over neighbouring places. -/
theorem loop_places {f : Nat → α → α} (hdata : data.size = size)
    (hbody : ∀ i < count, ∀ out : Array α, out.size = size →
      body i out = some (alter (start + i) 1 (fun _ => f i) out)) :
    loop count data body = some (alter start count f data) := by
  have hblocks : ∀ i < count, ∀ out : Array α, out.size = size →
      body i out = some (alter (start + i * 1) 1 (fun _ => f i) out) := fun i hi out hout => by
    rw [Nat.mul_one, hbody i hi out hout]
  rw [loop_blocks hdata hblocks]
  simp only [Nat.mul_one, Nat.div_one]

end Loops

/-- Changing all elements of a block that starts out with one value. -/
theorem alter_replicate (size : Nat) (value : α) (f : Nat → α → α) :
    alter 0 size f (Array.replicate size value) = Array.ofFn fun place : Fin size => f place value := by
  refine Array.ext_getElem? fun place => ?_
  rw [getElem?_alter, Array.getElem?_replicate, Array.getElem?_ofFn]
  by_cases hplace : place < size
  · have hin : 0 ≤ place ∧ place < 0 + size := by omega
    simp [hplace]
  · simp [hplace]

end ShapeAssert.Guarded
