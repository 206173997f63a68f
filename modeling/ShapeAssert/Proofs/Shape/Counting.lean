import Mathlib.Data.List.Iterate
import Mathlib.Data.Set.Function
import ShapeAssert.Proofs.Shape.Places

/-! Counting through the places of a shape. Of two places the one that comes first in lexicographic
order has the lower number, so under the strides of an addressable shape the places in that order take
the numbers below the number of elements one after the other. Counting up from the first place goes
through them in the same order, meets each of them once and is back at the first one after the last. -/

namespace ShapeAssert

namespace Shape

variable {shape : Shape} {index other : List Nat}

/-! ### Strides -/

/-- The product of the extents from an axis on is exact wherever the strides are made of it. -/
theorem Addressable.stridesAndSize_drop (h : shape.Addressable) (axis : Nat) :
    (stridesAndSize (shape.drop axis)).2 = product (shape.drop axis) := by
  rw [stridesAndSize_snd, Nat.mod_eq_of_lt (h.drop axis).product_lt]

theorem getElem?_rowMajor {axis : Nat} (haxis : axis < shape.length) :
    (rowMajor shape)[axis]? = some (product (shape.drop (axis + 1))) := by
  induction shape generalizing axis with
  | nil => exact absurd haxis (Nat.not_lt_zero axis)
  | cons extent shape ih =>
      cases axis with
      | zero => rfl
      | succ axis => exact ih (Nat.lt_of_succ_lt_succ haxis)

/-- Under the strides of an addressable shape a place lies where its number says. -/
theorem Addressable.offset_strides (h : shape.Addressable) :
    offset shape.strides = shape.position := by
  rw [h.strides]
  rfl

/-! ### The order of the places -/

/-- Places in blocks of one width are ordered by the block, and in one block by the place in it. -/
theorem block_lt_block_iff {i j width p q : Nat} (hp : p < width) (hq : q < width) :
    i * width + p < j * width + q ↔ i < j ∨ i = j ∧ p < q := by
  rcases Nat.lt_trichotomy i j with hlt | rfl | hlt
  · have hbefore := block_lt hlt hp
    omega
  · omega
  · have hafter := block_lt hlt hq
    omega

/-- The number of a place grows with the place in lexicographic order. -/
theorem IsPlace.lt_iff (h : shape.IsPlace index) (hother : shape.IsPlace other) :
    index < other ↔ shape.position index < shape.position other := by
  induction h generalizing other with
  | nil =>
      obtain rfl := List.length_eq_zero_iff.1 hother.length_eq
      simp
  | @cons i extent index shape _ htail ih =>
      obtain ⟨j, rest, rfl, -, hrest⟩ := isPlace_cons_iff.1 hother
      rw [List.cons_lt_cons_iff, ih hrest, position_cons, position_cons]
      exact (block_lt_block_iff (IsPlace.position_lt htail) hrest.position_lt).symm

/-- The places take each number below the number of elements once. -/
theorem bijOn_position (shape : Shape) :
    Set.BijOn shape.position {index | shape.IsPlace index} (Set.Iio shape.product) := by
  refine ⟨fun index hindex => hindex.position_lt, fun index hindex other hother => ?_,
    fun number hnumber => ?_⟩
  · exact hindex.eq_of_position_eq hother
  · exact exists_place_of_lt hnumber

/-! ### Counting up -/

/-- The places met when counting up from the first one, as many as there are elements. -/
def visited (shape : Shape) : List (List Nat) :=
  List.iterate shape.next shape.origin shape.size

/-- After some steps of counting the place with their number is reached. -/
theorem iterate_next {steps : Nat} (h : steps < shape.product) :
    shape.IsPlace (shape.next^[steps] shape.origin) ∧
      shape.position (shape.next^[steps] shape.origin) = steps := by
  induction steps with
  | zero => exact ⟨isPlace_origin h, position_origin shape⟩
  | succ steps ih =>
      obtain ⟨hplace, hposition⟩ := ih (Nat.lt_of_succ_lt h)
      rw [Function.iterate_succ_apply']
      exact ⟨hplace.next, by rw [hplace.position_next (by omega), hposition]⟩

/-- The step after the last place leads back to the first one. -/
theorem iterate_next_product (shape : Shape) :
    shape.next^[shape.product] shape.origin = shape.origin := by
  cases hcount : shape.product with
  | zero => rfl
  | succ last =>
      obtain ⟨hplace, hposition⟩ := @iterate_next shape last (by omega)
      rw [Function.iterate_succ_apply']
      refine hplace.next.eq_of_position_eq (isPlace_origin (by omega)) ?_
      rw [position_origin]
      obtain ⟨-, -, hzero⟩ | ⟨hmore, hnext⟩ := hplace.advance_cases
      · exact hzero
      · have hlt := hplace.next.position_lt
        rw [next, hnext] at hlt
        omega

section Addressable

variable (h : shape.Addressable)
include h

theorem Addressable.map_position_visited :
    shape.visited.map shape.position = List.range shape.size := by
  rw [visited, ← List.range_map_iterate, List.map_map]
  refine (List.map_congr_left fun steps hsteps => ?_).trans (List.map_id _)
  rw [List.mem_range, h.size] at hsteps
  exact (iterate_next hsteps).2

/-- The place with a number is met after as many steps. -/
theorem Addressable.getElem?_visited (hindex : shape.IsPlace index) :
    shape.visited[shape.position index]? = some index := by
  have hlt : shape.position index < shape.size := by
    rw [h.size]
    exact hindex.position_lt
  obtain ⟨hplace, hposition⟩ := iterate_next hindex.position_lt
  rw [visited, List.getElem?_iterate _ _ _ _ hlt, hplace.eq_of_position_eq hindex hposition]

theorem Addressable.mem_visited_iff : index ∈ shape.visited ↔ shape.IsPlace index := by
  constructor
  · rw [visited, List.mem_iterate, h.size]
    rintro ⟨steps, hsteps, rfl⟩
    exact (iterate_next hsteps).1
  · intro hindex
    exact List.mem_of_getElem? (h.getElem?_visited hindex)

/-- Counting meets the places in lexicographic order. -/
theorem Addressable.pairwise_visited : shape.visited.Pairwise (· < ·) := by
  have hnumbers : (shape.visited.map shape.position).Pairwise (· < ·) := by
    rw [h.map_position_visited]
    exact List.pairwise_lt_range
  refine (List.pairwise_map.1 hnumbers).imp_of_mem fun hindex hother hlt => ?_
  exact ((h.mem_visited_iff.1 hindex).lt_iff (h.mem_visited_iff.1 hother)).2 hlt

end Addressable

/-! ### Gathering -/

/-- Gathering reads at each place that is counted through, one after the other. -/
theorem gather_eq {α : Type} (data : Array α) (shape : Shape) (strides : List Nat) (count : Nat)
    (index : List Nat) (gathered : Array α) :
    Tensor.gather data shape strides count index gathered = gathered ++
      ((List.iterate shape.next index count).filterMap fun place =>
        data[offset strides place]?).toArray := by
  induction count generalizing index gathered with
  | zero => simp [Tensor.gather]
  | succ count ih =>
      rw [Tensor.gather, ih, List.iterate, List.filterMap_cons]
      cases data[offset strides index]? with
      | none => rfl
      | some x => simp

theorem gather_visited {α : Type} (data : Array α) (shape : Shape) (strides : List Nat) :
    Tensor.gather data shape strides shape.size shape.origin #[] =
      (shape.visited.filterMap fun index => data[offset strides index]?).toArray := by
  rw [gather_eq, Array.empty_append, visited]

section Reading

variable {α : Type} {data : Array α} {strides : List Nat} (h : shape.Addressable)
  (hread : ∀ index, shape.IsPlace index → offset strides index < data.size)
include h hread

/-- Where every place has an element, gathering leaves none out. -/
theorem Addressable.map_some_gather :
    (Tensor.gather data shape strides shape.size shape.origin #[]).toList.map some =
      shape.visited.map fun index => data[offset strides index]? := by
  rw [gather_visited, List.map_filterMap_some_eq_filter_map_isSome, List.filter_eq_self]
  intro element helement
  obtain ⟨index, hindex, rfl⟩ := List.mem_map.1 helement
  rw [Array.getElem?_eq_getElem (hread index (h.mem_visited_iff.1 hindex))]
  rfl

theorem Addressable.size_gather :
    (Tensor.gather data shape strides shape.size shape.origin #[]).size = shape.product := by
  have hlength := congrArg List.length (h.map_some_gather hread)
  rw [List.length_map, List.length_map, visited, List.length_iterate, Array.length_toList]
    at hlength
  exact hlength.trans h.size

/-- The element read at a place is gathered at its number. -/
theorem Addressable.getElem?_gather (hindex : shape.IsPlace index) :
    (Tensor.gather data shape strides shape.size shape.origin #[])[shape.position index]? =
      data[offset strides index]? := by
  have hsame := congrArg (·[shape.position index]?) (h.map_some_gather hread)
  simp only [List.getElem?_map, h.getElem?_visited hindex, Array.getElem?_toList, Option.map_some,
    Option.map_eq_some_iff] at hsame
  obtain ⟨x, hx, hdata⟩ := hsame
  rw [hx, hdata]

end Reading

/-- The strides of an addressable shape never wrap while they are made, and under them the places lie
one after the other in lexicographic order, each at a number below the size and at each of these numbers
one. Counting up from the place of zeros goes through the places in this order, each of them once, and
after as many steps as there are elements it is back where it began; gathering, under whatever strides,
reads at these places in turn. -/
theorem strides_number_places_in_order (h : shape.Addressable) :
    (∀ axis ≤ shape.length, (stridesAndSize (shape.drop axis)).2 = product (shape.drop axis)) ∧
    shape.strides.length = shape.length ∧
    (∀ axis < shape.length, shape.strides[axis]? = some (product (shape.drop (axis + 1)))) ∧
    (∀ index other, shape.IsPlace index → shape.IsPlace other →
      (index < other ↔ offset shape.strides index < offset shape.strides other)) ∧
    Set.BijOn (offset shape.strides) {index | shape.IsPlace index} (Set.Iio shape.size) ∧
    shape.visited.length = shape.size ∧ shape.visited.Pairwise (· < ·) ∧
    (∀ index, index ∈ shape.visited ↔ shape.IsPlace index) ∧
    shape.visited.map (offset shape.strides) = List.range shape.size ∧
    shape.next^[shape.size] shape.origin = shape.origin ∧
    ∀ {α : Type} (data : Array α) (strides : List Nat),
      Tensor.gather data shape strides shape.size shape.origin #[] =
        (shape.visited.filterMap fun index => data[offset strides index]?).toArray := by
  rw [h.offset_strides, h.strides, h.size]
  refine ⟨fun axis _ => h.stridesAndSize_drop axis, length_rowMajor shape,
    fun axis haxis => getElem?_rowMajor haxis, fun index other hindex hother => hindex.lt_iff hother,
    bijOn_position shape, ?_, h.pairwise_visited, fun index => h.mem_visited_iff, ?_,
    iterate_next_product shape, fun data strides => ?_⟩
  · rw [visited, List.length_iterate, h.size]
  · rw [h.map_position_visited, h.size]
  · rw [← gather_visited, h.size]

/-- An axis of one position between two longer ones: the strides on both sides of it agree, and counting
carries across it. -/
theorem strides_number_places_around_unit_axis :
    let shape : Shape := [2, 1, 3]
    shape.Addressable ∧ shape.strides = [3, 3, 1] ∧
      Set.BijOn (offset [3, 3, 1]) {index | shape.IsPlace index} (Set.Iio 6) ∧
      shape.visited = [[0, 0, 0], [0, 0, 1], [0, 0, 2], [1, 0, 0], [1, 0, 1], [1, 0, 2]] ∧
      shape.visited.Pairwise (· < ·) := by
  intro shape
  have haddressable : shape.Addressable := by decide
  obtain ⟨-, -, -, -, hbij, -, hpairwise, -⟩ := strides_number_places_in_order haddressable
  exact ⟨haddressable, rfl, hbij, by decide, hpairwise⟩

/-- A shape without axes has one place, and one with an empty axis has none. -/
example : visited [] = [[]] ∧ visited [3, 0] = [] := by
  decide

end Shape

end ShapeAssert
