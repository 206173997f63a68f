import Mathlib.Data.List.Dedup
import ShapeAssert.Letters

/-! Look-up in finite maps from letters. Entries are found by their letter, of several pairs inserted
one after the other the last one with a letter counts, and letters paired with different values keep
them apart. -/

namespace ShapeAssert

theorem LetterSet.nodup (set : LetterSet) : set.letters.Nodup :=
  set.ascending.imp fun h => Char.ne_of_lt h

namespace LetterMap

variable {β : Type}

theorem nodup_keys (map : LetterMap β) : (map.entries.map Prod.fst).Nodup :=
  map.keys.nodup

theorem mem_of_find_eq_some {pairs : List (Char × β)} {c : Char} {value : β}
    (h : (pairs.find? (·.1 == c)).map Prod.snd = some value) : (c, value) ∈ pairs := by
  obtain ⟨⟨d, value'⟩, hfind, rfl⟩ := Option.map_eq_some_iff.1 h
  have hd : d = c := by simpa using List.find?_some hfind
  rw [← hd]
  exact List.mem_of_find?_eq_some hfind

/-- Among pairs with different letters, a look-up finds exactly the pairs there are. -/
theorem find_eq_some_iff {pairs : List (Char × β)} (h : (pairs.map Prod.fst).Nodup) {c : Char}
    {value : β} :
    (pairs.find? (·.1 == c)).map Prod.snd = some value ↔ (c, value) ∈ pairs := by
  refine ⟨mem_of_find_eq_some, fun hmem => ?_⟩
  induction pairs with
  | nil => cases hmem
  | cons head rest ih =>
      obtain ⟨hhead, hrest⟩ := List.nodup_cons.1 h
      rcases List.mem_cons.1 hmem with rfl | hmem
      · simp
      · have hne : head.1 ≠ c := by
          rintro rfl
          exact hhead (List.mem_map.2 ⟨_, hmem, rfl⟩)
        rw [List.find?_cons_of_neg (by simpa using hne)]
        exact ih hrest hmem

/-- Of the pairs with a letter the last one counts. -/
theorem lookup_insertMany (map : LetterMap β) (pairs : List (Char × β)) (c : Char) :
    (map.insertMany pairs).lookup c =
      ((pairs.reverse.find? (·.1 == c)).map Prod.snd).or (map.lookup c) := by
  induction pairs generalizing map with
  | nil => rfl
  | cons head rest ih =>
      have hstep : map.insertMany (head :: rest) = (map.insert head.1 head.2).insertMany rest := rfl
      rw [hstep, ih, lookup_insert, List.reverse_cons, List.find?_append]
      cases rest.reverse.find? (·.1 == c) with
      | some pair => rfl
      | none =>
          by_cases hc : c = head.1
          · simp [hc]
          · simp [hc, Ne.symm hc]

theorem lookup_insertMany_of_nodup {map : LetterMap β} {pairs : List (Char × β)}
    (h : (pairs.map Prod.fst).Nodup) {c : Char} :
    (map.insertMany pairs).lookup c =
      ((pairs.find? (·.1 == c)).map Prod.snd).or (map.lookup c) := by
  have hreverse : (pairs.reverse.map Prod.fst).Nodup := by
    rw [List.map_reverse]
    exact (List.reverse_perm _).nodup_iff.2 h
  have hsame : (pairs.reverse.find? (·.1 == c)).map Prod.snd =
      (pairs.find? (·.1 == c)).map Prod.snd := by
    refine Option.ext fun value => ?_
    rw [find_eq_some_iff hreverse, find_eq_some_iff h, List.mem_reverse]
  rw [lookup_insertMany, hsame]

/-- A map made of pairs has the value of the last pair with the letter. -/
theorem lookup_ofList_eq_some {pairs : List (Char × β)} {c : Char} {value : β} :
    (ofList pairs).lookup c = some value ↔
      ∃ before after, pairs = before ++ (c, value) :: after ∧ ∀ pair ∈ after, pair.1 ≠ c := by
  rw [ofList, lookup_insertMany, lookup_empty, Option.or_none, Option.map_eq_some_iff]
  constructor
  · rintro ⟨⟨d, value⟩, hfind, rfl⟩
    obtain ⟨hd, after, before, hsplit, hafter⟩ := List.find?_eq_some_iff_append.1 hfind
    obtain rfl : d = c := by simpa using hd
    refine ⟨before.reverse, after.reverse, ?_, fun pair hpair => ?_⟩
    · rw [← List.reverse_reverse pairs, hsplit]
      simp
    · simpa using hafter pair (List.mem_reverse.1 hpair)
  · rintro ⟨before, after, rfl, hafter⟩
    refine ⟨(c, value), List.find?_eq_some_iff_append.2 ⟨by simp, after.reverse, before.reverse,
      by simp, fun pair hpair => ?_⟩, rfl⟩
    simpa using hafter pair (List.mem_reverse.1 hpair)

theorem contains_ofList {pairs : List (Char × β)} {c : Char} :
    (ofList pairs).contains c = true ↔ c ∈ pairs.map Prod.fst := by
  rw [contains_eq_isSome_lookup, ofList, lookup_insertMany, lookup_empty, Option.or_none,
    Option.isSome_map, List.find?_isSome]
  simp

theorem lookup_eq_some_iff {map : LetterMap β} {c : Char} {value : β} :
    map.lookup c = some value ↔ (c, value) ∈ map.entries :=
  find_eq_some_iff map.nodup_keys

/-- A map made of pairs has one entry for each letter that occurs. -/
theorem size_ofList (pairs : List (Char × β)) :
    (ofList pairs).size = (pairs.map Prod.fst).dedup.length := by
  have hperm : ((ofList pairs).entries.map Prod.fst).Perm (pairs.map Prod.fst).dedup := by
    refine (List.perm_ext_iff_of_nodup (nodup_keys _) (List.nodup_dedup _)).2 fun c => ?_
    rw [List.mem_dedup]
    exact mem_keys.trans contains_ofList
  rw [← hperm.length_eq, List.length_map, size]

/-- Laying one map over another. -/
theorem lookup_insertMany_entries (map other : LetterMap β) (c : Char) :
    (map.insertMany other.entries).lookup c = (other.lookup c).or (map.lookup c) :=
  lookup_insertMany_of_nodup other.nodup_keys

theorem lookup_ofList {pairs : List (Char × β)} (h : (pairs.map Prod.fst).Nodup) {c : Char}
    {value : β} : (ofList pairs).lookup c = some value ↔ (c, value) ∈ pairs := by
  rw [ofList, lookup_insertMany_of_nodup h, lookup_empty, Option.or_none, find_eq_some_iff h]

section Zip

variable {letters : List Char} {values : List β}

theorem mem_zip_iff {c : Char} {value : β} :
    (c, value) ∈ letters.zip values ↔ ∃ i : Nat, letters[i]? = some c ∧ values[i]? = some value := by
  simp only [List.mem_iff_getElem?, List.getElem?_zip_eq_some]

variable (hletters : letters.Nodup) (hlength : letters.length ≤ values.length)
include hletters hlength

theorem lookup_zip {c : Char} {value : β} :
    (ofList (letters.zip values)).lookup c = some value ↔
      ∃ i : Nat, letters[i]? = some c ∧ values[i]? = some value := by
  rw [lookup_ofList, mem_zip_iff]
  rwa [List.map_fst_zip hlength]

/-- Exactly the letters get a value. -/
theorem exists_lookup_zip {c : Char} :
    (∃ value ∈ values, (ofList (letters.zip values)).lookup c = some value) ↔ c ∈ letters := by
  simp only [lookup_zip hletters hlength, List.mem_iff_getElem? (l := letters)]
  constructor
  · rintro ⟨value, -, i, hi, -⟩
    exact ⟨i, hi⟩
  · rintro ⟨i, hi⟩
    have hlt : i < values.length :=
      Nat.lt_of_lt_of_le (List.getElem?_eq_some_iff.1 hi).1 hlength
    exact ⟨values[i], List.getElem_mem hlt, i, hi, List.getElem?_eq_getElem hlt⟩

/-- Letters paired with different values are told apart by them. -/
theorem eq_of_lookup_zip (hvalues : values.Nodup) {c d : Char} {value : β}
    (hc : (ofList (letters.zip values)).lookup c = some value)
    (hd : (ofList (letters.zip values)).lookup d = some value) : c = d := by
  obtain ⟨i, hci, hvi⟩ := (lookup_zip hletters hlength).1 hc
  obtain ⟨j, hdj, hvj⟩ := (lookup_zip hletters hlength).1 hd
  have hij : i = j :=
    (List.getElem?_inj (List.getElem?_eq_some_iff.1 hvi).1 hvalues).1 (hvi.trans hvj.symm)
  rw [hij, hdj] at hci
  exact (Option.some.inj hci).symm

end Zip

end LetterMap

end ShapeAssert
