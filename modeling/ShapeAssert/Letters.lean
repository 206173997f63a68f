/-! Finite sets of letters and finite maps from letters. Both are lists in increasing order of the
letters, so equal contents are equal values and every listing is in the same order. -/

namespace ShapeAssert

private theorem lt_of_not_lt_of_ne {left right : Char} (h : ¬left < right) (hne : left ≠ right) :
    right < left :=
  Char.not_le.1 fun hle => hne (Char.le_antisymm hle (Char.not_lt.1 h))

/-- A finite set of letters. -/
structure LetterSet where
  letters : List Char
  ascending : letters.Pairwise (· < ·) := by simp
  deriving DecidableEq

namespace LetterSet

instance : EmptyCollection LetterSet := ⟨⟨[], .nil⟩⟩

instance : Membership Char LetterSet := ⟨fun set c => c ∈ set.letters⟩

instance (c : Char) (set : LetterSet) : Decidable (c ∈ set) :=
  inferInstanceAs (Decidable (c ∈ set.letters))

/-- Puts a letter in its place unless it is there. -/
def insertLetter (c : Char) : List Char → List Char
  | [] => [c]
  | head :: rest =>
      if c < head then c :: head :: rest
      else if c = head then head :: rest
      else head :: insertLetter c rest

theorem mem_insertLetter {c d : Char} {letters : List Char} :
    d ∈ insertLetter c letters ↔ d = c ∨ d ∈ letters := by
  induction letters with
  | nil => simp [insertLetter]
  | cons head rest ih => grind [insertLetter]

theorem pairwise_insertLetter {c : Char} {letters : List Char}
    (h : letters.Pairwise (· < ·)) : (insertLetter c letters).Pairwise (· < ·) := by
  induction letters with
  | nil => simp [insertLetter]
  | cons head rest ih =>
      obtain ⟨hhead, hrest⟩ := List.pairwise_cons.1 h
      unfold insertLetter
      split
      · next hlt =>
          refine List.pairwise_cons.2 ⟨fun d hd => ?_, h⟩
          obtain rfl | hd := List.mem_cons.1 hd
          · exact hlt
          · exact Char.lt_trans hlt (hhead d hd)
      · next hlt =>
          split
          · exact h
          · next hne =>
              refine List.pairwise_cons.2 ⟨fun d hd => ?_, ih hrest⟩
              obtain rfl | hd := mem_insertLetter.1 hd
              · exact lt_of_not_lt_of_ne hlt hne
              · exact hhead d hd

def insert (set : LetterSet) (c : Char) : LetterSet :=
  ⟨insertLetter c set.letters, pairwise_insertLetter set.ascending⟩

def ofList (letters : List Char) : LetterSet :=
  letters.foldl insert ∅

@[simp] theorem mem_insert {set : LetterSet} {c d : Char} :
    d ∈ set.insert c ↔ d = c ∨ d ∈ set :=
  mem_insertLetter

private theorem mem_foldl_insert {letters : List Char} {set : LetterSet} {c : Char} :
    c ∈ letters.foldl insert set ↔ c ∈ letters ∨ c ∈ set := by
  induction letters generalizing set with
  | nil => simp
  | cons head rest ih => simp only [List.foldl_cons, ih, mem_insert, List.mem_cons]; grind

@[simp] theorem mem_ofList {letters : List Char} {c : Char} :
    c ∈ ofList letters ↔ c ∈ letters := by
  rw [ofList, mem_foldl_insert]
  exact or_iff_left (List.not_mem_nil (a := c))

/-- The letters in increasing order. -/
def text (set : LetterSet) : String :=
  String.ofList set.letters

end LetterSet

/-- A finite map from letters. -/
structure LetterMap (β : Type) where
  entries : List (Char × β)
  ascending : (entries.map Prod.fst).Pairwise (· < ·) := by simp
  deriving DecidableEq

namespace LetterMap

variable {β : Type}

instance : EmptyCollection (LetterMap β) := ⟨⟨[], .nil⟩⟩

instance : Inhabited (LetterMap β) := ⟨∅⟩

/-- Puts an entry in its place, replacing the one with the same letter. -/
def insertEntry (c : Char) (value : β) : List (Char × β) → List (Char × β)
  | [] => [(c, value)]
  | head :: rest =>
      if c < head.1 then (c, value) :: head :: rest
      else if c = head.1 then (c, value) :: rest
      else head :: insertEntry c value rest

theorem map_fst_insertEntry (c : Char) (value : β) (entries : List (Char × β)) :
    (insertEntry c value entries).map Prod.fst =
      LetterSet.insertLetter c (entries.map Prod.fst) := by
  induction entries with
  | nil => rfl
  | cons head rest ih => grind [insertEntry, LetterSet.insertLetter]

def insert (map : LetterMap β) (c : Char) (value : β) : LetterMap β :=
  ⟨insertEntry c value map.entries, by
    rw [map_fst_insertEntry]; exact LetterSet.pairwise_insertLetter map.ascending⟩

/-- Inserts the pairs one after the other, so that a later pair wins. -/
def insertMany (map : LetterMap β) (pairs : List (Char × β)) : LetterMap β :=
  pairs.foldl (fun map pair => map.insert pair.1 pair.2) map

def ofList (pairs : List (Char × β)) : LetterMap β :=
  insertMany ∅ pairs

def lookup (map : LetterMap β) (c : Char) : Option β :=
  (map.entries.find? (·.1 == c)).map Prod.snd

def contains (map : LetterMap β) (c : Char) : Bool :=
  map.entries.any (·.1 == c)

def size (map : LetterMap β) : Nat :=
  map.entries.length

/-- The letters that have a value. -/
def keys (map : LetterMap β) : LetterSet :=
  ⟨map.entries.map Prod.fst, map.ascending⟩

@[simp] theorem lookup_empty (c : Char) : (∅ : LetterMap β).lookup c = none := rfl

theorem lookup_insert (map : LetterMap β) (c d : Char) (value : β) :
    (map.insert c value).lookup d = if d = c then some value else map.lookup d := by
  obtain ⟨entries, ascending⟩ := map
  simp only [lookup, insert]
  induction entries with
  | nil => grind [insertEntry]
  | cons head rest ih =>
      obtain ⟨hhead, hrest⟩ := List.pairwise_cons.1 ascending
      have := ih hrest
      grind [insertEntry]

theorem contains_eq_isSome_lookup (map : LetterMap β) (c : Char) :
    map.contains c = (map.lookup c).isSome := by
  rw [Bool.eq_iff_iff]
  simp [contains, lookup]

theorem mem_keys {map : LetterMap β} {c : Char} : c ∈ map.keys ↔ map.contains c = true := by
  simp only [keys, contains, Membership.mem, List.any_eq_true]
  constructor
  · intro h
    obtain ⟨entry, hentry, rfl⟩ := List.mem_map.1 h
    exact ⟨entry, hentry, by simp⟩
  · rintro ⟨entry, hentry, h⟩
    exact List.mem_map.2 ⟨entry, hentry, by simpa using h⟩

end LetterMap

end ShapeAssert
