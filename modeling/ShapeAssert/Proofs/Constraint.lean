import ShapeAssert.Constraint
import ShapeAssert.Proofs.Expr.Tokens
import ShapeAssert.Proofs.Letters
import ShapeAssert.Proofs.Sequence

/-! What is accepted as constraints. A caller writes numbers of several kinds and texts; accepted are
exactly the letters with whole numbers from zero to the largest value. The numbers are kept as they
are, the last one of a letter counts, and the first pair that is not accepted is the one reported. -/

namespace ShapeAssert

namespace Text

theorem escape_digit {c : Char} (hc : c.isDigit = true) : escape c = [c] := by
  have hcode : 48 ≤ c.toNat ∧ c.toNat ≤ 57 := by
    simpa [Char.isDigit, UInt32.le_iff_toNat_le] using hc
  have hdigits : ∀ code ≤ 57, 48 ≤ code → escape (Char.ofNat code) = [Char.ofNat code] := by
    decide +kernel
  rw [← Char.ofNat_toNat c]
  exact hdigits _ hcode.2 hcode.1

/-- Digits show as themselves inside quotes. -/
theorem quote_digits (n : Nat) :
    quote (String.ofList (Decimal.digits n)) = "\"" ++ String.ofList (Decimal.digits n) ++ "\"" := by
  have hdigits : (Decimal.digits n).flatMap escape = Decimal.digits n := by
    rw [List.flatMap_congr fun c hc => escape_digit (Decimal.isDigit_of_mem_digits hc),
      List.flatMap_singleton']
  rw [← String.toList_inj]
  simp [quote, hdigits]

end Text

/-- What a caller may give as the value of a constraint: a whole number of any width, a number in
single or in double precision, or a text. -/
inductive ConstraintSource where
  | whole (n : Int)
  | single (x : Float32)
  | double (x : Float)
  | text (s : String)

namespace ConstraintSource

def value : ConstraintSource → ConstraintValue
  | whole n => .ofInt n
  | single x => .ofFloat32 x
  | double x => .float x
  | text s => .text s

/-- It is the whole number `n`, which may be the value of a constraint. -/
def IsNatural (source : ConstraintSource) (n : Int) : Prop :=
  source = whole n ∧ 0 ≤ n ∧ n ≤ maxValue

/-- Keeping a number only if it is in range loses none that may be the value of a constraint. -/
theorem natural?_value {source : ConstraintSource} {n : Int} :
    source.value.natural? = some n ↔ source.IsNatural n := by
  cases source with
  | whole m =>
      have hmin : minValue ≤ 0 := by decide
      rw [value, ConstraintValue.ofInt, IsNatural, whole.injEq]
      split
      · next hrange =>
          have hmax : m ≤ maxValue := hrange.2
          grind [ConstraintValue.natural?]
      · next hrange =>
          have hout : ¬(0 ≤ m ∧ m ≤ maxValue) := fun h => hrange ⟨by omega, h.2⟩
          grind [ConstraintValue.natural?]
  | single x => simp [value, ConstraintValue.ofFloat32, ConstraintValue.natural?, IsNatural]
  | double x => simp [value, ConstraintValue.natural?, IsNatural]
  | text s => simp [value, ConstraintValue.natural?, IsNatural]

/-- A number too large to be kept as a number is shown with all its digits. -/
theorem display_whole_of_large {n : Nat} (h : maxValue < n) :
    (whole n).value.display = "\"" ++ String.ofList (Decimal.digits n) ++ "\"" := by
  have hrange : ¬InRange n := fun hrange => absurd hrange.2 (Int.not_le.2 h)
  rw [value, ConstraintValue.ofInt, dif_neg hrange, ConstraintValue.display, ← Text.quote_digits]
  rfl

end ConstraintSource

namespace Constraints

/-- The name consists of one letter. -/
def IsName (name : String) : Prop :=
  ∃ c, name = .singleton c ∧ Text.isLetter c = true

/-- The pair of a name and a value may fix the value of a letter. -/
def Accepted (pair : String × ConstraintSource) : Prop :=
  IsName pair.1 ∧ ∃ n, pair.2.IsNatural n

/-- What is wrong with a pair. The name is judged before the value. -/
def Refused (pair : String × ConstraintSource) (e : Error) : Prop :=
  ¬IsName pair.1 ∧ e = .constraintKey pair.1 ∨
    IsName pair.1 ∧ (¬∃ n, pair.2.IsNatural n) ∧ e = .constraintType pair.1 pair.2.value.display

/-- The pair that fixes a letter to a number. -/
def written (entry : Char × Int) : String × ConstraintSource :=
  (.singleton entry.1, .whole entry.2)

theorem letter?_eq_some {name : String} {c : Char} :
    letter? name = some c ↔ name = .singleton c ∧ Text.isLetter c = true := by
  have hname : name = .singleton c ↔ name.toList = [c] := by
    rw [← String.toList_inj, String.toList_singleton]
  rw [hname, letter?]
  split
  · next d heq =>
      rw [heq, List.singleton_inj]
      grind
  · next hother =>
      simp only [reduceCtorEq, false_iff]
      exact fun h => hother c h.1

variable {raw : List (String × ConstraintSource)} {pair : String × ConstraintSource}

theorem entry_eq_ok {bound : Char × Int} :
    entry pair.1 pair.2.value = .ok bound ↔
      pair = written bound ∧ Text.isLetter bound.1 = true ∧ 0 ≤ bound.2 ∧ bound.2 ≤ maxValue := by
  obtain ⟨name, source⟩ := pair
  obtain ⟨c, n⟩ := bound
  have hentry : entry name source.value = .ok (c, n) ↔
      letter? name = some c ∧ source.value.natural? = some n := by
    unfold entry
    grind
  rw [hentry, letter?_eq_some, ConstraintSource.natural?_value, ConstraintSource.IsNatural, written,
    Prod.mk.injEq]
  exact and_and_and_comm

theorem exists_entry_eq_ok : (∃ bound, entry pair.1 pair.2.value = .ok bound) ↔ Accepted pair := by
  simp only [entry_eq_ok]
  constructor
  · rintro ⟨⟨c, n⟩, rfl, hletter, hn⟩
    exact ⟨⟨c, rfl, hletter⟩, n, rfl, hn⟩
  · obtain ⟨name, source⟩ := pair
    rintro ⟨⟨c, rfl, hletter⟩, n, rfl, hn⟩
    exact ⟨(c, n), rfl, hletter, hn⟩

theorem entry_eq_error {e : Error} : entry pair.1 pair.2.value = .error e ↔ Refused pair e := by
  have hletter : IsName pair.1 ↔ ∃ c, letter? pair.1 = some c := by
    simp only [letter?_eq_some, IsName]
  have hnatural : (∃ n, pair.2.IsNatural n) ↔ ∃ n, pair.2.value.natural? = some n := by
    simp only [ConstraintSource.natural?_value]
  rw [Refused, hletter, hnatural]
  unfold entry
  cases letter? pair.1 with
  | none => simp [eq_comm]
  | some c => cases pair.2.value.natural? <;> simp [eq_comm]

/-- What has been accepted is a list of letters with numbers. -/
theorem validate_eq_ok {constraints : Constraints} :
    validate (raw.map fun pair => (pair.1, pair.2.value)) = .ok constraints ↔
      ∃ bounds : List (Char × Int), (raw = bounds.map written ∧
        ∀ bound ∈ bounds, Text.isLetter bound.1 = true ∧ 0 ≤ bound.2 ∧ bound.2 ≤ maxValue) ∧
        .ofList bounds = constraints := by
  rw [validate, List.mapM_map, map_eq_ok]
  exact exists_congr fun _ => and_congr_left' (mapM_eq_ok_of_written fun _ _ => entry_eq_ok)

theorem validate_eq_error {e : Error} :
    validate (raw.map fun pair => (pair.1, pair.2.value)) = .error e ↔
      ∃ pair, FirstFailing Accepted raw pair ∧ Refused pair e := by
  rw [validate, List.mapM_map, map_eq_error, mapM_eq_error_iff]
  simp only [Function.comp_apply, exists_entry_eq_ok, entry_eq_error]

theorem exists_validate_eq_ok :
    (∃ constraints, validate (raw.map fun pair => (pair.1, pair.2.value)) = .ok constraints) ↔
      ∀ pair ∈ raw, Accepted pair := by
  constructor
  · rintro ⟨constraints, hok⟩ pair hpair
    rw [validate, List.mapM_map, map_eq_ok] at hok
    obtain ⟨bounds, hbounds, -⟩ := hok
    obtain ⟨bound, hbound⟩ := exists_ok_of_mapM hbounds hpair
    exact exists_entry_eq_ok.1 ⟨bound, hbound⟩
  · intro hall
    cases hresult : validate (raw.map fun pair => (pair.1, pair.2.value)) with
    | ok constraints => exact ⟨constraints, rfl⟩
    | error e =>
        obtain ⟨pair, hfirst, -⟩ := validate_eq_error.1 hresult
        exact absurd (hall pair hfirst.mem) hfirst.fails

/-- The values fixed by a list of pairs. The look-up of a letter gives the number of the last pair for
it; whether a letter has a value, the entries and their number agree with that. -/
structure Fixes (raw : List (String × ConstraintSource)) (constraints : Constraints) : Prop where
  lookup : ∀ c n, constraints.lookup c = some n ↔ ∃ before after,
    raw = before ++ (.singleton c, .whole n) :: after ∧ ∀ pair ∈ after, pair.1 ≠ .singleton c
  contains : ∀ c, constraints.contains c = true ↔ .singleton c ∈ raw.map Prod.fst
  found : ∀ c, constraints.contains c = (constraints.lookup c).isSome
  entries : ∀ c n, (c, n) ∈ constraints.entries ↔ constraints.lookup c = some n
  once : (constraints.entries.map Prod.fst).Nodup
  size : constraints.size = (raw.map Prod.fst).dedup.length

theorem written_eq_iff {bound bound' : Char × Int} : written bound = written bound' ↔ bound = bound' := by
  obtain ⟨c, n⟩ := bound
  obtain ⟨d, m⟩ := bound'
  simp [written, String.singleton_inj]

theorem fixes_ofList (bounds : List (Char × Int)) :
    Fixes (bounds.map written) (.ofList bounds) := by
  have hnames : (bounds.map written).map Prod.fst = (bounds.map Prod.fst).map .singleton := by
    rw [List.map_map, List.map_map]
    rfl
  have hinjective : Function.Injective String.singleton := fun _ _ => String.singleton_inj.1
  refine ⟨fun c n => ?_, fun c => ?_, fun c => LetterMap.contains_eq_isSome_lookup _ c,
    fun c n => LetterMap.lookup_eq_some_iff.symm, LetterMap.nodup_keys _, ?_⟩
  · rw [LetterMap.lookup_ofList_eq_some]
    constructor
    · rintro ⟨before, after, rfl, hafter⟩
      refine ⟨before.map written, after.map written, List.map_append, ?_⟩
      rintro _ hpair hname
      obtain ⟨bound, hbound, rfl⟩ := List.mem_map.1 hpair
      exact hafter bound hbound (hinjective hname)
    · rintro ⟨before, after, hsplit, hafter⟩
      obtain ⟨before, rest, rfl, rfl, hrest⟩ := List.map_eq_append_iff.1 hsplit
      obtain ⟨bound, after, rfl, hbound, rfl⟩ := List.map_eq_cons_iff.1 hrest
      obtain rfl : bound = (c, n) := written_eq_iff.1 hbound
      refine ⟨before, after, rfl, fun bound hmem hc => ?_⟩
      exact hafter (written bound) (List.mem_map_of_mem hmem) (congrArg String.singleton hc)
  · rw [LetterMap.contains_ofList, hnames, List.mem_map_of_injective hinjective]
  · rw [LetterMap.size_ofList, hnames, List.dedup_map_of_injective hinjective, List.length_map]

/-- Accepted are exactly the lists of letters with whole numbers from zero to the largest value. Each
letter that occurs is then fixed to the number of its last pair. Otherwise the first pair that may not
fix a letter is reported, its name before its value, and a number that is too large is shown with all
its digits. -/
theorem validate_accepts_naturals (raw : List (String × ConstraintSource)) :
    ((∃ constraints, validate (raw.map fun pair => (pair.1, pair.2.value)) = .ok constraints) ↔
        ∀ pair ∈ raw, Accepted pair) ∧
      (∀ constraints, validate (raw.map fun pair => (pair.1, pair.2.value)) = .ok constraints →
        Fixes raw constraints) ∧
      (∀ e, validate (raw.map fun pair => (pair.1, pair.2.value)) = .error e ↔
        ∃ pair, FirstFailing Accepted raw pair ∧ Refused pair e) ∧
      ∀ n : Nat, maxValue < n → (ConstraintSource.whole n).value.display =
        "\"" ++ String.ofList (Decimal.digits n) ++ "\"" := by
  refine ⟨exists_validate_eq_ok, fun constraints hok => ?_, fun e => validate_eq_error,
    fun n => ConstraintSource.display_whole_of_large⟩
  obtain ⟨bounds, ⟨rfl, -⟩, rfl⟩ := validate_eq_ok.1 hok
  exact fixes_ofList bounds

/-- The largest value is kept as it is and replaces an earlier one. -/
theorem validate_accepts_largest :
    let raw : List (String × ConstraintSource) := [("n", .whole 1), ("n", .whole maxValue)]
    ∃ constraints, validate (raw.map fun pair => (pair.1, pair.2.value)) = .ok constraints ∧
      constraints.lookup 'n' = some maxValue ∧ constraints.size = 1 := by
  intro raw
  obtain ⟨haccepts, hfixes, -⟩ := validate_accepts_naturals raw
  have hname : IsName "n" := ⟨'n', rfl, by decide +kernel⟩
  have hall : ∀ pair ∈ raw, Accepted pair := by
    intro pair hpair
    simp only [raw, List.mem_cons, List.not_mem_nil, or_false] at hpair
    rcases hpair with rfl | rfl
    · exact ⟨hname, 1, rfl, by decide, by decide⟩
    · exact ⟨hname, maxValue, rfl, by decide, by decide⟩
  obtain ⟨constraints, hok⟩ := haccepts.2 hall
  have hfix := hfixes constraints hok
  exact ⟨constraints, hok, (hfix.lookup 'n' maxValue).2 ⟨[("n", .whole 1)], [], rfl, by simp⟩,
    hfix.size⟩

end Constraints

end ShapeAssert
