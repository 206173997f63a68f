import ShapeAssert.Constraint
import ShapeAssert.Formula.Basic
import ShapeAssert.Random.Source

/-! Giving the letters of a formula their values. Letters without a constraint get different primes,
so that axes with different letters have different extents unless a constraint says otherwise. -/

namespace ShapeAssert

/-- The values that letters are given, in increasing order. -/
def primes : List Nat :=
  [5, 7, 11, 13, 17, 19, 23, 29, 31, 37, 41, 43, 47, 53, 59, 61, 67, 71, 73, 79, 83, 89, 97]

def primesBelow (bound : Nat) : List Nat :=
  primes.takeWhile (· < bound)

/-- The values of letters in one trial. -/
abbrev Assignment := LetterMap Int

namespace Assignment

/-- The letters of a formula that no constraint fixes, in increasing order. -/
def freeLetters (formula : Formula) (constraints : Constraints) : List Char :=
  formula.letters.letters.filter (!constraints.contains ·)

/-- Pairs the letters with numbers from the front and then lays the constraints over them. -/
def overlay (letters : List Char) (numbers : List Nat) (constraints : Constraints) : Assignment :=
  (LetterMap.ofList (letters.zip (numbers.map Int.ofNat))).insertMany constraints.entries

variable {σ α : Type}

/-- Draws the values of a formula's letters: the primes below the bound are shuffled and handed out
to the free letters in order. There have to be enough of them. -/
def draw (source : RandomSource σ α) (formula : Formula) (constraints : Constraints)
    (bound : Nat) (state : σ) : Except Error (Assignment × σ) :=
  let free := freeLetters formula constraints
  let pool := primesBelow bound
  if pool.length < free.length then
    .error (.insufficientPrimes free.length pool.length bound)
  else
    let (shuffled, state) := source.shuffle pool.toArray state
    .ok (overlay free shuffled.toList constraints, state)

end Assignment

end ShapeAssert
