import ShapeAssert.Element
import ShapeAssert.Random.Source

/-! A small generator of random words and the random source made from it. The state moves by a fixed
odd step and every word is a mixture of the bits of the state. It makes checks run, but it is not the
standard generator of the random library and draws other numbers from a seed. No theorem is about it:
what is proved of checks holds for every source. -/

namespace ShapeAssert

structure Generator where
  state : UInt64

namespace Generator

/-- The odd step between states. -/
def step : UInt64 := 0x9e3779b97f4a7c15

/-- Spreads every bit of the state over the whole word. -/
def mix (state : UInt64) : UInt64 :=
  let word := (state ^^^ (state >>> 30)) * 0xbf58476d1ce4e5b9
  let word := (word ^^^ (word >>> 27)) * 0x94d049bb133111eb
  word ^^^ (word >>> 31)

def word (generator : Generator) : UInt64 × Generator :=
  let state := generator.state + step
  (mix state, ⟨state⟩)

/-- A number above zero and not above one, from the high bits of a word. -/
def fraction (word : UInt64) : Float :=
  ((word >>> 11).toFloat + 1.0) / 9007199254740992.0

/-- A normal sample from two words, by the radius and the angle of a point in the plane. -/
def normal (generator : Generator) : Float × Generator :=
  let (first, generator) := generator.word
  let (second, generator) := generator.word
  let radius := Float.sqrt (-2.0 * Float.log (fraction first))
  (radius * Float.cos (6.283185307179586 * fraction second), generator)

/-- The random source over the generator. -/
def source (α : Type) [Element α] : RandomSource Generator α where
  pick generator last :=
    let (word, generator) := generator.word
    (Fin.ofNat (last + 1) word.toNat, generator)
  sample generator :=
    let (x, generator) := generator.normal
    (Element.ofFloat x, generator)
  ofSeed seed := ⟨UInt64.ofNat seed⟩

end Generator

end ShapeAssert
