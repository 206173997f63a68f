import ShapeAssert.Decimal.Literal
import ShapeAssert.Element
import ShapeAssert.Error
import ShapeAssert.Random.Source
import ShapeAssert.Text.WhiteSpace

/-! Fills: how the elements of a generated tensor are chosen. -/

namespace ShapeAssert

inductive Fill where
  | random
  | zeros
  | ones
  | constant (value : Float)
  deriving BEq

namespace Fill

instance : Inhabited Fill := ⟨random⟩

/-- The fill that a text names, white space around it aside. A text that is no name is read as a
number. -/
def ofChars? (text : List Char) : Option Fill :=
  let word := Text.trim text
  if word = "random".toList then some random
  else if word = "zeros".toList then some zeros
  else if word = "ones".toList then some ones
  else (Decimal.Literal.parse? word).map fun literal => constant literal.toFloat

def parse (text : String) : Except Error Fill :=
  match ofChars? text.toList with
  | some fill => .ok fill
  | none => .error (.unknownFill text)

def text : Fill → String
  | random => "random"
  | zeros => "zeros"
  | ones => "ones"
  | constant value => Decimal.floatText plainNumber value

variable {σ α : Type} [Element α]

/-- A constant as an element. A finite number that becomes infinite cannot be represented. -/
def element (value : Float) : Except Error α :=
  let x : α := Element.ofFloat value
  if Element.isFinite x || !value.isFinite then .ok x else .error (.unrepresentableFill value)

/-- The given number of elements. Only a random fill draws from the source. -/
def generate (fill : Fill) (source : RandomSource σ α) (count : Nat) (state : σ) :
    Except Error (Array α × σ) :=
  match fill with
  | random => .ok (source.samples count state)
  | zeros => .ok (Array.replicate count 0, state)
  | ones => .ok (Array.replicate count 1, state)
  | constant value => (element value).map fun x => (Array.replicate count x, state)

theorem size_generate {fill : Fill} {source : RandomSource σ α} {count : Nat} {state state' : σ}
    {data : Array α} (h : fill.generate source count state = .ok (data, state')) :
    data.size = count := by
  cases fill with
  | random =>
      have hdata : (source.samples count state).1 = data := congrArg Prod.fst (Except.ok.inj h)
      rw [← hdata, source.size_samples]
  | zeros =>
      obtain ⟨rfl, -⟩ := Prod.mk.inj (Except.ok.inj h)
      exact Array.size_replicate
  | ones =>
      obtain ⟨rfl, -⟩ := Prod.mk.inj (Except.ok.inj h)
      exact Array.size_replicate
  | constant value =>
      change (element value).map _ = _ at h
      cases helement : (element value : Except Error α) with
      | error e =>
          rw [helement] at h
          cases h
      | ok x =>
          rw [helement] at h
          obtain ⟨rfl, -⟩ := Prod.mk.inj (Except.ok.inj h)
          exact Array.size_replicate

end Fill

end ShapeAssert
