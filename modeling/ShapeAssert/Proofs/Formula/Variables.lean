import ShapeAssert.Proofs.Expr.Names
import ShapeAssert.Proofs.Expr.Printing
import ShapeAssert.Proofs.Formula.Extents
import ShapeAssert.Proofs.Formula.Language
import Std.Data.HashMap

/-! The letters of a formula are all that its shape depends on. Bindings that agree on them give it the
same shape or the same error, and if its names are single letters that have a value it is never the
lack of one that leaves it without a shape. A name of several letters has no value under any
binding. The letters of the functions that are called are none of those the value depends on. -/

namespace ShapeAssert

/-- An expression names a variable of several letters. -/
def Expr.HasLongName (e : Expr) : Prop :=
  ∃ name, .var name ∈ e.nodes ∧ 1 < name.toList.length

/-- A group of the formula names a variable of several letters. -/
def TensorFormula.HasLongName (formula : TensorFormula) : Prop :=
  ∃ source e, .group source e ∈ formula.dimensions ∧ e.HasLongName

/-- A group of the formulas names a variable of several letters. -/
def Formula.HasLongName (formula : Formula) : Prop :=
  ∃ tensor ∈ formula.tensors, tensor.HasLongName

variable {binding left right : Binding}

theorem Expr.HasLongName.eval_ne_ok {e : Expr} (h : e.HasLongName) {n : Int} :
    e.eval binding ≠ .ok n := by
  intro hn
  obtain ⟨name, hname, hlong⟩ := h
  obtain ⟨m, hm⟩ := exists_eval_of_mem_nodes hn hname
  rw [eval] at hm
  obtain ⟨c, hc, -⟩ := lookup_eq_ok.1 hm
  simp [hc] at hlong

theorem Expr.WellFormed.exists_unbound_of_eval {e : Expr} (he : e.WellFormed)
    (hnames : ¬e.HasLongName) {name : String} (h : e.eval binding = .error (.undefined name)) :
    ∃ c ∈ e.nameLetters, binding c = none := by
  obtain ⟨hname, hlookup⟩ := lookup_of_eval_eq_undefined h
  have hshort : ¬1 < name.toList.length := fun hlong => hnames ⟨name, hname, hlong⟩
  cases he.of_mem_nodes hname with
  | var hne _ =>
      have hpos := List.length_pos_iff.2 hne
      obtain ⟨c, hc⟩ : ∃ c, name.toList = [c] := List.length_eq_one_iff.1 (by omega)
      refine ⟨c, (mem_nameLetters e).2 ⟨name, hname, by simp [hc]⟩, ?_⟩
      cases hvalue : binding c with
      | none => rfl
      | some n =>
          rw [lookup_eq_ok.2 ⟨c, hc, hvalue⟩] at hlookup
          cases hlookup

namespace Dimension

theorem value_congr {dimension : Dimension} (h : ∀ c ∈ dimension.nameLetters, left c = right c) :
    dimension.value left = dimension.value right := by
  cases dimension with
  | letter c => rw [value, value, h c (List.mem_singleton_self c)]
  | group source e => rw [value, value, Expr.evalQuoting, Expr.evalQuoting, Expr.eval_congr h]

theorem value_group_ne_ok {source : String} {e : Expr} (h : e.HasLongName) {n : Int} :
    (group source e).value binding ≠ .ok n :=
  fun hn => h.eval_ne_ok (mapError_eq_ok.1 hn)

end Dimension

namespace TensorFormula

theorem mem_letters_of_nameLetters {formula : TensorFormula} {dimension : Dimension}
    (h : dimension ∈ formula.dimensions) {c : Char} (hc : c ∈ dimension.nameLetters) :
    c ∈ formula.letters :=
  Axes.mem_letters.2 ⟨dimension, h, hc⟩

theorem shape_congr {formula : TensorFormula} (h : ∀ c ∈ formula.letters, left c = right c) :
    formula.shape left = formula.shape right := by
  have hextents : formula.dimensions.mapM (extent left) = formula.dimensions.mapM (extent right) :=
    mapM_congr fun dimension hdimension => by
      rw [extent, extent, Dimension.value_congr fun c hc =>
        h c (mem_letters_of_nameLetters hdimension hc)]
  rw [shape, shape, hextents]

theorem HasLongName.shape_ne_ok {formula : TensorFormula} (h : formula.HasLongName)
    {shape : Shape} : formula.shape binding ≠ .ok shape := by
  intro hshape
  obtain ⟨source, e, hgroup, hlong⟩ := h
  obtain ⟨extent, -, hextent⟩ :=
    exists_of_mem_forall₂ (TensorFormula.shape_eq_ok.1 hshape).2.flip hgroup
  exact Dimension.value_group_ne_ok hlong hextent

end TensorFormula

/-- A dimension that was read and whose names are single letters lacks a value for want of a variable
only if one of its letters has no value. -/
theorem Dimension.exists_unbound_of_value {dimension : Dimension}
    (hparse : ∀ source e, dimension = .group source e → Expr.parse source = .ok e)
    (hnames : ∀ source e, dimension = .group source e → ¬e.HasLongName) {expression name : String}
    (h : dimension.value binding = .error (.undefinedVariable expression name)) :
    ∃ c ∈ dimension.nameLetters, binding c = none := by
  cases dimension with
  | letter c =>
      refine ⟨c, List.mem_singleton_self c, ?_⟩
      cases hc : binding c with
      | none => rfl
      | some n => simp [Dimension.value, hc] at h
  | group source e =>
      obtain ⟨fault, hfault, herror⟩ := mapError_eq_error.1 h
      cases fault with
      | undefined name =>
          exact (Expr.wellFormed_of_parse (hparse source e rfl)).exists_unbound_of_eval
            (hnames source e rfl) hfault
      | overflow => cases herror
      | miscalled f count => cases herror

/-- A formula that was read and whose names are single letters lacks a shape for want of a variable
only if one of its letters has no value. -/
theorem TensorFormula.exists_unbound_of_shape {source : String} {formula : TensorFormula}
    (hparse : parse source = .ok formula) (hnames : ¬formula.HasLongName) {expression name : String}
    (h : formula.shape binding = .error (.undefinedVariable expression name)) :
    ∃ c ∈ formula.letters, binding c = none := by
  rcases bind_eq_error.1 h with h | ⟨extents, -, h⟩
  · obtain ⟨dimension, hdimension, hextent⟩ := mapM_eq_error h
    rcases extent_eq_error.1 hextent with hvalue | ⟨value, -, -, herror⟩
    · obtain ⟨c, hc, hnone⟩ := Dimension.exists_unbound_of_value
        (fun source e heq => (parse_eq_ok_iff.1 hparse).2.parse_of_group (heq ▸ hdimension))
        (fun source e heq hlong => hnames ⟨source, e, heq ▸ hdimension, hlong⟩) hvalue
      exact ⟨c, mem_letters_of_nameLetters hdimension hc, hnone⟩
    · cases herror
  · rcases bind_eq_error.1 h with h | ⟨count, -, h⟩
    · obtain ⟨-, herror⟩ := Shape.elementCount_eq_error.1 h
      cases herror
    · cases h

/-! ### What is read of a binding -/

theorem Expr.evalQuoting_congr {e : Expr} (h : ∀ c ∈ e.letters, left c = right c)
    (source : String) : e.evalQuoting source left = e.evalQuoting source right := by
  rw [evalQuoting, evalQuoting, eval_congr fun c hc => h c (LetterSet.mem_ofList.2 hc)]

/-- A text that is no expression is refused in the same way under all bindings. -/
theorem Expr.evaluate_congr {source : String}
    (h : ∀ e, parse source = .ok e → ∀ c ∈ e.letters, left c = right c) :
    evaluate source left = evaluate source right := by
  rw [evaluate, evaluate]
  cases hparse : parse source with
  | error error => rfl
  | ok e => exact evalQuoting_congr (h e hparse) source

/-- The letters of a formula that was read are its bare ones and those of the expressions in its
groups. -/
theorem TensorFormula.mem_letters_of_parse {source : String} {formula : TensorFormula}
    (hparse : parse source = .ok formula) {c : Char} :
    c ∈ formula.letters ↔ .letter c ∈ formula.dimensions ∨
      ∃ group e, .group group e ∈ formula.dimensions ∧ Expr.parse group = .ok e ∧
        c ∈ e.letters := by
  rw [mem_letters]
  refine or_congr_right (exists_congr fun group => exists_congr fun e => ?_)
  refine and_congr_right fun hgroup => ?_
  rw [← Expr.mem_nameLetters, Expr.letters, LetterSet.mem_ofList]
  exact (and_iff_right ((parse_eq_ok_iff.1 hparse).2.parse_of_group hgroup)).symm

/-- The value of an expression depends on nothing but its letters: bindings that agree on them, whatever
holds their values, give the same value or the same error with the same text quoted, and likewise the
same shape of a formula. The letters of an expression are those of the names in its text that no opening
parenthesis follows, and every name that one follows is that of a function; the letters of a formula
are its bare ones and those of the expressions in its groups. -/
theorem evaluation_reads_only_letters :
    (∀ (e : Expr) (left right : Binding), (∀ c ∈ e.letters, left c = right c) →
      e.value left = e.value right ∧
        ∀ source, e.evalQuoting source left = e.evalQuoting source right) ∧
    (∀ (source : String) (left right : Binding),
      (∀ e, Expr.parse source = .ok e → ∀ c ∈ e.letters, left c = right c) →
        Expr.evaluate source left = Expr.evaluate source right) ∧
    (∀ (formula : TensorFormula) (left right : Binding), (∀ c ∈ formula.letters, left c = right c) →
      formula.shape left = formula.shape right) ∧
    (∀ source e, Expr.parse source = .ok e → ∃ tokens, Token.scan source.toList = .ok tokens ∧
      (∀ c, c ∈ e.letters ↔ ∃ before name after, tokens = before ++ .name name :: after ∧
        after.head? ≠ some .leftParen ∧ c ∈ name.toList) ∧
      ∀ before name after, tokens = before ++ .name name :: .leftParen :: after →
        ∃ f : Builtin, name = f.name) ∧
    ∀ source formula, TensorFormula.parse source = .ok formula → ∀ c, c ∈ formula.letters ↔
      .letter c ∈ formula.dimensions ∨
        ∃ group e, .group group e ∈ formula.dimensions ∧ Expr.parse group = .ok e ∧
          c ∈ e.letters := by
  refine ⟨fun e left right h => ⟨Expr.evalQuoting_congr h e.text, Expr.evalQuoting_congr h⟩,
    fun source left right h => Expr.evaluate_congr h,
    fun formula left right h => TensorFormula.shape_congr h, fun source e hparse => ?_,
    fun source formula hparse c => TensorFormula.mem_letters_of_parse hparse⟩
  obtain ⟨tokens, hscan, -⟩ := Expr.parse_eq_ok_iff.1 hparse
  exact ⟨tokens, hscan, fun c => Expr.mem_letters_iff_of_parse hparse hscan,
    fun before name after htokens => Expr.exists_builtin_of_parse hparse hscan htokens⟩

/-- A function's name shares a letter with a variable and has another one of its own. A sorted map and a
table that differ on the latter alone give the same value and the same shape. -/
theorem evaluation_reads_variables_beside_function :
    let e : Expr := .call .max [.var "a", .var "m"]
    let formula : TensorFormula := ⟨.ofList [.letter 'a', .group "(max(a,m))" e], "a(max(a,m))"⟩
    let table := (((∅ : @Std.HashMap Char Int _ instHashableChar).insert 'm' 7).insert 'x' 9).insert
      'a' 3
    let left : Binding := (LetterMap.ofList [('a', 3), ('m', 7)]).lookup
    let right : Binding := fun c => table[c]?
    Expr.parse "max(a,m)" = .ok e ∧ 'm' ∈ e.letters ∧ 'x' ∉ e.letters ∧ left 'x' ≠ right 'x' ∧
      Expr.evaluate "max(a,m)" left = .ok 7 ∧
      Expr.evaluate "max(a,m)" left = Expr.evaluate "max(a,m)" right ∧
      formula.shape left = .ok [3, 7] ∧ formula.shape left = formula.shape right := by
  intro e formula table left right
  have ha : (Expr.var "a").WellFormed := .var (by decide) (List.all_eq_true.1 rfl)
  have hm : (Expr.var "m").WellFormed := .var (by decide) (List.all_eq_true.1 rfl)
  have hwell : e.WellFormed :=
    .call rfl (List.forall_mem_cons.2 ⟨ha, List.forall_mem_singleton.2 hm⟩)
  have hparse : Expr.parse "max(a,m)" = .ok e := hwell.parse_text
  have hright (c : Char) : right c =
      if 'a' = c then some 3 else if 'x' = c then some 9 else if 'm' = c then some 7 else none := by
    simp only [right, table, Std.HashMap.getElem?_insert, beq_iff_eq, Std.HashMap.getElem?_empty]
  have hagree (c : Char) (hc : c ∈ ['a', 'm']) : left c = right c := by
    rw [hright]
    rcases List.mem_pair.1 hc with rfl | rfl
    · rfl
    · rfl
  obtain ⟨-, hevaluate, hshape, -⟩ := evaluation_reads_only_letters
  refine ⟨hparse, by decide, by decide, ?_, ?_, hevaluate _ left right fun e' he' c hc => ?_, rfl,
    hshape formula left right fun c hc => ?_⟩
  · rw [hright]
    decide
  · rw [Expr.evaluate, hparse]
    rfl
  · obtain rfl := Except.ok.inj (hparse.symm.trans he')
    exact hagree c (LetterSet.mem_ofList.1 hc)
  · have hmem : c ∈ ['a', 'a', 'm'] := LetterSet.mem_ofList.1 hc
    exact hagree c (List.mem_of_mem_cons_of_mem hmem List.mem_cons_self)

end ShapeAssert
