import ShapeAssert.Formula.Tensor
import ShapeAssert.Proofs.Expr.Neighbours
import ShapeAssert.Proofs.Sequence

/-! How the formula of one tensor is written. A group runs from an opening parenthesis to the closing
one that matches it, so the text between them is balanced; reading a formula accepts exactly the texts
that are letters and groups one after the other. -/

namespace ShapeAssert

/-- Texts in which every parenthesis has its match. -/
inductive Balanced : List Char → Prop where
  | nil : Balanced []
  | plain {c : Char} {rest : List Char} :
      c ≠ '(' → c ≠ ')' → Balanced rest → Balanced (c :: rest)
  | nest {inner rest : List Char} :
      Balanced inner → Balanced rest → Balanced ('(' :: (inner ++ ')' :: rest))

/-- The ways to write a dimension. A letter stands for itself; a group is an expression in
parentheses that match. -/
inductive Dimension.WrittenAs : Dimension → List Char → Prop where
  | letter {c : Char} : Text.isLetter c = true → WrittenAs (.letter c) [c]
  | group {inner : List Char} {e : Expr} :
      Balanced inner → Expr.parse (String.ofList ('(' :: (inner ++ [')']))) = .ok e →
      WrittenAs (.group (String.ofList ('(' :: (inner ++ [')']))) e) ('(' :: (inner ++ [')']))

/-- Texts that write dimensions one after the other. -/
inductive Dimension.Spell : List Dimension → List Char → Prop where
  | nil : Spell [] []
  | cons {dimension : Dimension} {dimensions : List Dimension} {word rest : List Char} :
      dimension.WrittenAs word → Spell dimensions rest →
      Spell (dimension :: dimensions) (word ++ rest)

theorem Balanced.append {text rest : List Char} (h : Balanced text) (hrest : Balanced rest) :
    Balanced (text ++ rest) := by
  induction h with
  | nil => exact hrest
  | plain hopen hclose _ ih => exact .plain hopen hclose ih
  | nest hinner _ _ ih =>
      rw [List.cons_append, List.append_assoc]
      exact .nest hinner ih

theorem Text.ne_parenthesis_of_isLetter {c : Char} (h : isLetter c = true) :
    c ≠ '(' ∧ c ≠ ')' := by
  constructor
  · rintro rfl
    exact absurd h (by decide)
  · rintro rfl
    exact absurd h (by decide)

theorem Dimension.WrittenAs.balanced {dimension : Dimension} {word : List Char}
    (h : dimension.WrittenAs word) : Balanced word := by
  cases h with
  | letter hletter =>
      obtain ⟨hopen, hclose⟩ := Text.ne_parenthesis_of_isLetter hletter
      exact .plain hopen hclose .nil
  | group hinner _ => exact .nest hinner .nil

theorem Dimension.Spell.balanced {dimensions : List Dimension} {text : List Char}
    (h : Spell dimensions text) : Balanced text := by
  induction h with
  | nil => exact .nil
  | cons hword _ ih => exact hword.balanced.append ih

/-- The tree of a group is that of its text. -/
theorem Dimension.Spell.parse_of_group {dimensions : List Dimension} {text : List Char}
    (h : Spell dimensions text) {source : String} {e : Expr}
    (hgroup : .group source e ∈ dimensions) : Expr.parse source = .ok e := by
  induction h with
  | nil => cases hgroup
  | cons hword _ ih =>
      rcases List.mem_cons.1 hgroup with rfl | hgroup
      · cases hword with
        | group _ he => exact he
      · exact ih hgroup

namespace TensorFormula

theorem readGroup_eq_ok {source : List Char} {dimension : Dimension} :
    readGroup source = .ok dimension ↔
      ∃ e, Expr.parse (String.ofList source) = .ok e ∧
        dimension = .group (String.ofList source) e := by
  rw [readGroup, mapError_eq_ok, map_eq_ok]
  exact exists_congr fun e => and_congr_right fun _ => eq_comm

/-! ### What is written is read -/

section

variable {axes : Axes}

theorem scan_plain {depth : Nat} {group rest : List Char} {c : Char} (hopen : c ≠ '(')
    (hclose : c ≠ ')') (hdepth : 0 < depth) :
    scan axes depth group (c :: rest) = scan axes depth (c :: group) rest := by
  rw [scan, if_pos hdepth]
  · exact hopen
  · exact hclose

theorem scan_letter {rest : List Char} {c : Char} (h : Text.isLetter c = true) :
    scan axes 0 [] (c :: rest) = scan (axes.push (.letter c)) 0 [] rest := by
  obtain ⟨hopen, hclose⟩ := Text.ne_parenthesis_of_isLetter h
  rw [scan, if_neg (lt_irrefl 0), if_pos h]
  · exact hopen
  · exact hclose

/-- A group does not end right after an opening parenthesis. -/
theorem head?_ne_of_not_infix {group : List Char} (rest : List Char)
    (h : ¬['(', ')'] <:+: group.reverse ++ ')' :: rest) : group.head? ≠ some '(' := by
  rintro hhead
  obtain ⟨tail, rfl⟩ := List.head?_eq_some_iff.1 hhead
  exact h ⟨tail.reverse, rest, by simp⟩

/-- Inside a group a balanced text is read to its end, unless a closing parenthesis comes right after
an opening one. -/
theorem scan_balanced {inner : List Char} (h : Balanced inner) {depth : Nat}
    {group rest : List Char} (hdepth : 0 < depth)
    (hfull : ¬['(', ')'] <:+: group.reverse ++ inner) :
    scan axes depth group (inner ++ rest) = scan axes depth (inner.reverse ++ group) rest := by
  induction h generalizing depth group rest with
  | nil => rfl
  | @plain c text hopen hclose _ ih =>
      rw [List.cons_append, scan_plain hopen hclose hdepth, ih hdepth (by simpa using hfull)]
      simp
  | @nest text text' _ _ ih ih' =>
      have hinner : ¬['(', ')'] <:+: ('(' :: group).reverse ++ text := fun hpair =>
        hfull (hpair.trans ⟨[], ')' :: text', by simp⟩)
      have hhead : (text.reverse ++ '(' :: group).head? ≠ some '(' :=
        head?_ne_of_not_infix text' (by simpa using hfull)
      calc scan axes depth group ('(' :: (text ++ ')' :: text') ++ rest)
          = scan axes (depth + 1) ('(' :: group) (text ++ ')' :: (text' ++ rest)) := by
            rw [List.cons_append, List.append_assoc, List.cons_append, scan]
        _ = scan axes (depth + 1) (text.reverse ++ '(' :: group) (')' :: (text' ++ rest)) :=
            ih (Nat.succ_pos depth) hinner
        _ = scan axes depth (')' :: (text.reverse ++ '(' :: group)) (text' ++ rest) := by
            rw [scan, if_neg (Nat.succ_ne_zero depth), if_neg hhead, if_neg (by omega)]
            rfl
        _ = scan axes depth (text'.reverse ++ ')' :: (text.reverse ++ '(' :: group)) rest :=
            ih' hdepth (by simpa using hfull)
        _ = scan axes depth (('(' :: (text ++ ')' :: text')).reverse ++ group) rest := by simp

theorem scan_group {inner rest : List Char} {dimension : Dimension} (h : Balanced inner)
    (hgroup : readGroup ('(' :: (inner ++ [')'])) = .ok dimension) :
    scan axes 0 [] ('(' :: (inner ++ [')']) ++ rest) = scan (axes.push dimension) 0 [] rest := by
  obtain ⟨e, he, -⟩ := readGroup_eq_ok.1 hgroup
  have hfull : ¬['(', ')'] <:+: '(' :: (inner ++ [')']) := by
    simpa using Expr.not_infix_of_parse he
  have hinner : ¬['(', ')'] <:+: ['('].reverse ++ inner := fun hpair =>
    hfull (hpair.trans ⟨[], [')'], by simp⟩)
  have hhead : (inner.reverse ++ ['(']).head? ≠ some '(' :=
    head?_ne_of_not_infix [] (by simpa using hfull)
  calc scan axes 0 [] ('(' :: (inner ++ [')']) ++ rest)
      = scan axes 1 ['('] (inner ++ ')' :: rest) := by
        rw [List.cons_append, List.append_assoc, scan]
        rfl
    _ = scan axes 1 (inner.reverse ++ ['(']) (')' :: rest) := scan_balanced h Nat.one_pos hinner
    _ = scan (axes.push dimension) 0 [] rest := by
        rw [scan, if_neg Nat.one_ne_zero, if_neg hhead, if_pos rfl]
        simp [hgroup]

/-- Dimensions are read off the front of a text, and what follows them is read behind their axes. -/
theorem scan_append_of_spell {dimensions : List Dimension} {text rest : List Char}
    (h : Dimension.Spell dimensions text) :
    scan axes 0 [] (text ++ rest) = scan (dimensions.foldl .push axes) 0 [] rest := by
  induction h generalizing axes with
  | nil => rfl
  | @cons dimension dimensions word others hword _ ih =>
      rw [List.append_assoc, List.foldl_cons, ← ih]
      cases hword with
      | letter hletter => exact scan_letter hletter
      | group hinner he => exact scan_group hinner (readGroup_eq_ok.2 ⟨_, he, rfl⟩)

theorem scan_of_spell {dimensions : List Dimension} {text : List Char}
    (h : Dimension.Spell dimensions text) :
    scan axes 0 [] text = .ok (dimensions.foldl .push axes) := by
  have hwhole : scan axes 0 [] (text ++ []) = scan (dimensions.foldl .push axes) 0 [] [] :=
    scan_append_of_spell h
  rwa [List.append_nil, scan.eq_1 (dimensions.foldl .push axes), if_pos rfl] at hwhole

end

/-! ### What is read is written -/

/-- Texts that end with the last of so many closing parentheses that have no match in them. -/
inductive Closes : Nat → List Char → Prop where
  | zero : Closes 0 []
  | succ {depth : Nat} {inner rest : List Char} :
      Balanced inner → Closes depth rest → Closes (depth + 1) (inner ++ ')' :: rest)

namespace Closes

variable {depth : Nat} {text : List Char}

theorem plain {c : Char} (h : Closes (depth + 1) text) (hopen : c ≠ '(') (hclose : c ≠ ')') :
    Closes (depth + 1) (c :: text) := by
  cases h with
  | succ hinner hrest => exact .succ (.plain hopen hclose hinner) hrest

theorem nest (h : Closes (depth + 2) text) : Closes (depth + 1) ('(' :: text) := by
  cases h with
  | succ hinner hrest =>
      cases hrest with
      | succ hnext hrest =>
          have := Closes.succ (.nest hinner hnext) hrest
          rwa [List.cons_append, List.append_assoc] at this

theorem last (h : Closes 1 text) : ∃ inner, Balanced inner ∧ text = inner ++ [')'] := by
  cases h with
  | succ hinner hrest =>
      cases hrest
      exact ⟨_, hinner, rfl⟩

end Closes

/-- The text that remains to be read inside a group closes it and then writes the dimensions that
follow. -/
def Remains (depth : Nat) (group text : List Char) (dimensions : List Dimension) : Prop :=
  ∃ closing rest dimension others, text = closing ++ rest ∧ Closes depth closing ∧
    readGroup (group.reverse ++ closing) = .ok dimension ∧ Dimension.Spell others rest ∧
    dimensions = dimension :: others

namespace Remains

variable {depth : Nat} {group text : List Char} {dimensions : List Dimension}

theorem plain {c : Char} (h : Remains (depth + 1) (c :: group) text dimensions) (hopen : c ≠ '(')
    (hclose : c ≠ ')') : Remains (depth + 1) group (c :: text) dimensions := by
  obtain ⟨closing, rest, dimension, others, rfl, hcloses, hgroup, hspell⟩ := h
  exact ⟨c :: closing, rest, dimension, others, rfl, hcloses.plain hopen hclose,
    by simpa using hgroup, hspell⟩

theorem nest (h : Remains (depth + 2) ('(' :: group) text dimensions) :
    Remains (depth + 1) group ('(' :: text) dimensions := by
  obtain ⟨closing, rest, dimension, others, rfl, hcloses, hgroup, hspell⟩ := h
  exact ⟨'(' :: closing, rest, dimension, others, rfl, hcloses.nest, by simpa using hgroup, hspell⟩

theorem close (h : Remains depth (')' :: group) text dimensions) :
    Remains (depth + 1) group (')' :: text) dimensions := by
  obtain ⟨closing, rest, dimension, others, rfl, hcloses, hgroup, hspell⟩ := h
  exact ⟨')' :: closing, rest, dimension, others, rfl, .succ .nil hcloses,
    by simpa using hgroup, hspell⟩

theorem spell (h : Remains 1 ['('] text dimensions) : Dimension.Spell dimensions ('(' :: text) := by
  obtain ⟨closing, rest, dimension, others, rfl, hcloses, hgroup, hspell, rfl⟩ := h
  obtain ⟨inner, hinner, rfl⟩ := hcloses.last
  obtain ⟨e, he, rfl⟩ := readGroup_eq_ok.1 hgroup
  exact .cons (.group hinner he) hspell

end Remains

theorem remains_of_scan {axes whole : Axes} {depth : Nat} {group text : List Char}
    (h : scan axes depth group text = .ok whole) (hgroup : depth = 0 → group = []) :
    ∃ dimensions, whole.dimensions = axes.dimensions ++ dimensions ∧
      if depth = 0 then Dimension.Spell dimensions text
      else Remains depth group text dimensions := by
  fun_induction scan axes depth group text with
  | case1 =>
      obtain rfl := Except.ok.inj h
      exact ⟨[], (List.append_nil _).symm, .nil⟩
  | case2 => cases h
  | case3 axes depth group rest ih =>
      obtain ⟨dimensions, hwhole, hrest⟩ :=
        ih h fun hdepth => absurd hdepth (Nat.succ_ne_zero depth)
      refine ⟨dimensions, hwhole, ?_⟩
      cases depth with
      | zero =>
          obtain rfl := hgroup rfl
          exact hrest.spell
      | succ depth => exact hrest.nest
  | case4 => cases h
  | case5 => cases h
  | case6 => cases h
  | case7 axes group rest _ dimension hdimension _ ih =>
      obtain ⟨others, hwhole, hothers⟩ := ih h fun _ => rfl
      rw [Axes.push, List.append_assoc] at hwhole
      exact ⟨_, hwhole, [')'], rest, dimension, others, rfl, .succ .nil .zero,
        by simpa using hdimension, hothers, rfl⟩
  | case8 axes depth group rest hzero _ hone ih =>
      obtain ⟨outer, rfl⟩ : ∃ outer, depth = outer + 2 := ⟨depth - 2, by omega⟩
      obtain ⟨dimensions, hwhole, hrest⟩ :=
        ih h fun hdepth => absurd hdepth (Nat.succ_ne_zero outer)
      exact ⟨dimensions, hwhole, hrest.close⟩
  | case9 axes depth group c rest hopen hclose hdepth ih =>
      obtain ⟨outer, rfl⟩ := Nat.exists_eq_succ_of_ne_zero hdepth.ne'
      obtain ⟨dimensions, hwhole, hrest⟩ := ih h fun hzero => absurd hzero hdepth.ne'
      exact ⟨dimensions, hwhole, hrest.plain hopen hclose⟩
  | case10 axes depth group c rest hopen hclose hdepth hletter ih =>
      obtain ⟨others, hwhole, hothers⟩ := ih h fun _ => rfl
      rw [Axes.push, List.append_assoc] at hwhole
      refine ⟨_, hwhole, ?_⟩
      rw [if_pos (Nat.eq_zero_of_not_pos hdepth)]
      exact .cons (.letter hletter) hothers
  | case11 => cases h

/-- Reading a formula accepts exactly the texts that write dimensions, and gives those
dimensions. -/
theorem scan_eq_ok_iff {text : List Char} {axes : Axes} :
    scan ∅ 0 [] text = .ok axes ↔ Dimension.Spell axes.dimensions text := by
  constructor
  · intro h
    obtain ⟨dimensions, haxes, hspell⟩ := remains_of_scan h fun _ => rfl
    exact haxes ▸ hspell
  · intro h
    rw [scan_of_spell h, axes.foldl_push_empty]

theorem parse_eq_ok_iff {source : String} {formula : TensorFormula} :
    parse source = .ok formula ↔
      formula.source = source ∧ Dimension.Spell formula.dimensions source.toList := by
  rw [← scan_eq_ok_iff, parse]
  cases scan ∅ 0 [] source.toList with
  | error fault => simp
  | ok axes =>
      constructor
      · intro h
        obtain rfl := Except.ok.inj h
        exact ⟨rfl, rfl⟩
      · rintro ⟨rfl, h⟩
        rw [Except.ok.inj h]

/-! ### What is not read -/

/-- A fault of a group is the failure of reading its expression. -/
theorem scan_eq_error_group {axes : Axes} {depth : Nat} {group text : List Char} {e : Error}
    (h : scan axes depth group text = .error (.group e)) :
    ∃ source, Expr.parse source = .error e := by
  fun_induction scan axes depth group text with
  | case1 => cases h
  | case2 => cases h
  | case3 axes depth group rest ih => exact ih h
  | case4 => cases h
  | case5 => cases h
  | case6 axes group rest _ fault hgroup _ =>
      obtain rfl := Except.error.inj h
      obtain ⟨e', he', hfault⟩ := mapError_eq_error.1 hgroup
      obtain rfl := FormulaFault.group.inj hfault
      exact ⟨_, map_eq_error.1 he'⟩
  | case7 axes group rest _ dimension _ _ ih => exact ih h
  | case8 axes depth group rest _ _ _ ih => exact ih h
  | case9 axes depth group c rest _ _ _ ih => exact ih h
  | case10 axes depth group c rest _ _ _ _ ih => exact ih h
  | case11 => cases h

/-- What is wrong with a text does not depend on the axes before it. -/
theorem scan_fault {axes : Axes} {depth : Nat} {group text : List Char} {fault : FormulaFault}
    (h : scan axes depth group text = .error fault) (other : Axes) :
    scan other depth group text = .error fault := by
  fun_induction scan axes depth group text generalizing other with
  | case1 => cases h
  | case2 axes depth group hdepth => rw [scan, if_neg hdepth, h]
  | case3 axes depth group rest ih => exact ih h other
  | case4 axes group rest => exact h
  | case5 axes depth group rest hdepth hhead => rw [scan, if_neg hdepth, if_pos hhead, h]
  | case6 axes group rest hhead fault hgroup hdepth =>
      rw [scan, if_neg hdepth, if_neg hhead, if_pos rfl, hgroup]
      exact h
  | case7 axes group rest hhead dimension hgroup hdepth ih =>
      rw [scan, if_neg hdepth, if_neg hhead, if_pos rfl, hgroup]
      exact ih h _
  | case8 axes depth group rest hdepth hhead hone ih =>
      rw [scan, if_neg hdepth, if_neg hhead, if_neg hone]
      exact ih h other
  | case9 axes depth group c rest hopen hclose hdepth ih =>
      rw [scan_plain hopen hclose hdepth]
      exact ih h other
  | case10 axes depth group c rest hopen hclose hdepth hletter ih =>
      rw [scan, if_neg hdepth, if_pos hletter]
      · exact ih h _
      · exact hopen
      · exact hclose
  | case11 axes depth group c rest hopen hclose hdepth hletter =>
      rw [scan, if_neg hdepth, if_neg hletter, h]
      · exact hopen
      · exact hclose

theorem parse_eq_error {source : String} {e : Error} (h : parse source = .error e) :
    ∃ fault, scan ∅ 0 [] source.toList = .error fault ∧ fault.toError source = e := by
  rw [parse] at h
  split at h
  · cases h
  · next fault hscan => exact ⟨fault, hscan, Except.error.inj h⟩

end TensorFormula

end ShapeAssert
