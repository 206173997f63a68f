import Mathlib.Algebra.Order.Group.Unbundled.Int
import ShapeAssert.Proofs.Expr.Arity
import ShapeAssert.Proofs.Expr.Nodes

/-! Evaluation is exact arithmetic for as long as every intermediate value is in range. The exact
value of an expression is given by rules on whole numbers of any size; evaluation finds it if it and
the values of all operands are in range, and otherwise stops at the first node that has no value in
range. -/

namespace ShapeAssert

/-- The exact value of an expression under a binding. A variable is a single letter with a value. -/
inductive Denotes (binding : Binding) : Expr → Int → Prop where
  | int (n : Nat) : Denotes binding (.int n) n
  | var {name : String} {c : Char} {n : Int} :
      name.toList = [c] → binding c = some n → Denotes binding (.var name) n
  | pos {e : Expr} {n : Int} : Denotes binding e n → Denotes binding (.unary .pos e) n
  | neg {e : Expr} {n : Int} : Denotes binding e n → Denotes binding (.unary .neg e) (-n)
  | add {l r : Expr} {m n : Int} :
      Denotes binding l m → Denotes binding r n → Denotes binding (.binary .add l r) (m + n)
  | sub {l r : Expr} {m n : Int} :
      Denotes binding l m → Denotes binding r n → Denotes binding (.binary .sub l r) (m - n)
  | mul {l r : Expr} {m n : Int} :
      Denotes binding l m → Denotes binding r n → Denotes binding (.binary .mul l r) (m * n)
  | min {args : List Expr} {value : Expr → Int} {least : Expr} :
      (∀ e ∈ args, Denotes binding e (value e)) → least ∈ args →
        (∀ e ∈ args, value least ≤ value e) → Denotes binding (.call .min args) (value least)
  | max {args : List Expr} {value : Expr → Int} {greatest : Expr} :
      (∀ e ∈ args, Denotes binding e (value e)) → greatest ∈ args →
        (∀ e ∈ args, value e ≤ value greatest) → Denotes binding (.call .max args) (value greatest)
  | abs {e : Expr} {n : Int} : Denotes binding e n → Denotes binding (.call .abs [e]) |n|

/-- An expression has at most one exact value. -/
theorem Denotes.unique {binding : Binding} {e : Expr} {m n : Int} (hm : Denotes binding e m)
    (hn : Denotes binding e n) : m = n := by
  induction hm generalizing n with
  | int k =>
      cases hn
      rfl
  | @var name c m hname hvalue =>
      cases hn with
      | @var _ c' _ hname' hvalue' =>
          obtain rfl : c = c' := (List.cons.inj (hname.symm.trans hname')).1
          exact Option.some.inj (hvalue.symm.trans hvalue')
  | pos _ ih =>
      cases hn with
      | pos hn => exact ih hn
  | neg _ ih =>
      cases hn with
      | neg hn => rw [ih hn]
  | add _ _ ihl ihr =>
      cases hn with
      | add hl hr => rw [ihl hl, ihr hr]
  | sub _ _ ihl ihr =>
      cases hn with
      | sub hl hr => rw [ihl hl, ihr hr]
  | mul _ _ ihl ihr =>
      cases hn with
      | mul hl hr => rw [ihl hl, ihr hr]
  | @min args value least _ hleast hbound ih =>
      cases hn with
      | @min _ value' least' hvalues hleast' hbound' =>
          have hsame (e : Expr) (he : e ∈ args) : value e = value' e := ih e he (hvalues e he)
          refine le_antisymm ?_ ?_
          · rw [← hsame least' hleast']
            exact hbound least' hleast'
          · rw [hsame least hleast]
            exact hbound' least hleast
  | @max args value greatest _ hgreatest hbound ih =>
      cases hn with
      | @max _ value' greatest' hvalues hgreatest' hbound' =>
          have hsame (e : Expr) (he : e ∈ args) : value e = value' e := ih e he (hvalues e he)
          refine le_antisymm ?_ ?_
          · rw [hsame greatest hgreatest]
            exact hbound' greatest hgreatest
          · rw [← hsame greatest' hgreatest']
            exact hbound greatest' hgreatest'
  | abs _ ih =>
      cases hn with
      | abs hn => rw [ih hn]

namespace Expr

/-- An expression has an exact value, and the value is in range. -/
def HasValue (binding : Binding) (e : Expr) : Prop :=
  ∃ n, Denotes binding e n ∧ InRange n

/-- The operations whose result may be out of range although their operands are in range. -/
inductive Operates : Expr → Prop where
  | neg (e : Expr) : Operates (.unary .neg e)
  | binary (op : BinaryOp) (l r : Expr) : Operates (.binary op l r)
  | abs (args : List Expr) : Operates (.call .abs args)

/-- What is wrong with a node none of whose operands is at fault. -/
inductive Faulty (binding : Binding) : Expr → EvalFault → Prop where
  | undefined (name : String) : Faulty binding (.var name) (.undefined name)
  | overflow {e : Expr} {n : Int} :
      e.Operates → Denotes binding e n → ¬InRange n → Faulty binding e .overflow

theorem Faulty.unique {binding : Binding} {e : Expr} {fault fault' : EvalFault}
    (h : Faulty binding e fault) (h' : Faulty binding e fault') : fault = fault' := by
  cases h with
  | undefined name =>
      cases h' with
      | undefined => rfl
      | overflow hoperates _ _ => cases hoperates
  | overflow hoperates _ _ =>
      cases h' with
      | undefined => cases hoperates
      | overflow => rfl

theorem not_hasValue {binding : Binding} {e : Expr} {n : Int} (hn : Denotes binding e n)
    (hrange : ¬InRange n) : ¬HasValue binding e := by
  rintro ⟨m, hm, hm_range⟩
  rw [hm.unique hn] at hm_range
  exact hrange hm_range

theorem HasValue.inRange {binding : Binding} {e : Expr} {n : Int} (h : HasValue binding e)
    (hn : Denotes binding e n) : InRange n := by
  by_contra hrange
  exact not_hasValue hn hrange h

theorem checked_eq_ok {m n : Int} : checked m = .ok n ↔ InRange m ∧ n = m := by
  rw [checked]
  split <;> simp_all [eq_comm]

theorem denotes_binary {binding : Binding} (op : BinaryOp) {l r : Expr} {x y : Int}
    (hx : Denotes binding l x) (hy : Denotes binding r y) :
    Denotes binding (.binary op l r) (op.apply x y) := by
  cases op with
  | add => exact .add hx hy
  | sub => exact .sub hx hy
  | mul => exact .mul hx hy

/-- Values of arguments found one after the other, as a value for every argument. -/
theorem values_of_mapM {f : Expr → Except EvalFault Int} {args : List Expr} {xs : List Int}
    (h : args.mapM f = .ok xs) :
    ∃ value : Expr → Int, xs = args.map value ∧ ∀ e ∈ args, f e = .ok (value e) := by
  refine ⟨fun e => (f e).toOption.getD 0, ?_⟩
  have hpairs := mapM_eq_ok.1 h
  clear h
  induction hpairs with
  | nil => simp
  | cons hx _ ih =>
      obtain ⟨hmap, hall⟩ := ih
      constructor
      · rw [List.map_cons, ← hmap, hx]
        rfl
      · exact List.forall_mem_cons.2 ⟨by simp [hx, Except.toOption], hall⟩

variable {binding : Binding} {f : Builtin} {args : List Expr} {value : Expr → Int} {n : Int}

/-- A function applied to exact values in range has the exact value of its call. -/
theorem denotes_call (hvalues : ∀ e ∈ args, Denotes binding e (value e) ∧ InRange (value e))
    (h : f.apply (args.map value) = .ok n) : HasValue binding (.call f args) ∧
      Denotes binding (.call f args) n := by
  have hdenotes (e : Expr) (he : e ∈ args) : Denotes binding e (value e) := (hvalues e he).1
  suffices hcall : Denotes binding (.call f args) n ∧ InRange n from ⟨⟨n, hcall⟩, hcall.1⟩
  cases f with
  | min =>
      cases hmin : (args.map value).min? with
      | none => simp [Builtin.apply, hmin] at h
      | some x =>
          obtain rfl : x = n := by simpa [Builtin.apply, hmin] using h
          obtain ⟨hmem, hbound⟩ := List.min?_eq_some_iff.1 hmin
          obtain ⟨least, hleast, rfl⟩ := List.mem_map.1 hmem
          exact ⟨.min hdenotes hleast fun e he => hbound _ (List.mem_map_of_mem he),
            (hvalues least hleast).2⟩
  | max =>
      cases hmax : (args.map value).max? with
      | none => simp [Builtin.apply, hmax] at h
      | some x =>
          obtain rfl : x = n := by simpa [Builtin.apply, hmax] using h
          obtain ⟨hmem, hbound⟩ := List.max?_eq_some_iff.1 hmax
          obtain ⟨greatest, hgreatest, rfl⟩ := List.mem_map.1 hmem
          exact ⟨.max hdenotes hgreatest fun e he => hbound _ (List.mem_map_of_mem he),
            (hvalues greatest hgreatest).2⟩
  | abs =>
      cases args with
      | nil => cases h
      | cons e rest =>
          cases rest with
          | nil =>
              obtain ⟨hrange, rfl⟩ := checked_eq_ok.1 h
              rw [← Int.abs_eq_natAbs] at hrange ⊢
              exact ⟨.abs (hdenotes e List.mem_cons_self), hrange⟩
          | cons _ _ => cases h

/-- A function that accepts its arguments fails only because its result is out of range. -/
theorem faulty_call (haccepts : f.accepts args.length = true)
    (hdenotes : ∀ e ∈ args, Denotes binding e (value e)) {fault : EvalFault}
    (h : f.apply (args.map value) = .error fault) : Faulty binding (.call f args) fault := by
  obtain rfl := apply_eq_error (by simpa using haccepts) h
  cases f with
  | min =>
      cases args with
      | nil => simp [Builtin.accepts] at haccepts
      | cons e rest => simp [Builtin.apply, List.min?_cons] at h
  | max =>
      cases args with
      | nil => simp [Builtin.accepts] at haccepts
      | cons e rest => simp [Builtin.apply, List.max?_cons] at h
  | abs =>
      obtain ⟨e, rfl⟩ : ∃ e, args = [e] :=
        List.length_eq_one_iff.1 (by simpa [Builtin.accepts] using haccepts)
      obtain ⟨hrange, -⟩ := checked_eq_error.1 h
      rw [← Int.abs_eq_natAbs] at hrange
      exact .overflow (.abs _) (.abs (hdenotes e List.mem_cons_self)) hrange

/-! ### Runs of the evaluator -/

section

variable (hbinding : ∀ c n, binding c = some n → InRange n)
include hbinding

/-- A value that is found is exact, and so were all values on the way to it. -/
theorem WellFormed.of_eval_ok {e : Expr} (he : e.WellFormed) (h : e.eval binding = .ok n) :
    Denotes binding e n ∧ ∀ d ∈ e.nodes, HasValue binding d := by
  induction he generalizing n with
  | @int k hk =>
      obtain rfl : (k : Int) = n := by simpa [eval] using h
      have hrange : InRange k := ⟨by simp only [minValue]; omega, hk⟩
      exact ⟨.int k, List.forall_mem_singleton.2 ⟨k, .int k, hrange⟩⟩
  | @var name _ _ =>
      obtain ⟨c, hname, hc⟩ := lookup_eq_ok.1 (by rwa [eval] at h)
      exact ⟨.var hname hc, List.forall_mem_singleton.2 ⟨n, .var hname hc, hbinding c n hc⟩⟩
  | @unary op e _ ih =>
      rw [nodes, List.forall_mem_append, List.forall_mem_singleton]
      cases op with
      | pos =>
          obtain ⟨hn, hnodes⟩ := ih (by rwa [eval] at h)
          have hrange : InRange n := (hnodes e e.self_mem_nodes).inRange hn
          exact ⟨.pos hn, hnodes, n, .pos hn, hrange⟩
      | neg =>
          rw [eval, bind_eq_ok] at h
          obtain ⟨x, hx, hchecked⟩ := h
          obtain ⟨hrange, rfl⟩ := checked_eq_ok.1 hchecked
          obtain ⟨hx, hnodes⟩ := ih hx
          exact ⟨.neg hx, hnodes, _, .neg hx, hrange⟩
  | binary _ _ ihl ihr =>
      rw [eval, bind_eq_ok] at h
      obtain ⟨x, hx, h⟩ := h
      obtain ⟨y, hy, hchecked⟩ := bind_eq_ok.1 h
      obtain ⟨hrange, rfl⟩ := checked_eq_ok.1 hchecked
      obtain ⟨hx, hleft⟩ := ihl hx
      obtain ⟨hy, hright⟩ := ihr hy
      rw [nodes, List.forall_mem_append, List.forall_mem_append, List.forall_mem_singleton]
      exact ⟨denotes_binary _ hx hy, hleft, hright, _, denotes_binary _ hx hy, hrange⟩
  | @call f args _ _ ih =>
      rw [eval, evalArgs_eq_mapM, bind_eq_ok] at h
      obtain ⟨xs, hxs, happly⟩ := h
      obtain ⟨value, rfl, hvalue⟩ := values_of_mapM hxs
      have hargs (e : Expr) (he : e ∈ args) : Denotes binding e (value e) ∧ InRange (value e) := by
        obtain ⟨hdenotes, hnodes⟩ := ih e he (hvalue e he)
        exact ⟨hdenotes, (hnodes e e.self_mem_nodes).inRange hdenotes⟩
      obtain ⟨hcall, hn⟩ := denotes_call hargs happly
      rw [nodes, nodesArgs_eq_flatMap, List.forall_mem_append, List.forall_mem_singleton]
      refine ⟨hn, fun d hd => ?_, hcall⟩
      obtain ⟨e, he, hd⟩ := List.mem_flatMap.1 hd
      exact (ih e he (hvalue e he)).2 d hd

/-- An evaluation that fails does so at the first node without a value in range. -/
theorem WellFormed.of_eval_error {e : Expr} (he : e.WellFormed) {fault : EvalFault}
    (h : e.eval binding = .error fault) :
    ∃ d, FirstFailing (HasValue binding) e.nodes d ∧ Faulty binding d fault := by
  induction he generalizing fault with
  | int _ => cases h
  | @var name _ _ =>
      rw [eval] at h
      obtain rfl := lookup_eq_error h
      refine ⟨.var name, .head ?_, .undefined name⟩
      rintro ⟨n, ⟨⟩ | ⟨hname, hc⟩, -⟩
      rw [lookup_eq_ok.2 ⟨_, hname, hc⟩] at h
      cases h
  | @unary op e he ih =>
      cases op with
      | pos =>
          obtain ⟨d, hfirst, hfaulty⟩ := ih (by rwa [eval] at h)
          exact ⟨d, hfirst.append_right _, hfaulty⟩
      | neg =>
          rw [eval, bind_eq_error] at h
          rcases h with h | ⟨x, hx, hchecked⟩
          · obtain ⟨d, hfirst, hfaulty⟩ := ih h
            exact ⟨d, hfirst.append_right _, hfaulty⟩
          · obtain ⟨hrange, rfl⟩ := checked_eq_error.1 hchecked
            obtain ⟨hx, hnodes⟩ := he.of_eval_ok hbinding hx
            exact ⟨_, (FirstFailing.head (not_hasValue (.neg hx) hrange)).append_left hnodes,
              .overflow (.neg e) (.neg hx) hrange⟩
  | @binary op l r hl hr ihl ihr =>
      rw [eval, bind_eq_error] at h
      rcases h with h | ⟨x, hx, h⟩
      · obtain ⟨d, hfirst, hfaulty⟩ := ihl h
        exact ⟨d, hfirst.append_right _, hfaulty⟩
      obtain ⟨hx, hleft⟩ := hl.of_eval_ok hbinding hx
      rcases bind_eq_error.1 h with h | ⟨y, hy, hchecked⟩
      · obtain ⟨d, hfirst, hfaulty⟩ := ihr h
        exact ⟨d, (hfirst.append_right _).append_left hleft, hfaulty⟩
      · obtain ⟨hrange, rfl⟩ := checked_eq_error.1 hchecked
        obtain ⟨hy, hright⟩ := hr.of_eval_ok hbinding hy
        have hvalue := denotes_binary op hx hy
        exact ⟨_, ((FirstFailing.head (not_hasValue hvalue hrange)).append_left hright).append_left
          hleft, .overflow (.binary op l r) hvalue hrange⟩
  | @call f args haccepts hargs ih =>
      have hvalued (e : Expr) (he : e ∈ args) (hok : ∃ n, e.eval binding = .ok n) :
          ∀ d ∈ e.nodes, HasValue binding d := by
        obtain ⟨n, hn⟩ := hok
        exact ((hargs e he).of_eval_ok hbinding hn).2
      rw [eval, evalArgs_eq_mapM, bind_eq_error] at h
      rw [nodes, nodesArgs_eq_flatMap]
      rcases h with h | ⟨xs, hxs, happly⟩
      · obtain ⟨e, ⟨before, after, rfl, hbefore, -⟩, hfault⟩ := mapM_eq_error_iff.1 h
        obtain ⟨d, hfirst, hfaulty⟩ := ih e (by simp) hfault
        rw [List.flatMap_append, List.flatMap_cons, List.append_assoc, List.append_assoc]
        refine ⟨d, (hfirst.append_right _).append_left fun d' hd' => ?_, hfaulty⟩
        obtain ⟨b, hb, hd'⟩ := List.mem_flatMap.1 hd'
        exact hvalued b (List.mem_append_left _ hb) (hbefore b hb) d' hd'
      · obtain ⟨value, rfl, hvalue⟩ := values_of_mapM hxs
        have hdenotes (e : Expr) (he : e ∈ args) : Denotes binding e (value e) :=
          ((hargs e he).of_eval_ok hbinding (hvalue e he)).1
        have hfaulty := faulty_call haccepts hdenotes happly
        refine ⟨.call f args, .append_left (.head ?_) fun d hd => ?_, hfaulty⟩
        · cases hfaulty with
          | overflow _ hn hrange => exact not_hasValue hn hrange
        · obtain ⟨e, he, hd⟩ := List.mem_flatMap.1 hd
          exact hvalued e he ⟨_, hvalue e he⟩ d hd

theorem WellFormed.eval_eq_ok_iff {e : Expr} (he : e.WellFormed) :
    e.eval binding = .ok n ↔ (∀ d ∈ e.nodes, HasValue binding d) ∧ Denotes binding e n := by
  constructor
  · intro h
    obtain ⟨hn, hnodes⟩ := he.of_eval_ok hbinding h
    exact ⟨hnodes, hn⟩
  · rintro ⟨hnodes, hn⟩
    cases h : e.eval binding with
    | ok m => rw [(he.of_eval_ok hbinding h).1.unique hn]
    | error fault =>
        obtain ⟨d, hfirst, -⟩ := he.of_eval_error hbinding h
        exact absurd (hnodes d hfirst.mem) hfirst.fails

theorem WellFormed.eval_eq_error_iff {e : Expr} (he : e.WellFormed) {fault : EvalFault} :
    e.eval binding = .error fault ↔
      ∃ d, FirstFailing (HasValue binding) e.nodes d ∧ Faulty binding d fault := by
  constructor
  · exact he.of_eval_error hbinding
  · rintro ⟨d, hfirst, hfaulty⟩
    cases h : e.eval binding with
    | ok m => exact absurd ((he.of_eval_ok hbinding h).2 d hfirst.mem) hfirst.fails
    | error fault' =>
        obtain ⟨d', hfirst', hfaulty'⟩ := he.of_eval_error hbinding h
        rw [hfirst.unique hfirst'] at hfaulty
        rw [hfaulty'.unique hfaulty]

end

/-- Every variable name in the expression is a single letter that has a value. -/
def Bound (binding : Binding) (e : Expr) : Prop :=
  ∀ name, .var name ∈ e.nodes → ∃ c value, name.toList = [c] ∧ binding c = some value

theorem bound_of_hasValue {e : Expr} (h : ∀ d ∈ e.nodes, HasValue binding d) :
    e.Bound binding := by
  intro name hname
  obtain ⟨value, ⟨⟩ | ⟨hc, hvalue⟩, -⟩ := h _ hname
  exact ⟨_, value, hc, hvalue⟩

/-- An expression that was read has its exact value under a binding, if all its variables are single
letters with a value and every intermediate value is in range. Otherwise the first node at fault, in
the order of evaluation, decides the error: a variable is undefined, an operation overflows. So an
intermediate overflow is an error whatever the exact value of the whole, and a call is never at
fault for the number of its arguments. -/
theorem evalQuoting_exact_or_first_fault {source : String} {e : Expr}
    (hparse : parse source = .ok e) {binding : Binding}
    (hbinding : ∀ c n, binding c = some n → InRange n) (quoted : String) :
    (∀ n, e.evalQuoting quoted binding = .ok n ↔
      e.Bound binding ∧ (∀ d ∈ e.nodes, ∃ m, Denotes binding d m ∧ InRange m) ∧
        Denotes binding e n) ∧
    (∀ error, e.evalQuoting quoted binding = .error error ↔
      ∃ d, FirstFailing (HasValue binding) e.nodes d ∧
        ((∃ name, d = .var name ∧ error = .undefinedVariable quoted name) ∨
          d.Operates ∧ (∃ m, Denotes binding d m ∧ ¬InRange m) ∧
            error = .arithmeticOverflow quoted)) ∧
    (∀ text fault, e.evalQuoting quoted binding ≠ .error (.invalidExpression text fault)) ∧
    (e.Bound binding → (∃ d ∈ e.nodes, ∃ m, Denotes binding d m ∧ ¬InRange m) →
      e.evalQuoting quoted binding = .error (.arithmeticOverflow quoted)) := by
  have he : e.WellFormed := wellFormed_of_parse hparse
  have hok (n : Int) : e.evalQuoting quoted binding = .ok n ↔
      (∀ d ∈ e.nodes, HasValue binding d) ∧ Denotes binding e n :=
    mapError_eq_ok.trans (he.eval_eq_ok_iff hbinding)
  have herror (error : Error) : e.evalQuoting quoted binding = .error error ↔
      ∃ d, FirstFailing (HasValue binding) e.nodes d ∧
        ((∃ name, d = .var name ∧ error = .undefinedVariable quoted name) ∨
          d.Operates ∧ (∃ m, Denotes binding d m ∧ ¬InRange m) ∧
            error = .arithmeticOverflow quoted) := by
    rw [evalQuoting, mapError_eq_error]
    simp only [he.eval_eq_error_iff hbinding]
    constructor
    · rintro ⟨_, ⟨d, hfirst, ⟨name⟩ | ⟨hoperates, hn, hrange⟩⟩, rfl⟩
      · exact ⟨_, hfirst, .inl ⟨name, rfl, rfl⟩⟩
      · exact ⟨d, hfirst, .inr ⟨hoperates, ⟨_, hn, hrange⟩, rfl⟩⟩
    · rintro ⟨_, hfirst, ⟨name, rfl, rfl⟩ | ⟨hoperates, ⟨n, hn, hrange⟩, rfl⟩⟩
      · exact ⟨_, ⟨_, hfirst, .undefined name⟩, rfl⟩
      · exact ⟨_, ⟨_, hfirst, .overflow hoperates hn hrange⟩, rfl⟩
  refine ⟨fun n => ?_, herror, fun text fault h => ?_, ?_⟩
  · rw [hok]
    exact ⟨fun ⟨hnodes, hn⟩ => ⟨bound_of_hasValue hnodes, hnodes, hn⟩, fun ⟨_, h⟩ => h⟩
  · obtain ⟨d, -, ⟨name, -, heq⟩ | ⟨-, -, heq⟩⟩ := (herror _).1 h
    · cases heq
    · cases heq
  · rintro hbound ⟨d, hd, m, hm, hrange⟩
    cases h : e.evalQuoting quoted binding with
    | ok n => exact absurd (((hok n).1 h).1 d hd) (not_hasValue hm hrange)
    | error error =>
        obtain ⟨d', hfirst, ⟨name, rfl, -⟩ | ⟨-, -, rfl⟩⟩ := (herror error).1 h
        · obtain ⟨c, value, hc, hvalue⟩ := hbound name hfirst.mem
          exact absurd ⟨value, .var hc hvalue, hbinding c value hvalue⟩ hfirst.fails
        · rfl

/-- Twice the largest value is out of range, so taking the value away again does not help. -/
theorem evalQuoting_overflows_between :
    let double : Expr := .binary .mul (.var "a") (.int 2)
    let e : Expr := .binary .sub double (.var "a")
    let binding : Binding := fun c => if c = 'a' then some maxValue else none
    parse "a*2-a" = .ok e ∧ (∀ c n, binding c = some n → InRange n) ∧
      Denotes binding e maxValue ∧
        e.evalQuoting "(a*2-a)" binding = .error (.arithmeticOverflow "(a*2-a)") := by
  intro double e binding
  have hparse : parse "a*2-a" = .ok e := by decide +kernel
  have hbinding (c : Char) (n : Int) (hn : binding c = some n) : InRange n := by
    obtain ⟨-, rfl⟩ : c = 'a' ∧ maxValue = n := by simpa [binding] using hn
    decide
  have ha : Denotes binding (.var "a") maxValue := .var rfl rfl
  have hdouble : Denotes binding double (maxValue * 2) := .mul ha (.int 2)
  have hbound : e.Bound binding := by
    intro name hname
    obtain rfl : name = "a" := by simpa [e, double, nodes] using hname
    exact ⟨'a', maxValue, rfl, rfl⟩
  have hnode : double ∈ e.nodes := by simp [e, double, nodes]
  refine ⟨hparse, hbinding, .sub hdouble ha, ?_⟩
  exact (evalQuoting_exact_or_first_fault hparse hbinding "(a*2-a)").2.2.2 hbound
    ⟨double, hnode, _, hdouble, by decide⟩

end Expr

end ShapeAssert
