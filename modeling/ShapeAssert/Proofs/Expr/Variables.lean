import ShapeAssert.Proofs.Expr.Arity
import ShapeAssert.Proofs.Expr.Nodes

/-! Evaluation looks up the variables of an expression and nothing else. So bindings that agree on its
letters give it the same value, a value takes a value of every variable, and only a variable of the
expression is ever undefined. -/

namespace ShapeAssert

namespace Expr

/-- What holds of numbers and variables, and of an operation if it holds of all operands, holds of
every expression. -/
@[induction_eliminator]
theorem induction {P : Expr → Prop} (int : ∀ n, P (.int n)) (var : ∀ name, P (.var name))
    (unary : ∀ op e, P e → P (.unary op e))
    (binary : ∀ op l r, P l → P r → P (.binary op l r))
    (call : ∀ f args, (∀ e ∈ args, P e) → P (.call f args)) (e : Expr) : P e :=
  match e with
  | .int n => int n
  | .var name => var name
  | .unary op e => unary op e (induction int var unary binary call e)
  | .binary op l r =>
      binary op l r (induction int var unary binary call l) (induction int var unary binary call r)
  | .call f args => call f args fun e _ => induction int var unary binary call e

variable {binding left right : Binding} {e : Expr} {name : String}

theorem lookup_congr (h : ∀ c ∈ name.toList, left c = right c) :
    lookup left name = lookup right name := by
  rw [lookup, lookup]
  split
  · next c hname =>
    rw [h c (by simp [hname])]
  · rfl

theorem eval_congr (h : ∀ c ∈ e.nameLetters, left c = right c) : e.eval left = e.eval right := by
  have hnames : ∀ name, .var name ∈ e.nodes → ∀ c ∈ name.toList, left c = right c :=
    fun name hname c hc => h c ((mem_nameLetters e).2 ⟨name, hname, hc⟩)
  clear h
  induction e with
  | int n => rfl
  | var name =>
      rw [eval, eval]
      exact lookup_congr (hnames name (by simp [nodes]))
  | unary op e ih =>
      have he := ih fun name hname => hnames name (by simp [nodes, hname])
      cases op with
      | pos => rwa [eval, eval]
      | neg => rw [eval, eval, he]
  | binary op l r ihl ihr =>
      have hl := ihl fun name hname => hnames name (by simp [nodes, hname])
      have hr := ihr fun name hname => hnames name (by simp [nodes, hname])
      rw [eval, eval, hl, hr]
  | call f args ih =>
      have hargs : ∀ e ∈ args, e.eval left = e.eval right := by
        refine fun e he => ih e he fun name hname => hnames name ?_
        rw [nodes, nodesArgs_eq_flatMap]
        exact List.mem_append_left _ (List.mem_flatMap.2 ⟨e, he, hname⟩)
      rw [eval, eval, evalArgs_eq_mapM, evalArgs_eq_mapM, mapM_congr hargs]

theorem WellFormed.of_mem_nodes (he : e.WellFormed) {d : Expr} (hd : d ∈ e.nodes) :
    d.WellFormed := by
  induction he with
  | int hn =>
      obtain rfl := List.mem_singleton.1 hd
      exact .int hn
  | var hne hletters =>
      obtain rfl := List.mem_singleton.1 hd
      exact .var hne hletters
  | unary he ih =>
      rcases List.mem_append.1 hd with hd | hd
      · exact ih hd
      · obtain rfl := List.mem_singleton.1 hd
        exact .unary he
  | binary hl hr ihl ihr =>
      rcases List.mem_append.1 hd with hd | hd
      · exact ihl hd
      rcases List.mem_append.1 hd with hd | hd
      · exact ihr hd
      · obtain rfl := List.mem_singleton.1 hd
        exact .binary hl hr
  | call haccepts hargs ih =>
      rcases List.mem_append.1 hd with hd | hd
      · rw [nodesArgs_eq_flatMap] at hd
        obtain ⟨e, he, hd⟩ := List.mem_flatMap.1 hd
        exact ih e he hd
      · obtain rfl := List.mem_singleton.1 hd
        exact .call haccepts hargs

/-- A value takes a value of every expression in it. -/
theorem exists_eval_of_mem_nodes {d : Expr} {n : Int} (h : e.eval binding = .ok n)
    (hd : d ∈ e.nodes) : ∃ m, d.eval binding = .ok m := by
  induction e generalizing n with
  | int k =>
      obtain rfl := List.mem_singleton.1 hd
      exact ⟨n, h⟩
  | var name =>
      obtain rfl := List.mem_singleton.1 hd
      exact ⟨n, h⟩
  | unary op e ih =>
      obtain ⟨x, hx⟩ : ∃ x, e.eval binding = .ok x := by
        cases op with
        | pos => exact ⟨n, by rwa [eval] at h⟩
        | neg =>
            rw [eval, bind_eq_ok] at h
            obtain ⟨x, hx, -⟩ := h
            exact ⟨x, hx⟩
      rcases List.mem_append.1 hd with hd | hd
      · exact ih hx hd
      · obtain rfl := List.mem_singleton.1 hd
        exact ⟨n, h⟩
  | binary op l r ihl ihr =>
      rcases List.mem_append.1 hd with hd | hd
      · rw [eval, bind_eq_ok] at h
        obtain ⟨x, hx, -⟩ := h
        exact ihl hx hd
      rcases List.mem_append.1 hd with hd | hd
      · rw [eval, bind_eq_ok] at h
        obtain ⟨x, -, h⟩ := h
        obtain ⟨y, hy, -⟩ := bind_eq_ok.1 h
        exact ihr hy hd
      · obtain rfl := List.mem_singleton.1 hd
        exact ⟨n, h⟩
  | call f args ih =>
      rcases List.mem_append.1 hd with hd | hd
      · rw [nodesArgs_eq_flatMap] at hd
        obtain ⟨e, he, hd⟩ := List.mem_flatMap.1 hd
        rw [eval, evalArgs_eq_mapM, bind_eq_ok] at h
        obtain ⟨xs, hxs, -⟩ := h
        obtain ⟨x, hx⟩ := exists_ok_of_mapM hxs he
        exact ih e he hx hd
      · obtain rfl := List.mem_singleton.1 hd
        exact ⟨n, h⟩

theorem checked_ne_undefined {n : Int} : checked n ≠ .error (.undefined name) := by
  intro h
  obtain ⟨-, hfault⟩ := checked_eq_error.1 h
  cases hfault

theorem apply_ne_undefined {f : Builtin} {xs : List Int} :
    f.apply xs ≠ .error (.undefined name) := by
  cases f with
  | min => cases h : xs.min? <;> simp [Builtin.apply, h]
  | max => cases h : xs.max? <;> simp [Builtin.apply, h]
  | abs =>
      rcases xs with - | ⟨x, - | ⟨y, xs⟩⟩
      all_goals simp [Builtin.apply, checked_ne_undefined]

/-- Only a variable of the expression is found to be undefined. -/
theorem lookup_of_eval_eq_undefined (h : e.eval binding = .error (.undefined name)) :
    .var name ∈ e.nodes ∧ lookup binding name = .error (.undefined name) := by
  induction e with
  | int n => cases h
  | var name' =>
      rw [eval] at h
      obtain rfl := EvalFault.undefined.inj (lookup_eq_error h)
      exact ⟨self_mem_nodes _, h⟩
  | unary op e ih =>
      have he : e.eval binding = .error (.undefined name) := by
        cases op with
        | pos => rwa [eval] at h
        | neg =>
            rw [eval, bind_eq_error] at h
            rcases h with h | ⟨x, -, h⟩
            · exact h
            · exact absurd h checked_ne_undefined
      exact ⟨List.mem_append_left _ (ih he).1, (ih he).2⟩
  | binary op l r ihl ihr =>
      rw [eval, bind_eq_error] at h
      rcases h with h | ⟨x, -, h⟩
      · exact ⟨List.mem_append_left _ (ihl h).1, (ihl h).2⟩
      rcases bind_eq_error.1 h with h | ⟨y, -, h⟩
      · exact ⟨List.mem_append_right _ (List.mem_append_left _ (ihr h).1), (ihr h).2⟩
      · exact absurd h checked_ne_undefined
  | call f args ih =>
      rw [eval, evalArgs_eq_mapM, bind_eq_error] at h
      rcases h with h | ⟨xs, -, h⟩
      · obtain ⟨e, he, hfault⟩ := mapM_eq_error h
        obtain ⟨hname, hlookup⟩ := ih e he hfault
        refine ⟨List.mem_append_left _ ?_, hlookup⟩
        rw [nodesArgs_eq_flatMap]
        exact List.mem_flatMap.2 ⟨e, he, hname⟩
      · exact absurd h apply_ne_undefined

end Expr

end ShapeAssert
