import ShapeAssert.Expr.Eval
import ShapeAssert.Proofs.Expr.WellFormed

/-! Calls with the right number of arguments. A tree that was read calls every function with as many
arguments as it accepts, so evaluating it never finds a call with another number. -/

namespace ShapeAssert

/-- Every call in the tree has as many arguments as its function accepts. -/
inductive Expr.WellCalled : Expr → Prop where
  | int (n : Nat) : WellCalled (.int n)
  | var (name : String) : WellCalled (.var name)
  | unary {op : UnaryOp} {e : Expr} : WellCalled e → WellCalled (.unary op e)
  | binary {op : BinaryOp} {l r : Expr} :
      WellCalled l → WellCalled r → WellCalled (.binary op l r)
  | call {f : Builtin} {args : List Expr} :
      f.accepts args.length = true → (∀ e ∈ args, WellCalled e) → WellCalled (.call f args)

namespace Expr

theorem WellFormed.wellCalled {e : Expr} (he : e.WellFormed) : e.WellCalled := by
  induction he with
  | int _ => exact .int _
  | var _ _ => exact .var _
  | unary _ ih => exact .unary ih
  | binary _ _ ihl ihr => exact .binary ihl ihr
  | call haccepts _ ih => exact .call haccepts ih

theorem wellCalled_of_parse {source : String} {e : Expr} (h : parse source = .ok e) :
    e.WellCalled :=
  (wellFormed_of_parse h).wellCalled

/-! ### Evaluation -/

variable {binding : Binding}

theorem evalArgs_eq_mapM (args : List Expr) : evalArgs binding args = args.mapM (eval binding) := by
  induction args with
  | nil => rfl
  | cons e rest ih => rw [evalArgs, ih, List.mapM_cons]; rfl

theorem checked_eq_error {n : Int} {fault : EvalFault} :
    checked n = .error fault ↔ ¬InRange n ∧ fault = .overflow := by
  rw [checked]
  split <;> simp_all [eq_comm]

theorem lookup_eq_ok {name : String} {n : Int} :
    lookup binding name = .ok n ↔ ∃ c, name.toList = [c] ∧ binding c = some n := by
  rw [lookup]
  split
  · next c hname =>
    rw [hname]
    cases hc : binding c with
    | none => simp [hc]
    | some value => simp [hc]
  · next hname =>
    simp only [reduceCtorEq, false_iff]
    rintro ⟨c, hc, -⟩
    exact hname c hc

theorem lookup_eq_error {name : String} {fault : EvalFault}
    (h : lookup binding name = .error fault) : fault = .undefined name := by
  rw [lookup] at h
  split at h
  · next letter _ =>
    cases hletter : binding letter with
    | none => simpa [hletter, eq_comm] using h
    | some value => simp [hletter] at h
  · exact (Except.error.inj h).symm

theorem apply_eq_error {f : Builtin} {xs : List Int} {fault : EvalFault}
    (haccepts : f.accepts xs.length = true) (h : f.apply xs = .error fault) : fault = .overflow := by
  cases f with
  | min =>
      cases xs with
      | nil => simp [Builtin.accepts] at haccepts
      | cons x xs => simp [Builtin.apply, List.min?_cons] at h
  | max =>
      cases xs with
      | nil => simp [Builtin.accepts] at haccepts
      | cons x xs => simp [Builtin.apply, List.max?_cons] at h
  | abs =>
      obtain ⟨x, rfl⟩ : ∃ x, xs = [x] :=
        List.length_eq_one_iff.1 (by simpa [Builtin.accepts] using haccepts)
      exact (checked_eq_error.1 h).2

/-- A well-called tree has no value only for want of a variable or of room for a number. -/
theorem WellCalled.eval_error {e : Expr} (he : e.WellCalled) {fault : EvalFault}
    (h : e.eval binding = .error fault) : (∃ name, fault = .undefined name) ∨ fault = .overflow := by
  induction he generalizing fault with
  | int n => simp [eval] at h
  | var name => exact .inl ⟨name, lookup_eq_error (by rwa [eval] at h)⟩
  | @unary op e _ ih =>
      cases op with
      | pos => exact ih (by rwa [eval] at h)
      | neg =>
          rw [eval, bind_eq_error] at h
          rcases h with h | ⟨x, -, h⟩
          · exact ih h
          · exact .inr (checked_eq_error.1 h).2
  | binary _ _ ihl ihr =>
      rw [eval, bind_eq_error] at h
      rcases h with h | ⟨x, -, h⟩
      · exact ihl h
      rcases bind_eq_error.1 h with h | ⟨y, -, h⟩
      · exact ihr h
      · exact .inr (checked_eq_error.1 h).2
  | call haccepts _ ih =>
      rw [eval, evalArgs_eq_mapM, bind_eq_error] at h
      rcases h with h | ⟨xs, hxs, h⟩
      · obtain ⟨arg, harg, hfault⟩ := mapM_eq_error h
        exact ih arg harg hfault
      · rw [(mapM_eq_ok.1 hxs).length_eq] at haccepts
        exact .inr (apply_eq_error haccepts h)

end Expr

end ShapeAssert
