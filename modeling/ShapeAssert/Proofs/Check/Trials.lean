import ShapeAssert.Check.Checker
import ShapeAssert.Proofs.Check.Assignment
import ShapeAssert.Proofs.Check.Stage

/-! The trials of a check as a whole. A trial either stops before the function is called or calls it
once, on inputs that have the shapes of the formulas under the values it drew, and judges the result
under the same values. A check goes through its trials in order and ends with the first that fails,
so the calls it makes are those of the trials up to that one. -/

namespace ShapeAssert

/-- What stays the same through the trials of a check. -/
structure Setup (σ κ ε : Type) (S : Type → Type) (α : Type) where
  backend : Backend S α
  config : Config
  source : RandomSource σ α
  pattern : Pattern
  constraints : Constraints
  f : Callable κ ε S α

/-! ### One trial -/

variable {S : Type → Type} [Storage S] {σ κ ε α : Type} [Element α]

theorem Backend.build_eq_ok {backend : Backend S α} {source : RandomSource σ α} {shape : Shape}
    {fill : Fill} {room room' : Room σ} {tensor : Tensor S α}
    (h : backend.build source shape fill room = (.ok tensor, room')) :
    tensor.WellFormed ∧ tensor.shape = shape := by
  rw [build_eq] at h
  split at h
  · cases h
  split at h
  · cases h
  split at h
  · cases h
  · next storage directory hstore =>
    split at h
    · cases h
    · next tensor' htensor =>
      simp only [Prod.mk.injEq, Except.ok.injEq] at h
      obtain ⟨rfl, -⟩ := h
      obtain ⟨hcount, rfl⟩ := Tensor.ofStorage_eq_ok_iff.1 htensor
      exact ⟨hcount, rfl⟩

/-- Generated inputs are well-formed and have the shapes of their formulas. -/
theorem buildInputs_eq_ok {backend : Backend S α} {source : RandomSource σ α} {fill : Fill}
    {binding : Binding} {formulas : List TensorFormula} {room room' : Room σ}
    {inputs : List (Tensor S α)}
    (h : buildInputs backend source fill binding formulas room = (.ok inputs, room')) :
    List.Forall₂ (fun formula tensor => tensor.WellFormed ∧ formula.shape binding = .ok tensor.shape)
      formulas inputs := by
  induction formulas generalizing room room' inputs with
  | nil =>
      rw [buildInputs] at h
      simp only [Prod.mk.injEq, Except.ok.injEq] at h
      obtain ⟨rfl, -⟩ := h
      exact .nil
  | cons formula formulas ih =>
      rw [buildInputs] at h
      split at h
      · cases h
      next shape hshape =>
      split at h
      · cases h
      next tensor room₁ hbuild =>
      split at h
      · cases h
      next tensors room₂ hrest =>
      simp only [Prod.mk.injEq, Except.ok.injEq] at h
      obtain ⟨rfl, -⟩ := h
      obtain ⟨hwell, rfl⟩ := Backend.build_eq_ok hbuild
      exact .cons ⟨hwell, hshape⟩ (ih hrest)

namespace Setup

variable (setup : Setup σ κ ε S α)

/-- One trial in a session. -/
def run (session : Session σ κ) : Report σ κ ε S α :=
  trial setup.backend setup.config setup.source setup.pattern setup.constraints setup.f session

/-- The session in which trial number `n` starts if those before it pass. -/
def before : Nat → Session σ κ → Session σ κ
  | 0, session => session
  | n + 1, session => before n (setup.run session).session

/-- Trial number `n`, counted from zero. -/
def nth (n : Nat) (session : Session σ κ) : Report σ κ ε S α :=
  setup.run (setup.before n session)

def Passes (session : Session σ κ) (n : Nat) : Prop :=
  (setup.nth n session).outcome = .ok ()

/-- All trials before the given one pass. -/
def Reached (session : Session σ κ) (n : Nat) : Prop :=
  ∀ earlier < n, setup.Passes session earlier

/-- A trial in the session draws the values and generates the inputs. -/
def Prepares (session : Session σ κ) (assignment : Assignment) (inputs : List (Tensor S α)) : Prop :=
  ∃ random room,
    Assignment.draw setup.source setup.pattern.inputs setup.constraints setup.config.bound
        session.room.random = .ok (assignment, random) ∧
      buildInputs setup.backend setup.source setup.config.fill assignment.lookup
        setup.pattern.inputs.tensors ⟨random, session.room.directory⟩ = (.ok inputs, room)

/-- The one call of a trial in the session. Its inputs are well-formed and have the shapes of the
formulas under the values the trial drew; the function is applied to them in the state it is in; the
result is judged under the same values. -/
structure Calls (session : Session σ κ) (call : Call ε S α) : Prop where
  prepared : setup.Prepares session call.assignment call.inputs
  shapes : List.Forall₂
    (fun formula tensor =>
      tensor.WellFormed ∧ formula.shape call.assignment.lookup = .ok tensor.shape)
    setup.pattern.inputs.tensors call.inputs
  applied : setup.f session.callable call.inputs =
    (call.result, (setup.run session).session.callable)
  judged : (setup.run session).outcome =
    judge setup.config.strict call.assignment setup.pattern.outputs call.result

/-- A trial that is prepared makes one call, and any other none. -/
theorem run_cases (session : Session σ κ) :
    (∃ call, (setup.run session).calls = [call] ∧ setup.Calls session call) ∨
      (∀ assignment inputs, ¬setup.Prepares session assignment inputs) ∧
        (setup.run session).calls = [] ∧
        (setup.run session).session.callable = session.callable ∧
        ∃ e, (setup.run session).outcome = .error (.rejected e) := by
  cases hdraw : Assignment.draw setup.source setup.pattern.inputs setup.constraints
      setup.config.bound session.room.random with
  | error e =>
      have hrun : setup.run session = ⟨.error (.rejected e), [], session⟩ := by
        rw [run, trial, hdraw]
      refine .inr ⟨fun assignment inputs ⟨random, room, hdraw', _⟩ => ?_, ?_⟩
      · rw [hdraw] at hdraw'
        cases hdraw'
      · rw [hrun]
        exact ⟨rfl, rfl, e, rfl⟩
  | ok drawn =>
      obtain ⟨assignment, random⟩ := drawn
      cases hbuild : buildInputs setup.backend setup.source setup.config.fill assignment.lookup
          setup.pattern.inputs.tensors ⟨random, session.room.directory⟩ with
      | mk result room =>
          cases result with
          | error e =>
              have hrun : setup.run session =
                  ⟨.error (.rejected e), [], { session with room }⟩ := by
                rw [run, trial, hdraw]
                simp only [hbuild]
              refine .inr ⟨fun assignment' inputs ⟨random', room', hdraw', hbuild'⟩ => ?_, ?_⟩
              · rw [hdraw] at hdraw'
                cases hdraw'
                rw [hbuild] at hbuild'
                cases hbuild'
              · rw [hrun]
                exact ⟨rfl, rfl, e, rfl⟩
          | ok inputs =>
              have hrun : setup.run session =
                  { outcome := judge setup.config.strict assignment setup.pattern.outputs
                      (setup.f session.callable inputs).1
                    calls := [⟨assignment, inputs, (setup.f session.callable inputs).1,
                      room.directory⟩]
                    session := ⟨inputs.foldl Room.release room,
                      (setup.f session.callable inputs).2⟩ } := by
                rw [run, trial, hdraw]
                simp only [hbuild]
              refine .inl ⟨⟨assignment, inputs, _, room.directory⟩, congrArg Report.calls hrun, ?_⟩
              exact
                { prepared := ⟨random, room, hdraw, hbuild⟩
                  shapes := buildInputs_eq_ok hbuild
                  applied := by rw [hrun]
                  judged := by rw [hrun] }

/-- The trials of a check in order, until one fails. -/
def check (depth : Nat) (session : Session σ κ) : Report σ κ ε S α :=
  trials setup.backend setup.config setup.source setup.pattern setup.constraints setup.f depth
    session

/-- The calls of the trials up to the given number, as if those before it passed. -/
def callsUpTo (count : Nat) (session : Session σ κ) : List (Call ε S α) :=
  (List.range count).flatMap fun n => (setup.nth n session).calls

variable {setup} {session : Session σ κ}

theorem check_succ_of_passes {depth : Nat} (h : setup.Passes session 0) :
    setup.check (depth + 1) session =
      { setup.check depth (setup.run session).session with
        calls := (setup.run session).calls ++
          (setup.check depth (setup.run session).session).calls } := by
  have hrun : (trial setup.backend setup.config setup.source setup.pattern setup.constraints
      setup.f session).outcome = .ok () := h
  rw [check, trials]
  simp only [hrun]
  rfl

theorem check_of_fails {depth : Nat} (hdepth : 1 ≤ depth) (h : ¬setup.Passes session 0) :
    setup.check depth session = setup.run session := by
  obtain ⟨depth, rfl⟩ := Nat.exists_eq_succ_of_ne_zero (Nat.ne_zero_of_lt hdepth)
  rw [check, trials]
  dsimp only
  split
  · rfl
  · next hrun => exact absurd hrun h

theorem callsUpTo_succ (count : Nat) :
    setup.callsUpTo (count + 1) session =
      (setup.run session).calls ++ setup.callsUpTo count (setup.run session).session := by
  rw [callsUpTo, List.range_succ_eq_map, List.flatMap_cons, List.flatMap_map]
  rfl

variable (setup session) in
theorem reached_zero : setup.Reached session 0 :=
  fun earlier hearlier => absurd hearlier (Nat.not_lt_zero earlier)

theorem Reached.tail {n : Nat} (h : setup.Reached session (n + 1)) :
    setup.Passes session 0 ∧ setup.Reached (setup.run session).session n :=
  ⟨h 0 (Nat.succ_pos n), fun earlier hearlier => h (earlier + 1) (Nat.succ_lt_succ hearlier)⟩

theorem Reached.cons {n : Nat} (hfirst : setup.Passes session 0)
    (hrest : setup.Reached (setup.run session).session n) : setup.Reached session (n + 1) := by
  intro earlier hearlier
  cases earlier with
  | zero => exact hfirst
  | succ earlier => exact hrest earlier (Nat.lt_of_succ_lt_succ hearlier)

theorem check_of_reached {depth : Nat} (h : setup.Reached session depth) :
    setup.check depth session =
      ⟨.ok (), setup.callsUpTo depth session, setup.before depth session⟩ := by
  induction depth generalizing session with
  | zero => rfl
  | succ depth ih =>
      obtain ⟨hfirst, hrest⟩ := h.tail
      rw [check_succ_of_passes hfirst, ih hrest, callsUpTo_succ]
      rfl

/-- A check ends with the first trial that does not pass. -/
theorem check_of_first_failure {depth n : Nat} (hn : n < depth) (hreached : setup.Reached session n)
    (hfails : ¬setup.Passes session n) :
    setup.check depth session =
      { setup.nth n session with calls := setup.callsUpTo (n + 1) session } := by
  induction n generalizing depth session with
  | zero =>
      rw [check_of_fails hn hfails, callsUpTo_succ, callsUpTo, List.range_zero,
        List.flatMap_nil, List.append_nil]
      rfl
  | succ n ih =>
      obtain ⟨depth, rfl⟩ := Nat.exists_eq_succ_of_ne_zero (Nat.ne_zero_of_lt hn)
      obtain ⟨hfirst, hrest⟩ := hreached.tail
      rw [check_succ_of_passes hfirst, ih (Nat.lt_of_succ_lt_succ hn) hrest hfails,
        callsUpTo_succ (n + 1)]
      rfl

variable (setup session) in
theorem reached_or_first_failure (depth : Nat) :
    setup.Reached session depth ∨
      ∃ n < depth, setup.Reached session n ∧ ¬setup.Passes session n := by
  induction depth with
  | zero => exact .inl (setup.reached_zero session)
  | succ depth ih =>
      rcases ih with hreached | ⟨n, hn, hfirst⟩
      · by_cases hlast : setup.Passes session depth
        · refine .inl fun n hn => ?_
          rcases Nat.lt_succ_iff_lt_or_eq.1 hn with hn | rfl
          · exact hreached n hn
          · exact hlast
        · exact .inr ⟨depth, Nat.lt_succ_self depth, hreached, hlast⟩
      · exact .inr ⟨n, Nat.lt_succ_of_lt hn, hfirst⟩

theorem check_passes_iff {depth : Nat} :
    (setup.check depth session).outcome = .ok () ↔ setup.Reached session depth := by
  constructor
  · intro hok
    rcases reached_or_first_failure setup session depth with hall | ⟨n, hn, hreached, hfails⟩
    · exact hall
    · rw [check_of_first_failure hn hreached hfails] at hok
      exact absurd hok hfails
  · intro hall
    rw [check_of_reached hall]

/-- A trial that passes has made its call. -/
theorem calls_of_passes (h : setup.Passes session 0) :
    ∃ call, (setup.run session).calls = [call] ∧ setup.Calls session call := by
  rcases setup.run_cases session with hcall | ⟨-, -, -, e, he⟩
  · exact hcall
  · have hrun : (setup.run session).outcome = .ok () := h
    rw [hrun] at he
    cases he

theorem length_callsUpTo {count : Nat} (h : setup.Reached session count) :
    (setup.callsUpTo count session).length = count := by
  induction count generalizing session with
  | zero => rfl
  | succ count ih =>
      obtain ⟨hfirst, hrest⟩ := h.tail
      obtain ⟨call, hcall, -⟩ := calls_of_passes hfirst
      rw [callsUpTo_succ, hcall, List.length_append, ih hrest, List.length_singleton, Nat.add_comm]

end Setup

/-! ### Checkers -/

namespace Checker

def setup (checker : Checker S α) (source : RandomSource σ α) (pattern : Pattern)
    (constraints : Constraints) (f : Callable κ ε S α) : Setup σ κ ε S α :=
  ⟨checker.backend, checker.config, source, pattern, constraints, f⟩

/-- The session in which the first trial starts. -/
def opening (checker : Checker S α) (source : RandomSource σ α) (session : Session σ κ) :
    Session σ κ :=
  { session with room := { session.room with random := checker.start source session.room.random } }

variable (checker : Checker S α) (source : RandomSource σ α) (f : Callable κ ε S α)
  (session : Session σ κ)

theorem tryCheck_eq_check (pattern : Pattern) (constraints : Constraints) :
    checker.tryCheck source pattern constraints f session =
      (checker.setup source pattern constraints f).check checker.config.depth
        (checker.opening source session) :=
  rfl

theorem tryTest_of_parse_error {text : String} {raw : List (String × ConstraintValue)} {e : Error}
    (h : Pattern.parse text = .error e) :
    checker.tryTest source text raw f session = ⟨.error (.rejected e), [], session⟩ := by
  rw [tryTest, h]

theorem tryTest_of_validate_error {text : String} {raw : List (String × ConstraintValue)}
    {pattern : Pattern} {e : Error} (hpattern : Pattern.parse text = .ok pattern)
    (h : Constraints.validate raw = .error e) :
    checker.tryTest source text raw f session = ⟨.error (.rejected e), [], session⟩ := by
  rw [tryTest, hpattern]
  simp only [h]

theorem tryTest_of_ok {text : String} {raw : List (String × ConstraintValue)} {pattern : Pattern}
    {constraints : Constraints} (hpattern : Pattern.parse text = .ok pattern)
    (hconstraints : Constraints.validate raw = .ok constraints) :
    checker.tryTest source text raw f session =
      checker.tryCheck source pattern constraints f session := by
  rw [tryTest, hpattern]
  simp only [hconstraints]

end Checker

end ShapeAssert
