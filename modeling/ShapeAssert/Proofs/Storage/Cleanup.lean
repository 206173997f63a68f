import ShapeAssert.Proofs.Storage.Custody

/-! What a check over files leaves in the directory. Every move in the course of a check keeps the files
accounted for, at whatever point the check stops, and the check goes like any other: it generates the
same inputs, calls the function with them and ends alike. Between two trials only the function holds
tensors. So if it keeps none in the end, the directory is as it was before the check. -/

namespace ShapeAssert

variable {σ κ τ ε α : Type}

/-! ### Names -/

theorem heldNames_append (held held' : List (Holder × Tensor MappedStorage α)) :
    heldNames (held ++ held') = heldNames held ++ heldNames held' :=
  List.filterMap_append

theorem heldNames_filter (gone : Holder → Bool) (held : List (Holder × Tensor MappedStorage α)) :
    heldNames (held.filter fun entry => !gone entry.1) =
      (heldNames held).filter fun entry => !gone (.name entry.1) := by
  induction held with
  | nil => rfl
  | cons entry held ih =>
      obtain ⟨holder, tensor⟩ := entry
      rw [List.filter_cons]
      cases holder with
      | name reference =>
          change _ = ((reference, tensor) :: heldNames held).filter _
          rw [List.filter_cons, ← ih]
          cases gone (.name reference) <;> rfl
      | input | output =>
          change _ = (heldNames held).filter _
          rw [← ih]
          split <;> rfl

theorem mem_held_of_mem_heldNames {held : List (Holder × Tensor MappedStorage α)} {reference : String}
    {tensor : Tensor MappedStorage α} (h : (reference, tensor) ∈ heldNames held) :
    (.name reference, tensor) ∈ held := by
  obtain ⟨⟨holder, tensor'⟩, hentry, hname⟩ := List.mem_filterMap.1 h
  cases holder with
  | name reference' =>
      obtain ⟨rfl, rfl⟩ := Prod.mk.inj (Option.some.inj hname)
      exact hentry
  | input | output => cases hname

/-- What the check holds the function has not named. -/
theorem heldNames_map (holder : Holder) (hholder : ∀ reference, holder ≠ .name reference)
    (tensors : List (Tensor MappedStorage α)) : heldNames (tensors.map (holder, ·)) = [] := by
  induction tensors with
  | nil => rfl
  | cons tensor tensors ih =>
      cases holder with
      | name reference => exact absurd rfl (hholder reference)
      | input | output => exact ih

namespace Course

/-! ### Giving up -/

/-- At all moments so far the files are accounted for. -/
def Accounted (before : Directory) (course : Course σ κ α) : Prop :=
  ∀ moment ∈ course.moments, moment.Accounted before

variable {before : Directory} {course : Course σ κ α}

theorem Accounted.now (h : course.Accounted before) : course.now.Accounted before :=
  h course.now List.mem_cons_self

theorem Accounted.go (h : course.Accounted before) {moment : Moment α}
    (hmoment : moment.Accounted before) : (course.go moment).Accounted before := by
  intro other hother
  obtain rfl | hother := List.mem_cons.1 hother
  · exact hmoment
  · exact h other hother

theorem Accounted.sweep (h : course.Accounted before) (gone : Holder → Bool)
    {kept todo : List (Holder × Tensor MappedStorage α)} (hheld : course.now.held = kept ++ todo) :
    (sweep gone kept todo course).Accounted before := by
  induction todo generalizing kept course with
  | nil => exact h
  | cons entry rest ih =>
      rw [Course.sweep]
      split
      · refine ih (h.go (h.now.giveUp fun other => ?_)) rfl
        rw [hheld]
        simp [or_left_comm]
      · exact ih h (by rw [hheld, List.append_assoc]; rfl)

theorem alike_giveUp (moment : Moment α) (tensor : Tensor MappedStorage α)
    (others : List (Holder × Tensor MappedStorage α)) :
    (moment.giveUp tensor others).directory.Alike moment.directory := by
  rw [Moment.giveUp]
  dsimp only
  split
  · exact ⟨rfl, rfl⟩
  · exact moment.directory.alike_release tensor.storage

/-- What giving up the tensors of some holders leaves. -/
structure Released (gone : Holder → Bool) (course left : Course σ κ α) : Prop where
  held : left.now.held = course.now.held.filter fun entry => !gone entry.1
  random : left.random = course.random
  own : left.own = course.own
  directory : left.now.directory.Alike course.now.directory

theorem released_sweep (gone : Holder → Bool) {kept todo : List (Holder × Tensor MappedStorage α)}
    (hheld : course.now.held = kept ++ todo) (hkept : ∀ entry ∈ kept, gone entry.1 = false) :
    Released gone course (sweep gone kept todo course) := by
  induction todo generalizing kept course with
  | nil =>
      refine ⟨?_, rfl, rfl, ⟨rfl, rfl⟩⟩
      rw [hheld, List.append_nil]
      change course.now.held = _
      rw [hheld, List.append_nil]
      exact (List.filter_eq_self.2 fun entry hentry => by rw [hkept entry hentry]; rfl).symm
  | cons entry rest ih =>
      rw [Course.sweep]
      by_cases hgone : gone entry.1 = true
      · rw [if_pos hgone]
        have hrest : Released gone (course.go (course.now.giveUp entry.2 (kept ++ rest))) _ :=
          ih rfl hkept
        refine ⟨?_, hrest.random, hrest.own, hrest.directory.trans (alike_giveUp ..)⟩
        rw [hrest.held, hheld, List.filter_append, List.filter_cons_of_neg (by simp [hgone]),
          ← List.filter_append]
        rfl
      · rw [if_neg hgone]
        refine ih (by rw [hheld, List.append_assoc]; rfl) fun other hother => ?_
        obtain hother | hother := List.mem_append.1 hother
        · exact hkept other hother
        · obtain rfl := List.mem_singleton.1 hother
          exact Bool.eq_false_iff.2 hgone

theorem released_release (gone : Holder → Bool) (course : Course σ κ α) :
    Released gone course (course.release gone) :=
  released_sweep gone rfl fun _ hentry => nomatch hentry

/-- Names that are not given up stay. -/
theorem Released.names {gone : Holder → Bool} {left : Course σ κ α} (h : Released gone course left) :
    left.now.names = course.now.names.filter fun entry => !gone (.name entry.1) := by
  rw [Moment.names, h.held, heldNames_filter]
  rfl

/-- A check in progress with all files accounted for that has come as far as one in the room. -/
structure Sound (before : Directory) (course : Course σ κ α) (room : Room σ) : Prop where
  accounted : course.Accounted before
  random : course.random = room.random
  directory : course.now.directory.Alike room.directory

theorem Sound.release {room : Room σ} (h : course.Sound before room) (gone : Holder → Bool) :
    (course.release gone).Sound before room := by
  have hleft := released_release gone course
  exact ⟨h.accounted.sweep gone rfl, hleft.random.trans h.random, hleft.directory.trans h.directory⟩

/-! ### Inputs -/

section Inputs

variable [Element α] {room : Room σ}

/-- An input is generated in both checks or in neither, and the files stay accounted for. -/
theorem Sound.build (h : course.Sound before room) (source : RandomSource σ α) (shape : Shape)
    (fill : Fill) :
    (∃ e built room',
        Backend.files.build source shape fill ⟨course.random, course.now.directory⟩ =
          (.error e, built) ∧
        Backend.files.build source shape fill room = (.error e, room') ∧
        (course.refuse built).Sound before room') ∨
      ∃ tensor built room',
        Backend.files.build source shape fill ⟨course.random, course.now.directory⟩ =
          (.ok tensor, built) ∧
        Backend.files.build source shape fill room = (.ok tensor, room') ∧
        (course.receive tensor built).Sound before room' := by
  have hrandom : (⟨course.random, course.now.directory⟩ : Room σ).random = room.random := h.random
  obtain ⟨hresult, hdrawn, halike⟩ :=
    Backend.build_files_alike source shape fill hrandom h.directory
  cases hbuild' : Backend.files.build source shape fill room with
  | mk result room' =>
  obtain ⟨e, built, hbuild, hfiles, hnext⟩ | ⟨tensor, built, hbuild, hgains⟩ :=
    Backend.build_files_cases source shape fill ⟨course.random, course.now.directory⟩
  · rw [hbuild, hbuild'] at hresult hdrawn halike
    obtain rfl : .error e = result := hresult
    exact .inl ⟨e, built, room', hbuild, rfl,
      h.accounted.go (h.accounted.now.refuse hfiles hnext), hdrawn, halike⟩
  · rw [hbuild, hbuild'] at hresult hdrawn halike
    obtain rfl : .ok tensor = result := hresult
    exact .inr ⟨tensor, built, room', hbuild, rfl,
      h.accounted.go (h.accounted.now.receive hgains), hdrawn, halike⟩

/-- Generating the inputs goes alike in both checks. If it fails, no input is held any more. -/
theorem Sound.buildInputs (h : course.Sound before room) (source : RandomSource σ α) (fill : Fill)
    (binding : Binding) (formulas : List TensorFormula) :
    (∃ e left room', Course.buildInputs source fill binding formulas course = (.error e, left) ∧
        ShapeAssert.buildInputs .files source fill binding formulas room = (.error e, room') ∧
        left.Sound before room' ∧ left.own = course.own ∧
        left.now.held = course.now.held.filter fun entry => !(entry.1 == .input)) ∨
      ∃ inputs left room', Course.buildInputs source fill binding formulas course = (.ok inputs, left) ∧
        ShapeAssert.buildInputs .files source fill binding formulas room = (.ok inputs, room') ∧
        left.Sound before room' ∧ left.own = course.own ∧
        left.now.held = course.now.held ++ inputs.map (Holder.input, ·) := by
  induction formulas generalizing course room with
  | nil => exact .inr ⟨[], course, room, rfl, rfl, h, rfl, (List.append_nil _).symm⟩
  | cons formula formulas ih =>
      rw [Course.buildInputs, ShapeAssert.buildInputs]
      cases formula.shape binding with
      | error e =>
          have hleft := released_release (· == .input) course
          exact .inl ⟨e, _, room, rfl, rfl, h.release _, hleft.own, hleft.held⟩
      | ok shape =>
          dsimp only
          obtain ⟨e, built, room₁, hbuild, hbuild', hsound⟩ |
            ⟨tensor, built, room₁, hbuild, hbuild', hsound⟩ := h.build source shape fill
          · rw [hbuild, hbuild']
            have hleft := released_release (· == .input) (course.refuse built)
            exact .inl ⟨e, _, room₁, rfl, rfl, hsound.release _, hleft.own, hleft.held⟩
          · rw [hbuild, hbuild']
            dsimp only
            obtain ⟨e, left, room₂, hrest, hrest', hleft, hown, hheld⟩ |
              ⟨inputs, left, room₂, hrest, hrest', hleft, hown, hheld⟩ := ih hsound
            · rw [hrest, hrest']
              refine .inl ⟨e, left, _, rfl, rfl, ⟨hleft.accounted, hleft.random, ?_⟩, hown, ?_⟩
              · exact hleft.directory.trans (room₂.directory.alike_release tensor.storage).symm
              · rw [hheld]
                change (course.now.held ++ [(Holder.input, tensor)]).filter _ = _
                rw [List.filter_append]
                exact List.append_nil _
            · rw [hrest, hrest']
              refine .inr ⟨tensor :: inputs, left, room₂, rfl, rfl, hleft, hown, ?_⟩
              rw [hheld]
              exact List.append_assoc ..

end Inputs

/-! ### Calls -/

theorem Sound.take {room : Room σ} (h : course.Sound before room)
    {entries : List (Holder × Tensor MappedStorage α)}
    (hentries : ∀ entry ∈ entries, entry.2.file? = none ∨
      ∃ origin ∈ course.now.held, entry.2.storage = origin.2.storage) :
    (course.take entries).Sound before room :=
  ⟨h.accounted.go (h.accounted.now.take hentries), h.random, h.directory⟩

/-- What a name stands for in a call is held, by the function or as an input. -/
theorem exists_held_of_lookup {inputs : List (Tensor MappedStorage α)}
    (hinputs : ∀ tensor ∈ inputs, (Holder.input, tensor) ∈ course.now.held) {reference : String}
    {tensor : Tensor MappedStorage α}
    (h : (course.now.names ++ Routine.nameInputs inputs).lookup reference = some tensor) :
    ∃ origin ∈ course.now.held, tensor.storage = origin.2.storage := by
  obtain ⟨front, back, hsplit, -⟩ := List.lookup_eq_some_iff.1 h
  have hmem : (reference, tensor) ∈ course.now.names ++ Routine.nameInputs inputs := by
    rw [hsplit]
    exact List.mem_append_right _ List.mem_cons_self
  obtain hname | hinput := List.mem_append.1 hmem
  · exact ⟨_, mem_held_of_mem_heldNames hname, rfl⟩
  · obtain ⟨⟨tensor', number⟩, hzip, heq⟩ := List.mem_map.1 hinput
    obtain ⟨-, rfl⟩ := Prod.mk.inj heq
    exact ⟨_, hinputs tensor' (List.fst_mem_of_mem_zipIdx hzip), rfl⟩

end Course

section Calls

variable [Element α] {before : Directory} {room : Room σ} {inputs : List (Tensor MappedStorage α)}

/-- The result of a step may be taken: it has no file, or shares that of a tensor that is held. -/
theorem Step.takes {course : Course σ κ α}
    (hinputs : ∀ tensor ∈ inputs, (Holder.input, tensor) ∈ course.now.held)
    {source : RandomSource τ α} {clientRoom : Room τ} {step : Step α} {tensor : Tensor MappedStorage α}
    (h : (step.run .mapped source (course.now.names ++ Routine.nameInputs inputs) clientRoom).1 =
      .ok tensor) :
    tensor.file? = none ∨ ∃ origin ∈ course.now.held, tensor.storage = origin.2.storage := by
  cases step with
  | build shape fill =>
      exact .inl ((Backend.fileless_build_mapped source shape fill clientRoom).of_ok
        (mapError_eq_ok.1 h))
  | compute operation =>
      cases hshared : operation.shared? with
      | none => exact .inl (operation.file?_of_not_shared hshared h)
      | some x =>
          obtain ⟨named, hnamed, hstorage⟩ := operation.storage_of_shared hshared h
          obtain ⟨origin, horigin, hsame⟩ := Course.exists_held_of_lookup hinputs hnamed
          exact .inr ⟨origin, horigin, hstorage.trans hsame⟩
  | fail failure => cases h

namespace Client

omit [Element α] in
theorem exists_lookup_of_returned {names : Names MappedStorage α}
    {result : Except ε (List String)} {tensor : Tensor MappedStorage α}
    (h : tensor ∈ (returned names result).toOption.getD []) :
    ∃ output, names.lookup output = some tensor := by
  cases result with
  | error cause => cases h
  | ok outputs =>
      obtain ⟨output, -, houtput⟩ := List.mem_filterMap.1 h
      exact ⟨output, houtput⟩

/-- A call goes alike in both checks, and the files stay accounted for. By induction on what the function
does: its tensors are the same after each step. -/
theorem play_eq_run (client : Client κ ε α) (source : RandomSource τ α) (clientRoom : Room τ)
    {course : Course σ (κ × Room τ) α} (h : course.Sound before room)
    (hinputs : ∀ tensor ∈ inputs, (Holder.input, tensor) ∈ course.now.held) :
    (client.play source inputs clientRoom course).1 =
        (client.run .mapped source inputs course.now.names clientRoom).1 ∧
      (client.play source inputs clientRoom course).2.memory =
        (client.run .mapped source inputs course.now.names clientRoom).2 ∧
      (client.play source inputs clientRoom course).2.Sound before room := by
  induction client generalizing clientRoom course with
  | finish result kept own =>
      rw [play, run]
      dsimp only
      generalize hhanded : course.take (((returned (course.now.names ++ Routine.nameInputs inputs)
        result).toOption.getD []).map (Holder.output, ·)) = handed
      -- what is returned is taken before anything is given up, so it is over storages still held
      have hsound : handed.Sound before room := by
        rw [← hhanded]
        refine h.take fun entry hentry => .inr ?_
        obtain ⟨tensor, htensor, rfl⟩ := List.mem_map.1 hentry
        obtain ⟨output, houtput⟩ := exists_lookup_of_returned htensor
        exact Course.exists_held_of_lookup hinputs houtput
      have hnames : handed.now.names = course.now.names := by
        rw [← hhanded]
        change heldNames (_ ++ course.now.held) = _
        rw [heldNames_append, heldNames_map .output (by simp)]
        rfl
      have hleft := Course.released_release (Holder.isName (!kept.contains ·)) handed
      have hkept := hsound.release (Holder.isName (!kept.contains ·))
      have hown : (handed.release (Holder.isName (!kept.contains ·))).now.names =
          course.now.names.filter (kept.contains ·.1) := by
        rw [← hnames]
        refine hleft.names.trans (List.filter_congr fun entry _ => ?_)
        exact Bool.not_not _
      exact ⟨rfl, congrArg (Memory.mk own · clientRoom) hown, hkept.accounted, hkept.random,
        hkept.directory⟩
  | take name step next ih =>
      rw [play, run]
      cases hstep : step.run .mapped source (course.now.names ++ Routine.nameInputs inputs)
        clientRoom with
      | mk result clientRoom' =>
      cases result with
      | error failure => exact ih _ clientRoom' h hinputs
      | ok tensor =>
          dsimp only
          have htake : (course.take [(.name name, tensor)]).Sound before room := by
            refine h.take fun entry hentry => ?_
            obtain rfl := List.mem_singleton.1 hentry
            exact Step.takes hinputs (congrArg Prod.fst hstep)
          exact ih _ clientRoom' htake fun tensor htensor =>
            List.mem_cons_of_mem _ (hinputs tensor htensor)
  | drop name next ih =>
      rw [play, run]
      have hleft := Course.released_release (Holder.isName (· == name)) course
      have hnames : (course.release (Holder.isName (· == name))).now.names =
          course.now.names.filter (·.1 != name) := hleft.names
      rw [← hnames]
      refine ih clientRoom (h.release _) fun tensor htensor => ?_
      rw [hleft.held]
      exact List.mem_filter.2 ⟨hinputs tensor htensor, rfl⟩

end Client

end Calls

/-! ### Trials -/

/-- What a call is about, apart from the directory at that moment. -/
def Call.content {S : Type → Type} (call : Call ε S α) :
    Assignment × List (Tensor S α) × Except ε (Outputs (Tensor S α)) :=
  (call.assignment, call.inputs, call.result)

/-- Between two trials only the function holds tensors, the same ones as in the other check. -/
structure Course.Rests (before : Directory) (course : Course σ (κ × Room τ) α)
    (session : Session σ (Memory κ τ MappedStorage α)) : Prop where
  sound : course.Sound before session.room
  callable : course.memory = session.callable
  held : ∀ entry ∈ course.now.held, ∃ reference, entry.1 = .name reference

/-- Two checks ended alike after the same calls. -/
structure Ledger.Mirrors (before : Directory) (ledger : Ledger σ (κ × Room τ) ε α)
    (report : Report σ (Memory κ τ MappedStorage α) ε MappedStorage α) : Prop where
  outcome : ledger.outcome = report.outcome
  calls : ledger.calls.map Call.content = report.calls.map Call.content
  course : ledger.course.Rests before report.session

section Trials

variable {before : Directory} {course : Course σ (κ × Room τ) α}
  {session : Session σ (Memory κ τ MappedStorage α)}

theorem Course.Rests.filter_held (h : course.Rests before session) :
    (course.now.held.filter fun entry => !(entry.1 == .input)) = course.now.held := by
  refine List.filter_eq_self.2 fun entry hentry => ?_
  obtain ⟨reference, hname⟩ := h.held entry hentry
  rw [hname]
  rfl

/-- Once the check has given up what was returned and the inputs, only the function holds tensors. -/
theorem Course.Sound.rests {room : Room σ} (h : course.Sound before room)
    {memory : Memory κ τ MappedStorage α} (hmemory : course.memory = memory) :
    ((course.release (· == .output)).release (· == .input)).Rests before
      ⟨room, memory⟩ := by
  have houtputs := released_release (· == .output) course
  have hinputs := released_release (· == .input) (course.release (· == .output))
  refine ⟨(h.release _).release _, ?_, fun entry hentry => ?_⟩
  · rw [← hmemory, Course.memory, hinputs.own, houtputs.own, hinputs.names, houtputs.names,
      List.filter_filter]
    exact congrArg (Memory.mk _ · _) (List.filter_eq_self.2 fun _ _ => rfl)
  · obtain ⟨holder, tensor⟩ := entry
    rw [hinputs.held, houtputs.held] at hentry
    cases holder with
    | name reference => exact ⟨reference, rfl⟩
    | input => cases (List.mem_filter.1 hentry).2
    | output => cases (List.mem_filter.1 (List.mem_filter.1 hentry).1).2

variable [Element α]

theorem Course.Rests.trial (h : course.Rests before session) (config : Config)
    (source : RandomSource σ α) (pattern : Pattern) (constraints : Constraints)
    (client : κ → List (Tensor HeapStorage α) → Client κ ε α) (clientSource : RandomSource τ α) :
    (Course.trial config source pattern constraints client clientSource course).Mirrors before
      (ShapeAssert.trial .files config source pattern constraints
        (Client.callable client .mapped clientSource) session) := by
  rw [Course.trial, ShapeAssert.trial, h.sound.random]
  cases Assignment.draw source pattern.inputs constraints config.bound session.room.random with
  | error e => exact ⟨rfl, rfl, h⟩
  | ok drawn =>
      have hdrawn : ({ course with random := drawn.2 } : Course σ (κ × Room τ) α).Sound before
          ⟨drawn.2, session.room.directory⟩ := ⟨h.sound.accounted, rfl, h.sound.directory⟩
      dsimp only
      obtain ⟨e, left, room, hbuild, hbuild', hsound, hown, hheld⟩ |
        ⟨inputs, left, room, hbuild, hbuild', hsound, hown, hheld⟩ :=
        hdrawn.buildInputs source config.fill drawn.1.lookup pattern.inputs.tensors
      · rw [hbuild, hbuild']
        have hsame : left.now.held = course.now.held := hheld.trans h.filter_held
        refine ⟨rfl, rfl, hsound, ?_, ?_⟩
        · rw [← h.callable, Course.memory, hown, Moment.names, hsame]
          rfl
        · rw [hsame]
          exact h.held
      · rw [hbuild, hbuild']
        -- the inputs are held by the check, so the function starts with what it was left with
        have hmemory : left.memory = session.callable := by
          rw [← h.callable, Course.memory, hown, Moment.names, hheld, heldNames_append,
            heldNames_map .input (by simp), List.append_nil]
          rfl
        have hinputs : ∀ tensor ∈ inputs, (Holder.input, tensor) ∈ left.now.held := by
          intro tensor htensor
          rw [hheld]
          exact List.mem_append_right _ (List.mem_map_of_mem htensor)
        obtain ⟨hresult, hplayed, hfinished⟩ :=
          (client left.own.1 (inputs.map Tensor.onHeap)).play_eq_run clientSource left.own.2 hsound
            hinputs
        have hcallable : Client.callable client .mapped clientSource session.callable inputs =
            (client left.own.1 (inputs.map Tensor.onHeap)).run .mapped clientSource inputs
              left.now.names left.own.2 := by
          rw [← hmemory]
          rfl
        obtain ⟨hrandom, hreleased⟩ := alike_foldl_release inputs room
        dsimp only
        rw [hcallable, ← hresult]
        refine ⟨rfl, rfl, Course.Sound.rests ⟨hfinished.accounted, ?_, ?_⟩ hplayed⟩
        · exact hfinished.random.trans hrandom.symm
        · exact hfinished.directory.trans hreleased.symm

/-- The trials of both checks pass or fail together, so both stop at the same one. -/
theorem Course.Rests.trials (h : course.Rests before session) (config : Config)
    (source : RandomSource σ α) (pattern : Pattern) (constraints : Constraints)
    (client : κ → List (Tensor HeapStorage α) → Client κ ε α) (clientSource : RandomSource τ α)
    (depth : Nat) :
    (Course.trials config source pattern constraints client clientSource depth course).Mirrors before
      (ShapeAssert.trials .files config source pattern constraints
        (Client.callable client .mapped clientSource) depth session) := by
  induction depth generalizing course session with
  | zero => exact ⟨rfl, rfl, h⟩
  | succ depth ih =>
      have hfirst := h.trial config source pattern constraints client clientSource
      rw [Course.trials, ShapeAssert.trials]
      dsimp only
      rw [hfirst.outcome]
      cases (ShapeAssert.trial .files config source pattern constraints
        (Client.callable client .mapped clientSource) session).outcome with
      | error failure => exact hfirst
      | ok _ =>
          have hrest := ih hfirst.course
          refine ⟨hrest.outcome, ?_, hrest.course⟩
          change List.map _ (_ ++ _) = List.map _ (_ ++ _)
          rw [List.map_append, List.map_append, hfirst.calls, hrest.calls]

end Trials

/-! ### Checks -/

theorem mem_heldNames_of_mem_held {held : List (Holder × Tensor MappedStorage α)} {reference : String}
    {tensor : Tensor MappedStorage α} (h : (.name reference, tensor) ∈ held) :
    (reference, tensor) ∈ heldNames held :=
  List.mem_filterMap.2 ⟨_, h, rfl⟩

theorem heldNames_names (names : Names MappedStorage α) :
    heldNames (names.map fun entry => (.name entry.1, entry.2)) = names := by
  induction names with
  | nil => rfl
  | cons entry names ih => exact congrArg (entry :: ·) ih

theorem Names.file?_of_mem_anonymous {names : Names HeapStorage α}
    {entry : String × Tensor MappedStorage α} (h : entry ∈ names.anonymous) : entry.2.file? = none := by
  obtain ⟨named, -, rfl⟩ := List.mem_map.1 h
  rfl

/-- If between two trials no tensor that the function has is over a file, the files are the old ones. -/
theorem Course.Rests.files_eq {before : Directory} {course : Course σ (κ × Room τ) α}
    {session : Session σ (Memory κ τ MappedStorage α)} (h : course.Rests before session)
    (hnames : ∀ entry ∈ course.now.names, entry.2.file? = none) :
    course.now.directory.files = before.files := by
  have hnone : ∀ name, name ∉ course.now.heldFiles := by
    intro name hname
    obtain ⟨⟨holder, tensor⟩, hentry, hfile⟩ := Moment.mem_heldFiles.1 hname
    obtain ⟨reference, rfl⟩ : ∃ reference, holder = .name reference := h.held _ hentry
    rw [hnames _ (mem_heldNames_of_mem_held hentry)] at hfile
    cases hfile
  rw [h.sound.accounted.now.files]
  exact congrArg (· ++ before.files)
    (List.filter_eq_nil_iff.2 fun name _ => by simpa using hnone name)

variable [Element α]

theorem Course.check_mirrors (config : Config) (source : RandomSource σ α) (pattern : Pattern)
    (constraints : Constraints) (client : κ → List (Tensor HeapStorage α) → Client κ ε α)
    (clientSource : RandomSource τ α) (room : Room σ) (own : κ) (names : Names HeapStorage α)
    (clientRoom : Room τ) :
    (Course.check config source pattern constraints client clientSource room
        ⟨own, names.anonymous, clientRoom⟩).Mirrors room.directory
      (Checker.tryCheck ⟨.files, config⟩ source pattern constraints
        (Client.callable client .mapped clientSource) ⟨room, own, names.anonymous, clientRoom⟩) := by
  refine Course.Rests.trials ⟨⟨?_, rfl, rfl, rfl⟩, congrArg (Memory.mk own · clientRoom) ?_, ?_⟩ config
    source pattern constraints client clientSource config.depth
  · intro moment hmoment
    obtain rfl := List.mem_singleton.1 hmoment
    exact Moment.accounted_start room.directory fun _ => Names.file?_of_mem_anonymous
  · exact heldNames_names _
  · intro entry hentry
    obtain ⟨named, -, rfl⟩ := List.mem_map.1 hentry
    exact ⟨named.1, rfl⟩

/-- A check over files of a function that may keep tensors, may generate some without files, and may have
such tensors before. It goes like any check of this function. At each of its moments the files in the
directory are those that were there before and one for each storage that was built, has elements and is
still held; an empty input has no file. Clones and reshaped tensors share the storage of the tensor they
come from, and no other result of an operation has a file. When the check has returned, wherever it
stopped, only the function holds tensors, and if none of those it keeps is over a file, the directory
holds the files it held before. -/
theorem file_backed_check_cleans_up (config : Config) (source : RandomSource σ α) (pattern : Pattern)
    (constraints : Constraints) (client : κ → List (Tensor HeapStorage α) → Client κ ε α)
    (clientSource : RandomSource τ α) (room : Room σ) (own : κ) (names : Names HeapStorage α)
    (clientRoom : Room τ) :
    let memory : Memory κ τ MappedStorage α := ⟨own, names.anonymous, clientRoom⟩
    let ledger := Course.check config source pattern constraints client clientSource room memory
    let report := Checker.tryCheck ⟨.files, config⟩ source pattern constraints
      (Client.callable client .mapped clientSource) ⟨room, memory⟩
    (ledger.outcome = report.outcome ∧
      ledger.calls.map Call.content = report.calls.map Call.content ∧
      ledger.course.memory = report.session.callable) ∧
    (∀ moment ∈ ledger.course.moments, moment.Accounted room.directory ∧
      ∀ name, name ∈ moment.directory.files ↔ name ∈ room.directory.files ∨
        ∃ storage ∈ moment.built, 0 < storage.elements.size ∧
          (∃ entry ∈ moment.held, entry.2.storage = storage) ∧ storage.file? = some name) ∧
    (∀ (known : Names MappedStorage α) (operation : Operation α) (tensor : Tensor MappedStorage α),
      operation.run known = .ok tensor →
        (∀ x, operation.shared? = some x →
          ∃ origin, known.lookup x = some origin ∧ tensor.storage = origin.storage) ∧
        (operation.shared? = none → tensor.file? = none)) ∧
    (∀ entry ∈ ledger.course.now.held, ∃ reference, entry.1 = .name reference) ∧
    ((∀ entry ∈ report.session.callable.names, entry.2.file? = none) →
      ledger.course.now.directory = report.session.room.directory ∧
        report.session.room.directory.files = room.directory.files) := by
  intro memory ledger report
  have hmirrors := Course.check_mirrors config source pattern constraints client clientSource room own
    names clientRoom
  have hrests := hmirrors.course
  refine ⟨⟨hmirrors.outcome, hmirrors.calls, hrests.callable⟩, ?_, ?_, hrests.held, ?_⟩
  · intro moment hmoment
    have haccounted := hrests.sound.accounted moment hmoment
    exact ⟨haccounted, fun _ => haccounted.mem_files_iff⟩
  · intro known operation tensor hrun
    exact ⟨fun x hshared => operation.storage_of_shared hshared hrun,
      fun hshared => operation.file?_of_not_shared hshared hrun⟩
  · intro hkept
    have hnames : ledger.course.now.names = report.session.callable.names :=
      congrArg Memory.names hrests.callable
    have hfiles : ledger.course.now.directory.files = room.directory.files := by
      refine hrests.files_eq fun entry hentry => hkept entry ?_
      rwa [← hnames]
    have hreport : report.session.room.directory.files = room.directory.files :=
      (files_trials config source pattern constraints (Client.callable client .mapped clientSource)
        config.depth _).1
    refine ⟨Directory.eq_of_fields (hfiles.trans hreport.symm) ?_ ?_, hreport⟩
    · exact hrests.sound.directory.next
    · exact hrests.sound.directory.faults

/-- The function keeps a reshaped copy of the first input, and so the file 1 stays. In the second trial
the second input cannot be mapped, and the file 3 of the first one goes. -/
example :
    let first : TensorFormula := ⟨.ofList [.letter 'a'], "a"⟩
    let pattern : Pattern := ⟨"a,a->a", ⟨"a,a", [first, first]⟩, ⟨"a", [first]⟩⟩
    let source := RandomSource.scripted (0 : Float)
    let client (_ : Unit) (_ : List (Tensor HeapStorage Float)) : Client Unit String Float :=
      .take "copy" (.compute (.clone "x0")) fun _ =>
        .take "column" (.compute (.reshape "copy" [5, 1])) fun _ => .finish (.ok ["copy"]) ["column"] ()
    let directory : Directory :=
      ⟨[0], 1, fun name => if name = 4 then some .mapping else none, by decide⟩
    let ledger := Course.check { fill := .ones, bound := 6, depth := 2 } source pattern ∅ client source
      ⟨[], directory⟩ ⟨(), [], ⟨[], .empty⟩⟩
    Pattern.parse "a, a -> a" = .ok pattern ∧ ledger.outcome.isOk = false ∧
      ledger.course.moments.reverse.map (·.directory.files) =
        [[0], [1, 0], [2, 1, 0], [2, 1, 0], [2, 1, 0], [2, 1, 0], [2, 1, 0], [2, 1, 0], [2, 1, 0],
          [1, 0], [3, 1, 0], [3, 1, 0], [1, 0]] := by
  intro first pattern source client directory ledger
  exact ⟨by rfl, by decide +kernel, by decide +kernel⟩

end ShapeAssert
