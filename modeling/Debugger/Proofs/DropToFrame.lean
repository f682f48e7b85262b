import Debugger.Proofs.OwnLandings

/-! # Where a simulated drop to a frame ends

When the machine pops no frames, the thread is made to return from the frames above the wanted one, is then made to
enter that frame again, and steps into its first line.
-/

namespace Debugger

/-- The legs of a drop to the frame at place `index`: out of each frame above it, back to its start, and into it. -/
def dropLegs (id : ThreadId) (index : Nat) : List Leg :=
  List.replicate index ⟨⟨id, .out, some 1, [], .thread⟩, true, false⟩ ++
    [⟨⟨id, .reenter, some 1, [], .thread⟩, true, false⟩, ⟨⟨id, .into, some 1, [], .thread⟩, false, false⟩]

theorem length_dropLegs (id : ThreadId) (index : Nat) : (dropLegs id index).length = index + 2 := by
  simp [dropLegs]

/-- The stack after the drop: the frames from place `index` on, the first of them past its first instruction. -/
def dropped (index : Nat) (stack : List RemoteFrame) : List RemoteFrame :=
  Machine.advanceTop (Machine.restartTop (stack.drop index))

namespace Machine

theorem length_dropped (index : Nat) (stack : List RemoteFrame) :
    (dropped index stack).length = stack.length - index := by
  rw [dropped, ← List.length_drop]
  cases stack.drop index <;> rfl

theorem methods_dropped (index : Nat) (stack : List RemoteFrame) :
    (dropped index stack).map (·.location.method) = (stack.drop index).map (·.location.method) := by
  rw [dropped]
  cases stack.drop index <;> rfl

theorem tail_dropped (index : Nat) (stack : List RemoteFrame) :
    (dropped index stack).tail = stack.drop (index + 1) := by
  rw [dropped, ← List.tail_drop]
  cases stack.drop index <;> rfl

end Machine

variable {s s₁ : System (Faulty Machine)} {t : ThreadRef} {frames : List FrameRef} {frame : FrameRef}
  {top : RemoteFrame} {below stack : List RemoteFrame} {f : Faulty Machine} {id : ThreadId} {st : Stepping}

/-- The counter of a drop runs down past zero, and the drop ends below it. -/
theorem judge_drop {n : Int} (drop : st.kind = .dropToFrame n) :
    st.judge top below = (.dropToFrame (n - 1), if n - 1 ≥ -1 then .continue else .finish) := by
  rw [Stepping.judge, Stepping.land, drop]
  simp

theorem leg_drop {n : Int} (drop : st.kind = .dropToFrame n) :
    st.leg id = ⟨⟨id, (StepKind.dropToFrame n).depth, some 1, [], .thread⟩, decide (n ≥ 0), false⟩ := by
  rw [Stepping.leg, Stepping.next, Stepping.nextRequest, Stepping.filtering, Stepping.needsFrameCount, drop]
  rfl

/-- What a drop needs of the machine, where the thread is. -/
structure Droppable (f : Faulty Machine) (id : ThreadId) (stack : List RemoteFrame) : Prop where
  smooth : f.Smooth
  full : f.bare = false
  undeferred : f.inner.deferred.contains id = false
  script : f.inner.script id = []
  stands : f.inner.Stands id stack

theorem Droppable.unscripted (h : Droppable f id stack) : Unscripted f id stack :=
  ⟨h.smooth, h.undeferred, h.script, h.stands⟩

theorem Droppable.of_unscripted (h : Unscripted f id stack) (full : f.bare = false) : Droppable f id stack :=
  ⟨h.smooth, full, h.undeferred, h.script, h.stands⟩

theorem Droppable.turns {f' : Faulty Machine} (h : Droppable f id stack) (turn : f.Turns f.inner f') :
    Droppable f' id stack :=
  .of_unscripted (h.unscripted.turns turn) (turn.bare.trans h.full)

/-- The next leg of the drop, if there is a frame for it to land on. -/
theorem Droppable.runs (h : Droppable f id stack) (l : Leg) (is : l.request.thread = id)
    (lands : Machine.landing l.request.depth (l.forced || f.inner.forcedReturns.contains id) (f.inner.reentry.find? id)
      f.inner.nextFrame stack = top :: below) :
    ∃ f₁ f₂, l.Runs f top below f₁ f₂ ∧ Droppable f₂ id (top :: below) := by
  obtain ⟨f₁, f₂, runs, after⟩ := h.unscripted.runs l is (fun _ => h.full) lands
  exact ⟨f₁, f₂, runs, .of_unscripted after (runs.bare_eq.trans h.full)⟩

/-- Once it is on top, the frame is entered again, and a step into its first line ends the drop. -/
theorem itinerary_reenter (h : Droppable f id (top :: below)) (drop : st.kind = .dropToFrame 0) :
    ∃ f', Itinerary id st f (dropLegs id 0) f' (dropped 0 (top :: below)) := by
  obtain ⟨again, restarts⟩ : ∃ again, Machine.restartTop (top :: below) = again :: below := ⟨_, rfl⟩
  obtain ⟨entered, advances⟩ : ∃ entered, Machine.advanceTop (again :: below) = entered :: below := ⟨_, rfl⟩
  have leg : st.leg id = ⟨⟨id, .reenter, some 1, [], .thread⟩, true, false⟩ := leg_drop drop
  have judged : st.judge again below = (.dropToFrame (-1), .continue) := judge_drop drop
  obtain ⟨f₁, f₂, runs, after⟩ : ∃ f₁ f₂, (st.leg id).Runs f again below f₁ f₂ ∧ Droppable f₂ id (again :: below) :=
    h.runs (st.leg id) rfl (by rw [leg]; exact restarts)
  -- The machine has forgotten that a return was forced, so the last leg goes into the frame.
  have cleared : f₂.inner.forcedReturns.contains id = false ∧ f₂.inner.reentry.find? id = none := runs.cleared
  let last : Stepping := { st with kind := .dropToFrame (-1), request := f₂.inner.nextRequest }
  have below_zero : last.kind = .dropToFrame (-1) := rfl
  have leg' : last.leg id = ⟨⟨id, .into, some 1, [], .thread⟩, false, false⟩ := leg_drop below_zero
  obtain ⟨f₃, f₄, runs', -⟩ : ∃ f₃ f₄, (last.leg id).Runs f₂ entered below f₃ f₄ ∧ Droppable f₄ id (entered :: below) :=
    after.runs (last.leg id) rfl (by rw [leg', cleared.1, cleared.2]; exact advances)
  have ends : (last.judge entered below).2 = .finish := congrArg Prod.snd (judge_drop below_zero)
  have whole := Itinerary.more runs judged (.last runs' ends)
  rw [leg, leg', ← advances, ← restarts] at whole
  exact ⟨f₄, whole⟩

/-- A drop to the frame at a place that there is takes its legs, down to the end of its counter. -/
theorem itinerary_drop {index : Nat} (h : Droppable f id stack) (inside : index < stack.length)
    (drop : st.kind = .dropToFrame index) :
    ∃ f', Itinerary id st f (dropLegs id index) f' (dropped index stack) := by
  induction index generalizing f st stack with
  | zero =>
    match stack, inside with
    | top :: below, _ => exact itinerary_reenter h drop
  | succ index ih =>
    match stack, inside with
    | [top], inside => simp at inside
    | top :: next :: below, inside =>
      have leg : st.leg id = ⟨⟨id, .out, some 1, [], .thread⟩, true, false⟩ := by
        rw [leg_drop drop, StepKind.depth, if_pos (by omega), decide_eq_true (by omega)]
      have judged : st.judge next below = (.dropToFrame index, .continue) := by
        rw [judge_drop drop, if_pos (by omega)]
        simp
      obtain ⟨f₁, f₂, runs, after⟩ : ∃ f₁ f₂, (st.leg id).Runs f next below f₁ f₂ ∧ Droppable f₂ id (next :: below) :=
        h.runs (st.leg id) rfl (by rw [leg]; rfl)
      obtain ⟨f', rest⟩ : ∃ f', Itinerary id { st with kind := .dropToFrame index, request := f₂.inner.nextRequest } f₂
          (dropLegs id index) f' (dropped index (next :: below)) := ih after (by simpa using inside) rfl
      have whole := Itinerary.more runs judged rest
      rw [leg] at whole
      exact ⟨f', whole⟩

/-- The operation looks whether the thread can step and where the frame is, and then the drop starts. -/
theorem dropToFrame_performs {index : Nat} (reachable : Reachable scripted s) (alive : s.targetAlive)
    (poised : s.Poised t frames s₁) (simulated : Session.canPopFrames s₁.session = false)
    (wrapper : frames[index]? = some frame) :
    (Operation.dropToFrame t frame).perform s = stateAfter (startStep t (.dropToFrame index) s.filters false) s₁ := by
  have known (s : System (Faulty Machine)) : (get : Client (Faulty Machine) _) s = .ok s s := rfl
  rw [Operation.perform, dropToFrame, stateAfter_bind_ok (needTarget_alive alive), stateAfter_bind_ok (known s),
    poised.goesAhead, stateAfter_bind_ok (poised.locates reachable.occurs wrapper)]
  dsimp only
  rw [stateAfter_bind_ok (known s₁), simulated]
  rfl

/-- A simulated drop to a frame returns from the frames above it one by one, enters it again and steps into its first
line.  In a target that lives and has nothing left to handle, with no call to fail, these are the legs that the
machine is asked for, each finished before the next is begun; the start and the end are announced, each once; and the
thread is left suspended in the frame, with the frames below as they were.  No filters make a difference. -/
theorem dropToFrame_reenters {index : Nat} (reachable : Reachable scripted s) (settled : s.UpToDate)
    (droppable : Droppable s.session (s.thread t).id stack) (simulated : Session.canPopFrames s.session = false)
    (can : (canStep t s).1) (shown : stackFrames t s = .ok frames s₁) (wrapper : frames[index]? = some frame)
    (inside : index < stack.length) (few : s.session.inner.requestsMade + (index + 2) < UInt32.size) :
    let legs := dropLegs (s.thread t).id index
    ∀ meanwhile, (((Operation.dropToFrame t frame).perform s).amid meanwhile).session =
        stateAfter (Leg.runFirst meanwhile.length legs) (canStep t s).2.session ∧
      (legs.length ≤ meanwhile.length → ∃ landed,
        s.Stepped (((Operation.dropToFrame t frame).perform s).amid meanwhile) t (.dropToFrame index) legs landed ∧
        landed.length = stack.length - index ∧
        landed.map (·.location.method) = (stack.drop index).map (·.location.method) ∧
        landed.tail = stack.drop (index + 1)) := by
  obtain ⟨frames', s₁', poised⟩ := canStep_poised can
  cases shown.symm.trans poised.shown
  obtain ⟨start, deeper, shows⟩ := poised.shows reachable.occurs
  obtain ⟨-, -, turn⟩ := stackFrames_leaves droppable.smooth poised.suspended shown
  have simulated₁ : Session.canPopFrames s₁.session = false := by
    change (!s₁.session.bare && s₁.session.inner.popsFrames) = false
    rw [turn.bare, turn.inner]
    exact simulated
  have performs := dropToFrame_performs reachable settled.alive poised simulated₁ wrapper
  obtain ⟨f', itinerary⟩ : ∃ f', Itinerary (s.thread t).id (.start (.dropToFrame index) s.filters false
      s₁.session.inner.nextRequest start deeper) s₁.session (dropLegs (s.thread t).id index) f' (dropped index stack) :=
    itinerary_drop (droppable.turns turn) inside rfl
  intro legs meanwhile
  have performed : Reachable scripted ((Operation.dropToFrame t frame).perform s) := reachable.move (.operation _)
  rw [performs] at performed ⊢
  rw [poised.answer]
  obtain ⟨session, stepped⟩ := poised.stepped reachable.occurs settled droppable.smooth shows performed
    (by rwa [length_dropLegs]) itinerary meanwhile
  exact ⟨session, fun long => ⟨_, stepped long, Machine.length_dropped .., Machine.methods_dropped ..,
    Machine.tail_dropped ..⟩⟩

/-- The sample program with one suspended thread. -/
private def halted : System (Faulty Machine) := sampleSystem [.addTask (sampleTask 1)]

private theorem halted_reachable : Reachable scripted halted :=
  sampleSystem_reachable (sampleMachine_starts (by simp [Scenario.MachineCommand.SparesSteps])) (by decide +kernel)

private theorem halted_shown : ∃ s, stackFrames 0 halted = .ok [0, 1] s := shown_of_run' (by decide +kernel)

/-- A drop to the caller returns from the one frame above it and ends in the caller. -/
theorem dropToFrame_reenters_caller :
    ∃ landed, halted.Stepped (((Operation.dropToFrame 0 1).perform halted).amid [none, none, none]) 0 (.dropToFrame 1)
        (dropLegs 1 1) landed ∧ landed.map (·.location.method.name) = ["main"] := by
  have settled : halted.UpToDate := ⟨⟨by decide +kernel, by decide +kernel, by decide +kernel, by decide +kernel,
    by decide +kernel, .inl (by decide +kernel)⟩, by decide +kernel⟩
  have id : (halted.thread 0).id = 1 := by decide +kernel
  have droppable : Droppable halted.session (halted.thread 0).id (sampleTask 1).frames := by
    rw [id]
    exact ⟨.of_empty (by decide +kernel) (by decide +kernel), by decide +kernel, by decide +kernel, by decide +kernel,
      sampleTask 1, by decide +kernel, rfl, rfl⟩
  obtain ⟨s₁, shown⟩ := halted_shown
  obtain ⟨-, steps⟩ := dropToFrame_reenters halted_reachable settled droppable (by decide +kernel) (by decide +kernel)
    shown (show [0, 1][1]? = some 1 from rfl) (by decide) (by decide +kernel) [none, none, none]
  rw [id] at steps
  obtain ⟨landed, stepped, -, methods, -⟩ := steps (by decide)
  refine ⟨landed, stepped, ?_⟩
  have names := congrArg (List.map Method.name) methods
  rw [List.map_map] at names
  exact names

/-- In a target that was shut down nobody hears that the thread has returned from the frame above, and the drop goes no
further. -/
theorem dropToFrame_unheard :
    let shut := Operation.shutdown.perform halted
    shut.Unheard 0 (.dropToFrame 1) (.dropToFrame 0 1) ∧ Session.canPopFrames shut.session = false ∧
      shut.session.bare = false ∧ shut.session.inner.script 1 = [] ∧ shut.shownStack 0 = (sampleTask 1).frames := by
  refine ⟨⟨halted_reachable.move (.operation .shutdown), .of_empty (by decide +kernel) (by decide +kernel),
    by decide +kernel, by decide +kernel, by decide +kernel, by decide +kernel, by decide +kernel⟩, by decide +kernel,
    by decide +kernel, by decide +kernel, by decide +kernel⟩

end Debugger
