import Debugger.Proofs.NativeDrop

/-! # What the answers of a thread foretell of its steps

A client may ask beforehand whether a thread can step, whether it can step with filters, and whether it can drop to a
frame.  The answer comes from the books and from a look at the stack.  In a target that lives, and as long as no call
fails, a step starts if the answer was yes and nothing is let run if it was no.  A drop that has the machine pop frames
takes more: the machine has to have the thread suspended, on the stack that the client was shown, and the number of the
frame has to mean that frame.
-/

namespace Debugger

variable {w : Surroundings (Faulty Machine)} {s s₁ s₂ s' : System (Faulty Machine)} {t : ThreadRef}
  {frames : List FrameRef} {frame : FrameRef} {stack : List RemoteFrame} {target : RemoteFrame} {index : Nat}

/-! ## Looks -/

/-- A thread but for what is known of its frames. -/
def Thread.beyondFrames (th : Thread) : Thread := { th with frames := [], refresh := true }

/-- The thread's stack was looked at, or not even that: what is known of its frames may be different, and nothing else
is.  How far a schedule of failures was used up does not count. -/
structure LooksOnly (t : ThreadRef) (s s' : System (Faulty Machine)) : Prop where
  machine : s'.session.inner = s.session.inner
  own : (s'.thread t).beyondFrames = (s.thread t).beyondFrames
  others : ∀ u, u ≠ t → s'.thread u = s.thread u
  size : s'.threads.size = s.threads.size
  rest : { s' with session := s.session, threads := #[], frames := #[] } = { s with threads := #[], frames := #[] }
  /-- Frames of other threads stand for what they stood for. -/
  frames : s.Tidy → s'.Tidy ∧ ∀ u, u ≠ t → ∀ g ∈ (s.thread u).frames, s'.frames[g]? = s.frames[g]?

namespace LooksOnly

instance : IsPreorder (System (Faulty Machine)) (LooksOnly t) where
  refl _ := ⟨rfl, rfl, fun _ _ => rfl, rfl, rfl, fun tidy => ⟨tidy, fun _ _ _ _ => rfl⟩⟩
  trans a b c h h' := by
    refine ⟨h'.machine.trans h.machine, h'.own.trans h.own, fun u hu => (h'.others u hu).trans (h.others u hu),
      h'.size.trans h.size, ?_, fun tidy => ?_⟩
    · have rest := congrArg (fun s : System (Faulty Machine) => { s with session := a.session }) h'.rest
      exact rest.trans h.rest
    · obtain ⟨tidy, kept⟩ := h.frames tidy
      obtain ⟨tidy, kept'⟩ := h'.frames tidy
      refine ⟨tidy, fun u hu g known => ?_⟩
      have still : g ∈ (b.thread u).frames := by rwa [h.others u hu]
      exact (kept' u hu g still).trans (kept u hu g known)

theorem id (h : LooksOnly t s s') : (s'.thread t).id = (s.thread t).id := (congrArg Thread.id h.own :)

theorem bus (h : LooksOnly t s s') : s'.bus = s.bus := (congrArg System.bus h.rest :)

theorem alive (h : LooksOnly t s s') : s'.targetAlive = s.targetAlive := (congrArg System.targetAlive h.rest :)

end LooksOnly

/-- To show a stack changes nothing in a machine. -/
private theorem frames_inner (thread : ThreadId) (f : Faulty Machine) :
    (stateAfter (Session.frames thread) f).inner = f.inner := by
  have reads : Within (fun m m' : Machine => m' = m) (Session.frames thread) := fun m =>
    (Within.bind (R := Eq) (Machine.findSuspended_within thread) (fun _ => .pure _) m).symm
  have lifts : Faulty.Lifts _ f (stateAfter (Session.frames thread) f) := Faulty.guarded_lifts reads f
  rcases lifts.inner with same | same
  · exact same
  · exact same

theorem looksOnly_session {f : Faulty Machine} (inner : f.inner = s.session.inner) :
    LooksOnly t s { s with session := f } where
  machine := inner
  own := rfl
  others _ _ := rfl
  size := rfl
  rest := rfl
  frames tidy := ⟨tidy.carry rfl fun _ => .inl rfl, fun _ _ _ _ => rfl⟩

theorem looksOnly_updateFrames (suspended : (s.thread t).isSuspended) (remote : List RemoteFrame) :
    LooksOnly t s (s.updateFrames t remote) := by
  have rest := System.updateFrames_rest s t remote
  refine ⟨(congrArg (fun s => s.session.inner) rest :), ?_, fun u hu => ?_, ?_, ?_, fun tidy => ?_⟩
  · rcases s.threads_updateFrames t remote with same | ⟨hs, mapped⟩
    · rw [System.thread_congr same]
    · rw [System.thread_congr mapped]
      exact System.mapThread_keeps (g := Thread.beyondFrames) (fun _ => by rfl) s t t
  · rcases s.threads_updateFrames t remote with same | ⟨hs, mapped⟩
    · rw [System.thread_congr same]
    · rw [System.thread_congr mapped, System.thread_mapThread_of_ne _ hu.symm]
  · rcases s.threads_updateFrames t remote with same | ⟨hs, mapped⟩
    · rw [same]
    · rw [mapped, System.size_mapThread]
  · exact congrArg (fun s' : System (Faulty Machine) => { s' with session := s.session }) rest
  · rcases tidy.looked (System.lt_size_of_suspended suspended) remote with ⟨-, -, same⟩ | looked
    · rw [same]
      exact ⟨tidy, fun _ _ _ _ => rfl⟩
    · exact ⟨tidy.looks looked, fun u hu g known => tidy.unseen looked hu known⟩

private theorem remoteFrames_looksOnly (t : ThreadRef) : Within (LooksOnly t) (remoteFrames t) :=
  .get_bind fun s => by
    apply Within.bindAt
    · rw [stateAfter_ask]
      apply looksOnly_session (frames_inner _ _)
    · intro r s' _
      split
      · exact Within.pure _ s'
      · exact Within.throw _ s'
      · exact Within.throw _ s'

theorem stackFrames_looksOnly (t : ThreadRef) : Within (LooksOnly t) (stackFrames t) :=
  .get_bind fun s => by
    by_cases suspended : (s.thread t).isSuspended
    · simp only [suspended, if_true]
      split
      · apply Within.bindAt (remoteFrames_looksOnly t s)
        intro remote s₁ told
        obtain ⟨f, -, rfl⟩ := remoteFrames_ok told
        exact looksOnly_updateFrames (s := { s with session := f }) suspended remote
      · apply refl_of
    · simp only [suspended]
      apply refl_of

theorem System.Poised.looks (poised : s.Poised t frames s₁) : LooksOnly t s s₁ :=
  stateAfter_of_ok poised.shown ▸ stackFrames_looksOnly t s

theorem canStep_looksOnly (t : ThreadRef) (s : System (Faulty Machine)) : LooksOnly t s (canStep t s).2 :=
  canStep_looking (stackFrames_looksOnly t) s

theorem canStepWithFilters_looksOnly (t : ThreadRef) (s : System (Faulty Machine)) :
    LooksOnly t s (canStepWithFilters t s).2 := canStepWithFilters_looking (stackFrames_looksOnly t) s

theorem canDropToFrame_looksOnly (t : ThreadRef) (frame : FrameRef) (s : System (Faulty Machine)) :
    LooksOnly t s (canDropToFrame t frame s).2 := canDropToFrame_looking (stackFrames_looksOnly t) frame s

/-! ## To start a step and to refrain from it -/

/-- The threads for which step requests were made, oldest first. -/
def Machine.steppers (m : Machine) : List ThreadId := m.tickets.map (·.thread)

/-- The machine was asked neither to step nor to resume a thread. -/
structure Machine.Unbidden (m m' : Machine) : Prop where
  steps : m'.steps = m.steps
  resumes : m'.resumes = m.resumes

instance : IsPreorder Machine Machine.Unbidden where
  refl _ := ⟨rfl, rfl⟩
  trans _ _ _ h h' := ⟨h'.steps.trans h.steps, h'.resumes.trans h.resumes⟩

/-- A step request was made for the thread, no other was made, and before anything else was published the thread was
announced to resume. -/
structure StartsStep (t : ThreadRef) (detail : EventDetail) (s s' : System (Faulty Machine)) : Prop where
  requested : s'.session.inner.steppers = s.session.inner.steppers ++ [(s.thread t).id]
  published : s.bus.published ++ [⟨.thread (s.thread t).id, .resume, detail⟩] <+: s'.bus.published

/-- Nothing was announced to resume, the machine was asked neither to step nor to resume a thread, and the thread is as
it was but for what is known of its frames and its group. -/
structure Refrains (t : ThreadRef) (s s' : System (Faulty Machine)) : Prop where
  published : ∃ later, s'.bus.published = s.bus.published ++ later ∧ ∀ e ∈ later, e.kind ≠ .resume
  machine : s.session.inner.Unbidden s'.session.inner
  stance : (s'.thread t).stance = (s.thread t).stance

/-- A step of the thread starts if it can, and else nothing is done to let the thread run. -/
structure Foretold (t : ThreadRef) (detail : EventDetail) (able : Prop) (s s' : System (Faulty Machine)) : Prop where
  starts : StartsStep t detail s s' ↔ able
  refrains : ¬ able → Refrains t s s'

theorem LooksOnly.refrains (h : LooksOnly t s s') : Refrains t s s' where
  published := ⟨[], by rw [h.bus, List.append_nil], by simp⟩
  machine := ⟨congrArg Machine.steps h.machine, congrArg Machine.resumes h.machine⟩
  stance := (congrArg Thread.stance h.own :)

variable {detail : EventDetail} {able : Prop}

instance : IsPreorder (System (Faulty Machine)) (Refrains t) where
  refl s := (refl_of (LooksOnly t) s).refrains
  trans a b c h h' := by
    obtain ⟨later, published, quiet⟩ := h.published
    obtain ⟨later', published', quiet'⟩ := h'.published
    refine ⟨⟨later ++ later', ?_, fun e he => ?_⟩, trans_of Machine.Unbidden h.machine h'.machine,
      h'.stance.trans h.stance⟩
    · rw [published', published, List.append_assoc]
    · rcases List.mem_append.mp he with earlier | after
      · exact quiet e earlier
      · exact quiet' e after

/-- Where a step starts, one more request was made. -/
theorem Refrains.not_starts (h : Refrains t s s') : ¬ StartsStep t detail s s' := by
  intro starts
  have same : s'.session.inner.steppers = s.session.inner.steppers := by
    rw [Machine.steppers, Machine.tickets, h.machine.steps]
    rfl
  have longer := congrArg List.length (same.symm.trans starts.requested)
  simp at longer

theorem Foretold.of_starts (h : StartsStep t detail s s') (ha : able) : Foretold t detail able s s' :=
  ⟨iff_of_true h ha, fun unable => (unable ha).elim⟩

theorem Foretold.of_refrains (h : Refrains t s s') (ha : ¬ able) : Foretold t detail able s s' :=
  ⟨iff_of_false h.not_starts ha, fun _ => h⟩

/-- What was announced and asked for since a look was so since before the look. -/
theorem StartsStep.after (looks : LooksOnly t s s₁) (h : StartsStep t detail s₁ s') : StartsStep t detail s s' := by
  obtain ⟨requested, published⟩ := h
  rw [looks.id] at requested published
  rw [looks.machine] at requested
  rw [looks.bus] at published
  exact ⟨requested, published⟩

/-! ## Steps start -/

theorem Machine.steppers_withStep (m : Machine) (r : StepRequest) :
    (m.withStep r).steppers = m.steppers ++ [r.thread] := by
  rw [steppers, tickets_withStep, List.map_append]
  rfl

/-- A step request that is deleted was made all the same. -/
theorem Machine.steppers_withoutStep (m : Machine) (request : RequestId) :
    (m.withoutStep request).steppers = m.steppers := by
  rw [steppers, tickets_withoutStep, threads_strike]
  rfl

private theorem steppers_deleteStepRequest (request : RequestId) (f : Faulty Machine) :
    (stateAfter (Session.deleteEventRequest .step request) f).inner.steppers = f.inner.steppers := by
  have deletes : Within (fun m m' : Machine => m'.steppers = m.steppers)
      (Machine.deleteEventRequest .step request) := fun m => by
    rw [stateAfter_of_ok (Machine.deleteStepRequest_eq request m)]
    exact m.steppers_withoutStep request
  have lifts : Faulty.Lifts _ f (stateAfter (Session.deleteEventRequest .step request) f) :=
    Faulty.guarded_lifts deletes f
  rcases lifts.inner with same | kept
  · exact congrArg Machine.steppers same
  · exact kept

private theorem steppers_stepEnd (t : ThreadRef) (request : Option RequestId) (s : System (Faulty Machine)) :
    (stepEnd t request s).2.session.inner.steppers = s.session.inner.steppers := by
  cases request with
  | none => rfl
  | some request =>
    rw [session_stepEnd_some]
    exact steppers_deleteStepRequest request s.session

/-- When the thread of a step is let run nothing is taken back, even if the machine refuses. -/
private theorem runStep_keeps (t : ThreadRef) (forced : Bool) (s : System (Faulty Machine)) :
    (stateAfter (runStep t forced) s).session.inner.steppers = s.session.inner.steppers ∧
      s.bus.published <+: (stateAfter (runStep t forced) s).bus.published := by
  have asks := letRun_asks (σ := Faulty Machine) (s.thread t).id forced s.session
  have steady := steady_spares (Relation.ReflTransGen.mono (fun _ _ => Spares.exchange) _ _ asks)
  have kept : (stateAfter (letRun (s.thread t).id forced) s.session).inner.steppers = s.session.inner.steppers :=
    congrArg (List.map Ticket.thread) steady.inner.tickets
  cases ran : letRun (s.thread t).id forced s.session with
  | ok u f =>
    rw [stateAfter_of_ok ran] at kept
    rw [stateAfter_of_ok (runStep_ok ran)]
    exact ⟨kept, List.prefix_rfl⟩
  | error e f =>
    rw [stateAfter_of_error ran] at kept
    rw [stateAfter_of_error (runStep_error ran), System.stepFailed]
    generalize (s.thread t).stepping.map (·.request) = request
    obtain ⟨queued, -, -⟩ := stepEnd_effect t request { s with session := f }
    constructor
    · exact (steppers_stepEnd t request { s with session := f }).trans kept
    · change _ <+: (stepEnd t request { s with session := f }).2.bus.flush.published
      rw [Bus.published_flush, queued, Bus.published_queue]
      apply List.prefix_append

/-- A step starts in a thread that shows frames of the machine. -/
theorem startStep_starts (alive : s.targetAlive) (smooth : s.session.Smooth) (suspended : (s.thread t).isSuspended)
    (shown : stackFrames t s = .ok frames s₁) (stacked : frames ≠ [])
    (bound : frames.map s₁.frames.remote = stack.map some) (kind : StepKind) (filters : StepFilters)
    (requested : Bool) : StartsStep t kind.detail s (stateAfter (startStep t kind filters requested) s) := by
  have looks : LooksOnly t s s₁ := stateAfter_of_ok shown ▸ stackFrames_looksOnly t s
  obtain ⟨-, -, turn⟩ := stackFrames_leaves smooth suspended shown
  obtain ⟨frame, others, rfl⟩ := List.exists_cons_of_ne_nil stacked
  obtain ⟨top, first⟩ : ∃ top, s₁.frames.remote frame = some top := by
    cases stack with
    | nil => cases bound
    | cons top below => exact ⟨top, (List.cons.inj bound).1⟩
  apply StartsStep.after looks
  rw [startStep_state kind filters requested alive shown]
  simp only [List.head?_cons, Option.bind_some, first]
  let origin : StepOrigin := ⟨kind.depth, top.location, (frame :: others).length⟩
  obtain ⟨f, created, made⟩ :=
    turn.smooth.createStepRequest (Stepping.nextRequest kind origin filters requested (s₁.thread t).id)
  rw [created]
  dsimp only
  generalize entered : (s₁.enterStep t _ f).fire (s₁.element t) (.resume kind.detail) = s₂
  obtain ⟨kept, told⟩ := runStep_keeps t kind.forcesReturn s₂
  constructor
  · rw [kept, ← entered]
    change f.inner.steppers = _
    rw [made.inner, Machine.steppers_withStep]
    rfl
  · apply List.IsPrefix.trans _ told
    rw [← entered]
    change _ <+: (s₁.bus.fire ⟨s₁.element t, .resume, kind.detail⟩).published
    rw [Bus.published_fire]
    apply List.prefix_rfl

/-- A step starts in a thread that can step. -/
theorem System.Poised.starts (poised : s.Poised t frames s₁) (occurs : Occurs w s) (alive : s.targetAlive)
    (smooth : s.session.Smooth) (kind : StepKind) (filters : StepFilters) (requested : Bool) :
    StartsStep t kind.detail s (stateAfter (startStep t kind filters requested) s₁) := by
  have idle : IdlePath s s₁ := stateAfter_of_ok poised.shown ▸ stackFrames_idle t s
  obtain ⟨-, -, turn⟩ := stackFrames_leaves smooth poised.suspended poised.shown
  apply StartsStep.after poised.looks
  apply startStep_starts (poised.looks.alive ▸ alive) turn.smooth ((idle.isSuspended t).trans poised.suspended)
    (poised.again occurs.tidy) poised.stacked (poised.bound occurs)

/-! ## The operations -/

/-- What is done in a thread if it can step is not done in one that cannot. -/
private theorem canStepThen_refrains (unable : ¬ (canStep t s).1 = true) (op : Client (Faulty Machine) Unit) :
    Refrains t s (stateAfter (do if ← act (canStep t) then op) s) := by
  have looks := canStep_looksOnly t s
  rcases answer : canStep t s with ⟨can, s₁⟩
  rw [answer] at unable looks
  have asked : (act (canStep t) : Client (Faulty Machine) Bool) s = .ok can s₁ := by simp only [act, answer]
  rw [stateAfter_bind_ok asked, if_neg unable]
  exact looks.refrains

/-- What starts a step in a thread if it can step is foretold by whether it can. -/
private theorem canStepThen_foretold {op : Client (Faulty Machine) Unit}
    (starts : ∀ frames s₁, s.Poised t frames s₁ → StartsStep t detail s (stateAfter op s₁)) :
    Foretold t detail ((canStep t s).1 = true) s (stateAfter (do if ← act (canStep t) then op) s) := by
  by_cases can : (canStep t s).1 = true
  · obtain ⟨frames, s₁, poised⟩ := canStep_poised can
    apply Foretold.of_starts _ can
    rw [poised.goesAhead]
    exact starts frames s₁ poised
  · exact .of_refrains (canStepThen_refrains can op) can

section

variable (occurs : Occurs w s) (alive : s.targetAlive) (smooth : s.session.Smooth)

include occurs alive smooth

theorem step_foretold (t : ThreadRef) (kind : StepKind) (filters : StepFilters) :
    Foretold t kind.detail ((canStep t s).1 = true) s ((Operation.step t kind filters).perform s) :=
  canStepThen_foretold fun _ _ poised => poised.starts occurs alive smooth kind filters false

theorem stepWithTargetFilters_foretold (t : ThreadRef) (kind : StepKind) :
    Foretold t kind.detail ((canStep t s).1 = true) s ((Operation.stepWithTargetFilters t kind).perform s) := by
  rw [Operation.perform, stepWithTargetFilters, stateAfter_bind_ok (needTarget_alive alive), stateAfter_get_bind]
  exact step_foretold occurs alive smooth t kind s.filters

/-- Without patterns there is nothing that a step with filters could pass over. -/
theorem stepWithFilters_foretold (t : ThreadRef) :
    Foretold t StepKind.into.detail ((canStepWithFilters t s).1 = true) s
      ((Operation.stepWithFilters t).perform s) := by
  rw [Operation.perform, stepWithFilters, stateAfter_bind_ok (needTarget_alive alive), stateAfter_get_bind,
    canStepWithFilters, run_get_bind, alive, Bool.true_and]
  by_cases patterns : s.filters.hasPatterns
  · simp only [patterns, if_true]
    exact canStepThen_foretold fun _ _ poised => poised.starts occurs alive smooth .into s.filters true
  · simp only [patterns]
    exact .of_refrains (refl_of (LooksOnly t) s).refrains Bool.false_ne_true

end

/-! ## Drops -/

/-- Only in a thread that can step there is a frame to drop to. -/
theorem canDropToFrame_unready (unable : ¬ (canStep t s).1 = true) : ¬ (canDropToFrame t frame s).1 = true := by
  rcases answer : canStep t s with ⟨can, s₁⟩
  rw [answer] at unable
  obtain rfl : can = false := eq_false_of_ne_true unable
  rw [canDropToFrame, run_bind answer]
  exact Bool.false_ne_true

/-- In a thread that can step the place of the frame decides. -/
theorem System.Poised.canDropToFrame_answer (poised : s.Poised t frames s₁) (tidy : s.Tidy) (frame : FrameRef) :
    (canDropToFrame t frame s).1 =
      match frames.idxOf? frame with
      | none => false
      | some index => !Session.canPopFrames s₁.session || decide (index + 1 < frames.length) := by
  rw [canDropToFrame, run_bind poised.answer, if_pos rfl, run_bind (attempt_ok (poised.again tidy))]
  dsimp only
  cases frames.idxOf? frame with
  | none => rfl
  | some index => rfl

namespace Machine

variable {m : Machine} {thread : ThreadId}

theorem stands_of_holds (held : m.holds thread = true) : m.Stands thread (m.framesOf thread) := by
  rw [holds] at held
  cases here : m.task? thread with
  | none => simp [here] at held
  | some task =>
    refine ⟨task, here, by simpa [here] using held, ?_⟩
    rw [framesOf, here]
    rfl

end Machine

/-! ### Frames that are popped -/

/-- Of a thread that is not suspended no frame is popped. -/
theorem Faulty.popFrames_unheld {f : Faulty Machine} {thread : ThreadId} (pops : Session.canPopFrames f = true)
    (runs : f.inner.holds thread = false) (frame : FrameId) :
    ∃ e f', Session.popFrames thread frame f = .error e f' := by
  rw [popFrames_full (full_of_pops pops)]
  rcases guarded_cases .popFrames (Machine.popFrames thread frame) f with ⟨_, f', -, made, -⟩ | ⟨e, f', failed, -⟩
  · exact (Machine.popFrames_unheld runs frame _ made).elim
  · exact ⟨e, f', failed⟩

/-- To have frames popped is no step. -/
theorem popFrames_refrains (s : System (Faulty Machine)) (t : ThreadRef) (frame : FrameId) :
    Refrains t s (s.popFrames t frame) := by
  have idle : IdlePath s (s.popFrames t frame) := .single (.pop s t frame)
  refine ⟨⟨[], (List.append_nil _).symm, by simp⟩, ?_, idle.stance t⟩
  rw [session_popFrames]
  have pops : Within Machine.Unbidden (Machine.popFrames (s.thread t).id frame) :=
    Machine.popFrames_within (fun _ _ => ⟨rfl, rfl⟩) (fun _ _ _ => ⟨rfl, rfl⟩) frame
  have lifts : Faulty.Lifts _ s.session (stateAfter (Session.popFrames (s.thread t).id frame) s.session) :=
    Faulty.optional_lifts pops s.session
  rcases lifts.inner with same | unbidden
  · exact ⟨congrArg Machine.steps same, congrArg Machine.resumes same⟩
  · exact unbidden

theorem fire_refrains {source : Element} {a : Announcement} (h : (a.event source).kind ≠ .resume) :
    Refrains t s (s.fire source a) where
  published := ⟨[a.event source], Bus.published_fire _ _, by simpa using h⟩
  machine := refl_of Machine.Unbidden _
  stance := rfl

/-- No step starts where the frame is not popped. -/
theorem System.Poised.drop_fails {e : SessionError} {f : Faulty Machine} (poised : s.Poised t frames s₁)
    (occurs : Occurs w s) (alive : s.targetAlive) (native : Session.canPopFrames s₁.session = true)
    (wrapper : frames[index]? = some frame) (stands : s₁.frames.remote frame = some target)
    (failed : Session.popFrames (s₁.thread t).id target.id s₁.session = .error e f) :
    Refrains t s ((Operation.dropToFrame t frame).perform s) := by
  rw [Operation.perform, stateAfter_of_error (dropToFrame_fails occurs alive poised native wrapper stands failed)]
  apply trans_of (Refrains t) poised.looks.refrains
  apply trans_of (Refrains t) (popFrames_refrains s₁ t target.id)
  split
  · apply fire_refrains
    simp [Announcement.event]
  · apply refl_of

/-- A step starts from the caller of the frame that is popped. -/
theorem System.Poised.drop_pops {caller : RemoteFrame} {deeper : List RemoteFrame} (poised : s.Poised t frames s₁)
    (occurs : Occurs w s) (alive : s.targetAlive) (unwindable : Unwindable s.session (s.thread t).id stack)
    (native : Session.canPopFrames s₁.session = true) (wrapper : frames[index]? = some frame)
    (stands : s₁.frames.remote frame = some target)
    (found : stack.dropWhile (·.id ≠ target.id) = target :: caller :: deeper)
    (left : frames.length = index + 1 + (caller :: deeper).length) :
    StartsStep t .stepInto s ((Operation.dropToFrame t frame).perform s) := by
  obtain ⟨⟨f, popped⟩, frames', s₂, uncovers⟩ := poised.uncovers occurs unwindable found
  rw [dropToFrame_pops occurs alive poised native wrapper stands popped uncovers left]
  obtain ⟨requested, published⟩ := uncovers.poised.starts (occurs.course uncovers.idle.path.stepPath.course)
    (uncovers.idle.alive ▸ alive) uncovers.smooth .into s.filters false
  rw [uncovers.id] at requested published
  rw [uncovers.inner] at requested
  rw [uncovers.bus] at published
  exact ⟨requested, published⟩

/-- The machine's stack of the thread is the one that a client is shown, and no frame above this one bears its number.
-/
structure System.Pinpoints (s : System (Faulty Machine)) (t : ThreadRef) (frame : FrameRef) : Prop where
  current : s.stackOf t = s.shownStack t
  first {frames : List FrameRef} {s₁ : System (Faulty Machine)} {index : Nat} {target : RemoteFrame}
    (shown : stackFrames t s = .ok frames s₁) (wrapper : frames[index]? = some frame)
    (there : (s.shownStack t)[index]? = some target) : ∀ above ∈ (s.shownStack t).take index, above.id ≠ target.id

/-- What a frame that is shown stands for. -/
theorem System.Poised.stands (poised : s.Poised t frames s₁) (occurs : Occurs w s)
    (wrapper : frames[index]? = some frame) :
    ∃ target, (s.shownStack t)[index]? = some target ∧ s₁.frames.remote frame = some target := by
  have here := congrArg (·[index]?) (poised.bound occurs)
  simp only [List.getElem?_map, wrapper, Option.map_some] at here
  cases there : (s.shownStack t)[index]? with
  | none => simp [there] at here
  | some target => exact ⟨target, rfl, by simpa [there] using here⟩

section

variable (poised : s.Poised t frames s₁) (occurs : Occurs w s) (alive : s.targetAlive) (smooth : s.session.Smooth)

include poised occurs alive

/-- A frame that is not shown is none to drop to. -/
theorem System.Poised.drop_foreign (foreign : frames.idxOf? frame = none) :
    Refrains t s ((Operation.dropToFrame t frame).perform s) := by
  have lost : locate t frame s₁ = .error .foreignFrame s₁ := by
    rw [locate, run_ok_bind (poised.again occurs.tidy), foreign]
    rfl
  rw [Operation.perform, dropToFrame, stateAfter_bind_ok (needTarget_alive alive), stateAfter_get_bind,
    poised.goesAhead, stateAfter_bind_error lost]
  exact poised.looks.refrains

include smooth

/-- Where the machine pops no frames the thread is made to return, in a step. -/
theorem System.Poised.drop_returns (wrapper : frames[index]? = some frame)
    (forced : Session.canPopFrames s₁.session = false) :
    StartsStep t .stepReturn s ((Operation.dropToFrame t frame).perform s) := by
  rw [Operation.perform, dropToFrame, stateAfter_bind_ok (needTarget_alive alive), stateAfter_get_bind,
    poised.goesAhead, stateAfter_bind_ok (poised.locates occurs wrapper)]
  dsimp only
  rw [stateAfter_get_bind, forced]
  exact poised.starts occurs alive smooth (.dropToFrame index) s.filters false

/-- Where the machine pops frames it takes a frame that it can pop. -/
theorem System.Poised.drop_native (native : Session.canPopFrames s.session = true) (pinpoints : s.Pinpoints t frame)
    (wrapper : frames[index]? = some frame) :
    Foretold t .stepInto (index + 1 < frames.length ∧ s.session.inner.holds (s.thread t).id = true) s
      ((Operation.dropToFrame t frame).perform s) := by
  have looks : LooksOnly t s s₁ := poised.looks
  obtain ⟨-, -, turn⟩ := stackFrames_leaves smooth poised.suspended poised.shown
  have native₁ : Session.canPopFrames s₁.session = true := turn.canPopFrames.trans native
  obtain ⟨target, there, stands⟩ := poised.stands occurs wrapper
  cases held : s.session.inner.holds (s.thread t).id with
  | false =>
    have runs : s₁.session.inner.holds (s₁.thread t).id = false := by rwa [looks.machine, looks.id]
    obtain ⟨e, f, failed⟩ := Faulty.popFrames_unheld native₁ runs target.id
    apply Foretold.of_refrains (poised.drop_fails occurs alive native₁ wrapper stands failed)
    simp
  | true =>
    have unwindable : Unwindable s.session (s.thread t).id (s.shownStack t) :=
      ⟨smooth, pinpoints.current ▸ Machine.stands_of_holds held, native⟩
    have found := Machine.dropWhile_of_first there (pinpoints.first poised.shown wrapper there)
    have depth : frames.length = (s.shownStack t).length := by
      simpa using congrArg List.length (poised.bound occurs)
    by_cases called : index + 1 < frames.length
    · apply Foretold.of_starts _ ⟨called, rfl⟩
      have rest := List.drop_eq_getElem_cons (depth ▸ called)
      have left : frames.length = index + 1 + ((s.shownStack t).drop (index + 1)).length := by
        rw [List.length_drop]
        omega
      rw [rest] at found left
      exact poised.drop_pops occurs alive unwindable native₁ wrapper stands found left
    · -- The frame is at the bottom of the stack.
      have inside : index < frames.length := (List.getElem?_eq_some_iff.mp wrapper).1
      rw [List.drop_eq_nil_of_le (by omega)] at found
      obtain ⟨f, refused, -⟩ := (unwindable.turns turn).refuses_bottom found
      rw [← looks.id] at refused
      apply Foretold.of_refrains (poised.drop_fails occurs alive native₁ wrapper stands refused)
      simp [called]

end

theorem dropToFrame_foretold (occurs : Occurs w s) (alive : s.targetAlive) (smooth : s.session.Smooth)
    (pinpoints : (canStep t s).1 = true → Session.canPopFrames s.session = true → s.Pinpoints t frame) :
    Foretold t (if Session.canPopFrames s.session then .stepInto else .stepReturn)
      ((canDropToFrame t frame s).1 = true ∧
        (Session.canPopFrames s.session = true → s.session.inner.holds (s.thread t).id = true)) s
      ((Operation.dropToFrame t frame).perform s) := by
  by_cases can : (canStep t s).1 = true
  · obtain ⟨frames, s₁, poised⟩ := canStep_poised can
    obtain ⟨-, -, turn⟩ := stackFrames_leaves smooth poised.suspended poised.shown
    rw [poised.canDropToFrame_answer occurs.tidy frame, turn.canPopFrames]
    cases place : frames.idxOf? frame with
    | none =>
      apply Foretold.of_refrains (poised.drop_foreign occurs alive place)
      simp
    | some index =>
      have wrapper : frames[index]? = some frame := by
        obtain ⟨inside, here, -⟩ := List.idxOf?_eq_some_iff.mp place
        exact List.getElem?_eq_some_iff.mpr ⟨inside, here⟩
      cases native : Session.canPopFrames s.session with
      | false =>
        apply Foretold.of_starts
        · exact poised.drop_returns occurs alive smooth wrapper (turn.canPopFrames.trans native)
        · simp
      | true =>
        simpa using poised.drop_native occurs alive smooth native (pinpoints can native) wrapper
  · apply Foretold.of_refrains
    · rw [Operation.perform, dropToFrame, stateAfter_bind_ok (needTarget_alive alive), stateAfter_get_bind]
      exact canStepThen_refrains can _
    · exact fun able => canDropToFrame_unready can able.1

/-- The answers foretell the steps.  In a target that lives, and as long as no call fails, a step of any kind starts
just if the thread can step, and a step with filters just if it can step with filters.  A drop to a frame starts a step
just if the thread can drop to it, where the machine makes the thread return; where it pops frames the machine has to
have the thread suspended too, provided that the client is shown the machine's stack and the number of the frame means
that frame.  Where no step starts nothing is let run, and to ask changes nothing but what is known of the frames. -/
theorem steps_as_foretold (reachable : Reachable w s) (alive : s.targetAlive) (smooth : s.session.Smooth)
    (t : ThreadRef) :
    (∀ kind filters,
      Foretold t kind.detail ((canStep t s).1 = true) s ((Operation.step t kind filters).perform s)) ∧
    (∀ kind, Foretold t kind.detail ((canStep t s).1 = true) s ((Operation.stepWithTargetFilters t kind).perform s)) ∧
    Foretold t .stepInto ((canStepWithFilters t s).1 = true) s ((Operation.stepWithFilters t).perform s) ∧
    (∀ frame, ((canStep t s).1 = true → Session.canPopFrames s.session = true → s.Pinpoints t frame) →
      Foretold t (if Session.canPopFrames s.session then .stepInto else .stepReturn)
        ((canDropToFrame t frame s).1 = true ∧
          (Session.canPopFrames s.session = true → s.session.inner.holds (s.thread t).id = true)) s
        ((Operation.dropToFrame t frame).perform s)) ∧
    LooksOnly t s (canStep t s).2 ∧ LooksOnly t s (canStepWithFilters t s).2 ∧
      ∀ frame, LooksOnly t s (canDropToFrame t frame s).2 :=
  ⟨step_foretold reachable.occurs alive smooth t, stepWithTargetFilters_foretold reachable.occurs alive smooth t,
    stepWithFilters_foretold reachable.occurs alive smooth t,
    fun _ pinpoints => dropToFrame_foretold reachable.occurs alive smooth pinpoints,
    canStep_looksOnly t s, canStepWithFilters_looksOnly t s, fun frame => canDropToFrame_looksOnly t frame s⟩

/-! ## A sample -/

/-- Frames of different numbers cannot be mistaken for each other. -/
theorem System.Pinpoints.of_nodup (current : s.stackOf t = s.shownStack t)
    (distinct : ((s.shownStack t).map (·.id)).Nodup) (frame : FrameRef) : s.Pinpoints t frame := by
  refine ⟨current, fun {frames s₁ index target} _ _ there above hm same => ?_⟩
  obtain ⟨j, bounds, rfl⟩ := List.mem_take_iff_getElem.mp hm
  obtain ⟨inside, rfl⟩ := List.getElem?_eq_some_iff.mp there
  have earlier : j < index := by omega
  apply List.nodup_iff_getElem?_ne_getElem?.mp distinct j index earlier (by simpa using inside)
  have outside : j < (s.shownStack t).length := by omega
  simp [outside, inside, same]

private def poppableCall : Sample := ⟨[.addTask (sampleTask 1), .setCanPop true], by decide +kernel⟩

/-- The sample program on a machine that pops frames. -/
private def inRun : System (Faulty Machine) := poppableCall.system

private theorem inRun_reachable : Reachable scripted inRun :=
  Sample.reachable (by simp [poppableCall, Scenario.MachineCommand.SparesSteps])

/-- The thread steps over, and drops to its frame on top but not to the one at the bottom. -/
theorem steps_as_foretold_inRun :
    StartsStep 0 .stepOver inRun ((Operation.step 0 .over inRun.filters).perform inRun) ∧
      StartsStep 0 .stepInto inRun ((Operation.dropToFrame 0 0).perform inRun) ∧
      Refrains 0 inRun ((Operation.dropToFrame 0 1).perform inRun) := by
  have native : Session.canPopFrames inRun.session = true := by decide +kernel
  have pinpoints (frame : FrameRef) : inRun.Pinpoints 0 frame :=
    .of_nodup (by decide +kernel) (by decide +kernel) frame
  obtain ⟨steps, -, -, drops, -⟩ := steps_as_foretold inRun_reachable (by decide +kernel)
    (.of_empty (by decide +kernel) (by decide +kernel)) 0
  simp only [native, if_true] at drops
  refine ⟨?_, ?_, ?_⟩
  · apply (steps .over inRun.filters).starts.mpr
    decide +kernel
  · apply (drops 0 fun _ _ => pinpoints 0).starts.mpr
    exact ⟨by decide +kernel, fun _ => by decide +kernel⟩
  · apply (drops 1 fun _ _ => pinpoints 1).refrains
    intro able
    exact absurd able.1 (by decide +kernel)

/-- The machine lets the thread run behind the debugger's back, after a client looked at its stack. -/
private def freed : System (Faulty Machine) :=
  let s := (Operation.frames 0).perform inRun
  { s with session := ((Scenario.MachineCommand.call (.resumeThread 1)).applyFaulty s.session).2 }

private theorem freed_reachable : Reachable scripted freed :=
  (inRun_reachable.move (.operation (.frames 0))).move (.machine ⟨.call (.resumeThread 1), trivial, rfl⟩)

private def confusingCall : Sample :=
  ⟨[.addTask { sampleTask 1 with
    frames := [sampleFrame 1 101 "run" 12, sampleFrame 2 101 "run" 10, sampleFrame 1 102 "main" 3] },
    .setCanPop true], by decide +kernel⟩

/-- The frames on top and at the bottom bear one number. -/
private def confusing : System (Faulty Machine) := confusingCall.system

private theorem confusing_reachable : Reachable scripted confusing :=
  Sample.reachable (by simp [confusingCall, Scenario.MachineCommand.SparesSteps])

/-- The target lives, no call fails, and the machine's stack of the thread is the one that a client is shown. -/
private structure Foretellable (s : System (Faulty Machine)) : Prop where
  reachable : Reachable scripted s
  alive : s.targetAlive
  smooth : s.session.Smooth
  current : s.stackOf 0 = s.shownStack 0

/-- No frame of a thread is popped that the machine let run, whatever the debugger takes it for: a drop that was
foretold starts no step.  And a pop of the bottom frame takes another one of its number, if there is one: a drop that
was ruled out starts a step. -/
theorem steps_as_foretold_astray :
    (Foretellable freed ∧ (canDropToFrame 0 0 freed).1 = true ∧
      ∀ detail, ¬ StartsStep 0 detail freed ((Operation.dropToFrame 0 0).perform freed)) ∧
    (Foretellable confusing ∧ (canDropToFrame 0 2 confusing).1 = false ∧
      StartsStep 0 .stepInto confusing ((Operation.dropToFrame 0 2).perform confusing)) := by
  refine ⟨⟨⟨freed_reachable, by decide +kernel, .of_empty (by decide +kernel) (by decide +kernel),
      by decide +kernel⟩, by decide +kernel, fun detail starts => ?_⟩,
    ⟨confusing_reachable, by decide +kernel, .of_empty (by decide +kernel) (by decide +kernel), by decide +kernel⟩,
    by decide +kernel, by decide +kernel, by decide +kernel⟩
  have none : ((Operation.dropToFrame 0 0).perform freed).session.inner.steppers = [] := by decide +kernel
  rw [starts.requested] at none
  exact List.append_ne_nil_of_right_ne_nil _ (List.cons_ne_nil _ _) none

end Debugger
