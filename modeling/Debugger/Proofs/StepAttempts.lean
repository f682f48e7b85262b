import Debugger.Proofs.StepAnnouncements

/-! # Attempts to start a step

A client's request for a step looks at the thread's stack, has the machine make a request, and lets the
thread run.  A call that fails on the way leaves the thread suspended without a step, whatever was
announced before.
-/

namespace Debugger

/-! ## Calls that the machine answers without a report -/

namespace Machine

/-- The machine reported nothing. -/
def Silent (m m' : Machine) : Prop := m'.events = m.events

instance : IsPreorder Machine Silent where
  refl _ := rfl
  trans _ _ _ h h' := h'.trans h

private theorem cutStack_silent (thread : ThreadId) (frame : FrameId) : Within Silent (do
    modify fun m => { m with popped := m.popped ++ [(thread, frame)] }
    let t ← findSuspended thread
    match t.frames.dropWhile (·.id ≠ frame) with
    | deepest :: below@(_ :: _) =>
      modify fun m => { m.mapTask thread fun t => { t with frames := below } with
        reentry := m.reentry.put thread deepest }
    | _ => throw .invalidStackFrame : Call Machine Unit) := by
  refine .bind (.modify fun _ => rfl) fun _ => .bind (findSuspended_within thread) fun t => ?_
  split
  · exact .modify fun _ => rfl
  · exact .throw _

theorem popFrames_silent (thread : ThreadId) (frame : FrameId) :
    Within Silent (popFrames thread frame) :=
  .get_bind fun m => by
    split
    · exact Within.bind (.throw _) (fun _ => cutStack_silent thread frame) m
    · exact cutStack_silent thread frame m

end Machine

variable {α β : Type}

/-- A call after which the machine has reported nothing, and that is on record if it fails. -/
def Mute (call : Call (Faulty Machine) α) : Prop :=
  ∀ f, (∃ a f', call f = .ok a f' ∧ f.inner.Silent f'.inner ∧ f'.failures = f.failures) ∨
    ∃ e f', call f = .error e f' ∧ f.inner.Silent f'.inner

theorem mute_guarded {kind : CallKind} {call : Call Machine α} (h : Within Machine.Silent call) :
    Mute (Faulty.guarded kind call) := by
  intro f
  have inner := h f.inner
  rcases Faulty.guarded_cases kind call f with ⟨a, f', hg, hc, hf⟩ | ⟨e, f', hg, hc, -⟩
  · rw [stateAfter_of_ok hc] at inner
    exact .inl ⟨a, f', hg, inner, hf⟩
  · refine .inr ⟨e, f', hg, ?_⟩
    rcases hc with hc | hc
    · rw [hc]
      rfl
    · rwa [stateAfter_of_error hc] at inner

theorem mute_frames (thread : ThreadId) : Mute (Session.frames thread) :=
  mute_guarded (.bind (Machine.findSuspended_within thread) fun _ => .pure _)

theorem mute_popFrames (thread : ThreadId) (frame : FrameId) : Mute (Session.popFrames thread frame) := by
  intro f
  have asked : Session.popFrames thread frame f =
      (if f.bare then Faulty.noted .popFrames (throw .unsupported) else
        Faulty.guarded .popFrames (Machine.popFrames thread frame)) f := rfl
  rw [asked]
  split
  · exact .inr ⟨.unsupported, _, rfl, rfl⟩
  · exact mute_guarded (Machine.popFrames_silent thread frame) f

/-! ## Operations that only look -/

/-- The operation has the machine report nothing, and fails if a call fails. -/
def Looks (op : Client (Faulty Machine) α) : Prop :=
  ∀ s, (∃ a s', op s = .ok a s' ∧ s.session.inner.Silent s'.session.inner ∧
      s'.session.failures = s.session.failures) ∨
    ∃ e s', op s = .error e s' ∧ s.session.inner.Silent s'.session.inner

namespace Looks

theorem pure (a : α) : Looks (Pure.pure a) := fun s => .inl ⟨a, s, rfl, rfl, rfl⟩

theorem throw (e : DebugError) : Looks (throw e : Client (Faulty Machine) α) :=
  fun s => .inr ⟨e, s, rfl, rfl⟩

theorem modify {f : System (Faulty Machine) → System (Faulty Machine)}
    (h : ∀ s, (f s).session = s.session) : Looks (modify f) := fun s =>
  .inl ⟨(), f s, rfl, by rw [h]; rfl, by rw [h]⟩

theorem get_bind {f : System (Faulty Machine) → Client (Faulty Machine) α} (h : ∀ s, Looks (f s)) :
    Looks (get >>= f) := fun s => h s s

theorem bind {x : Client (Faulty Machine) α} {f : α → Client (Faulty Machine) β} (hx : Looks x)
    (hf : ∀ a, Looks (f a)) : Looks (x >>= f) := by
  intro s
  rcases hx s with ⟨a, s₁, h, silent, fine⟩ | ⟨e, s', h, silent⟩
  · rcases hf a s₁ with ⟨b, s', h', silent', fine'⟩ | ⟨e, s', h', silent'⟩
    · refine .inl ⟨b, s', ?_, silent'.trans silent, fine'.trans fine⟩
      simp only [Bind.bind, EStateM.bind, h, h']
    · refine .inr ⟨e, s', ?_, silent'.trans silent⟩
      simp only [Bind.bind, EStateM.bind, h, h']
  · refine .inr ⟨e, s', ?_, silent⟩
    simp only [Bind.bind, EStateM.bind, h]

/-- What follows a call need not succeed if the call fails. -/
theorem ask_bind {call : Call (Faulty Machine) α} {f : Except SessionError α → Client (Faulty Machine) β}
    (h : Mute call) (ok : ∀ a, Looks (f (.ok a)))
    (error : ∀ e s, ∃ e' s', f (.error e) s = .error e' s' ∧ s'.session = s.session) :
    Looks (ask call >>= f) := by
  intro s
  rcases h s.session with ⟨a, m, hc, silent, fine⟩ | ⟨e, m, hc, silent⟩
  · have asked : (ask call >>= f) s = f (.ok a) { s with session := m } := by
      simp only [Bind.bind, EStateM.bind, ask, act, hc]
    rw [asked]
    rcases ok a { s with session := m } with ⟨b, s', h', silent', fine'⟩ | ⟨e, s', h', silent'⟩
    · exact .inl ⟨b, s', h', silent'.trans silent, fine'.trans fine⟩
    · exact .inr ⟨e, s', h', silent'.trans silent⟩
  · have asked : (ask call >>= f) s = f (.error e) { s with session := m } := by
      simp only [Bind.bind, EStateM.bind, ask, act, hc]
    rw [asked]
    obtain ⟨e', s', h', hs⟩ := error e { s with session := m }
    exact .inr ⟨e', s', h', by rw [hs]; exact silent⟩

end Looks

theorem remoteFrames_looks (t : ThreadRef) : Looks (remoteFrames t) :=
  .get_bind fun s => by
    refine .ask_bind (mute_frames _) (fun frames => .pure frames) fun e s' => ?_
    cases e with
    | incompatibleThreadState => exact ⟨_, _, rfl, rfl⟩
    | _ => exact ⟨_, _, rfl, rfl⟩

theorem stackFrames_looks (t : ThreadRef) : Looks (stackFrames t) :=
  .get_bind fun s => by
    by_cases hs : (s.thread t).isSuspended
    · simp only [hs, if_true]
      split
      · refine .bind (remoteFrames_looks t) fun remote => .bind (.modify fun s' => ?_) fun _ =>
          .get_bind fun s' => .pure _
        exact (congrArg System.session (System.updateFrames_rest s' t remote) :)
      · exact .get_bind fun s' => .pure _
    · simp only [hs]
      exact .pure _

theorem locate_looks (t : ThreadRef) (frame : FrameRef) : Looks (locate t frame) :=
  .bind (stackFrames_looks t) fun frames => by
    split
    · exact .pure _
    · exact .throw _

theorem popLoop_looks (t : ThreadRef) (frame : FrameRef) (desired last size : Nat) :
    Looks (popLoop t frame desired last size) := by
  induction last using Nat.strongRecOn generalizing size with
  | ind last ih =>
    rw [popLoop]
    split
    · rename_i within
      refine .get_bind fun s => ?_
      split
      · exact .pure _
      · refine .bind (.modify fun s => rfl) fun _ => .get_bind fun s => ?_
        refine .ask_bind (mute_popFrames _ _) (fun _ => ?_) fun e s' => ?_
        · exact .bind (stackFrames_looks t) fun frames => ih size within.1 frames.length
        · by_cases he : e = .invalidStackFrame
          · exact ⟨.session "popping stack frames" e,
              s'.fire (s'.element t) (.change .content), by simp only [he, if_true]; rfl, rfl⟩
          · exact ⟨.session "popping stack frames" e, s', by simp only [he, if_false]; rfl, rfl⟩
    · exact .pure _

/-! ## How an attempt can end -/

variable {s s' : System (Faulty Machine)} {t : ThreadRef}

/-- How a step's start goes for a suspended thread: well, or the thread is suspended as before. -/
inductive Attempted (t : ThreadRef) (s s' : System (Faulty Machine)) : Prop
  | fine (failures : s'.session.failures = s.session.failures)
  /-- A call failed, before the start was announced or after. -/
  | finished (scene : s'.scene = s.scene) (silent : s.session.inner.Silent s'.session.inner)
    (id : (s'.thread t).id = (s.thread t).id) (suspended : (s'.thread t).isSuspended)
    (stepping : (s'.thread t).stepping = none)
    (log : s.bus.Quiet → s'.bus.Quiet ∧
      (s'.bus.stepLog (s.thread t).id = s.bus.stepLog (s.thread t).id ∨
        ∃ kind, s'.bus.stepLog (s.thread t).id = s.bus.stepLog (s.thread t).id ++
          [stepStartEvent (s.thread t).id kind, stepEndEvent (s.thread t).id]))

theorem IdlePath.scene (h : IdlePath s s') : s'.scene = s.scene := by
  have rest := h.rest s.session
  exact (congrArg System.scene rest :)

theorem IdlePath.hushed (h : IdlePath s s') : Bus.Hushed s.bus s'.bus := by
  induction h with
  | refl => exact .rfl
  | @tail b c _ hc ih =>
    refine ih.trans ?_
    cases hc with
    | fire h => exact .fire _ h
    | @refresh t remote session hs h =>
      exact .of_eq (congrArg System.bus (System.updateFrames_rest { b with session } t remote) :)
    | _ => exact .rfl

/-- An attempt that only looked left everything as it was. -/
theorem Attempted.looked (path : IdlePath s s') (silent : s.session.inner.Silent s'.session.inner)
    (hs : (s.thread t).isSuspended) (hn : (s.thread t).stepping = none) : Attempted t s s' :=
  .finished path.scene silent (path.id t) ((path.isSuspended t).trans hs) ((path.stepping t).trans hn)
    fun quiet => ⟨path.hushed.quiet quiet, .inl (path.hushed.log _)⟩

theorem Attempted.after {s₀ : System (Faulty Machine)} (path : IdlePath s s₀)
    (silent : s.session.inner.Silent s₀.session.inner)
    (failures : s₀.session.failures = s.session.failures) (h : Attempted t s₀ s') :
    Attempted t s s' := by
  cases h with
  | fine failures' => exact .fine (failures'.trans failures)
  | finished scene silent' id suspended stepping log =>
    refine .finished (scene.trans path.scene) (silent'.trans silent) (id.trans (path.id t)) suspended stepping
      fun quiet => ?_
    have log := log (path.hushed.quiet quiet)
    rwa [path.id t, path.hushed.log] at log

/-- A thread that the machine refuses to let run has its step announced and ended. -/
private theorem enter_attempted (st : Stepping) {m : Faulty Machine} {wanted : StepRequest} (forced : Bool)
    (hs : (s.thread t).isSuspended) (hf : (s.thread t).frames ≠ []) (hd : s.session.DeletionsSucceed)
    (h : Session.createStepRequest wanted s.session = .ok st.request m) :
    Attempted t s (stateAfter (runStep t forced)
      ((s.enterStep t st m).fire (s.element t) (.resume st.kind.detail))) := by
  have ht := System.lt_size_of_frames hf
  obtain ⟨silent, fine, deletions⟩ : s.session.inner.Silent m.inner ∧
      m.failures = s.session.failures ∧ m.DeletionsSucceed := by
    rcases s.session.createStepRequest_cases wanted with ⟨f, steady, -, hf, hc⟩ | ⟨e, f, -, -, -, hc⟩
    · have state := stateAfter_of_ok h
      rw [stateAfter_of_ok hc] at state
      subst state
      exact ⟨rfl, hf, steady.deletions hd⟩
    · rw [hc] at h
      cases h
  have mark : ((s.enterStep t st m).thread t).mark = ((s.thread t).setStepping (some st)).mark := by
    rw [thread_enterStep, System.startRunning_keeps (g := Thread.mark) fun _ => rfl]
    exact congrArg Thread.mark
      (System.thread_mapThread_self (s := { s with session := m }) ht (·.setStepping (some st)))
  simp only [Thread.mark, Thread.setStepping, Prod.mk.injEq] at mark
  have size : t < (s.enterStep t st m).threads.size := by
    simpa [System.enterStep, System.startRunning, System.preserveFrames] using ht
  generalize hs₂ : (s.enterStep t st m).fire (s.element t) (.resume st.kind.detail) = s₂
  have threads : s₂.threads = (s.enterStep t st m).threads := by
    rw [← hs₂]
    rfl
  obtain ⟨scene, session, bus⟩ : s₂.scene = s.scene ∧ s₂.session = m ∧
      s₂.bus = s.bus.fire (stepStartEvent (s.thread t).id st.kind) := by
    rw [← hs₂]
    exact ⟨rfl, rfl, rfl⟩
  rw [← threads] at size
  rw [← System.thread_congr threads] at mark
  rw [← session] at silent fine deletions
  have asks := letRun_asks (σ := Faulty Machine) (s₂.thread t).id forced s₂.session
  have steady := steady_spares (Relation.ReflTransGen.mono (fun _ _ => Spares.exchange) _ _ asks)
  rcases Faulty.letRun_cases (s₂.thread t).id forced s₂.session with
    ⟨f, hr, -, hf⟩ | ⟨kind, e, f, hr, he, -⟩
  · rw [stateAfter_of_ok (runStep_ok hr)]
    exact .fine (hf.trans fine)
  · rw [stateAfter_of_error hr] at steady
    rw [stateAfter_of_error (runStep_error hr), System.stepFailed]
    generalize (s₂.thread t).stepping.map (·.request) = request
    have thread := thread_stepEnd (s := { s₂ with session := f }) request size
    have machine := machine_stepEnd (s := { s₂ with session := f }) (steady.deletions deletions) t request
    have scene' := scene_stepEnd t request { s₂ with session := f }
    obtain ⟨queued, -, -⟩ := stepEnd_effect t request { s₂ with session := f }
    generalize (stepEnd t request { s₂ with session := f }).2 = s₃ at *
    have live : (s₂.thread t).terminated = false := by
      simp only [Thread.isSuspended, Bool.and_eq_true, Bool.not_eq_true'] at hs
      exact mark.2.1.trans hs.2
    refine .finished (scene'.trans scene) ((machine.1.trans he).trans silent) ?_ ?_ ?_ fun quiet => ?_
    · exact (congrArg Thread.id thread).trans mark.1
    · change (s₃.thread t).isSuspended = true
      rw [thread]
      exact (Bool.true_and _).trans (congrArg not live)
    · exact congrArg Thread.stepping thread
    · refine ⟨s₃.bus.quiet_flush, .inr ⟨st.kind, ?_⟩⟩
      change s₃.bus.flush.stepLog _ = _
      have id : (s₂.thread t).id = (s.thread t).id := mark.1
      change s₃.bus = s₂.bus.queue (stepEndEvent (s₂.thread t).id) at queued
      rw [(Bus.Hushed.flush s₃.bus).log, queued, Bus.stepLog_queue, bus, Bus.stepLog_fire quiet, id]
      simp [ofStep_stepStartEvent, ofStep_stepEndEvent]

private theorem refused_silent {f m : Faulty Machine} {wanted : StepRequest} {e : SessionError}
    (h : Session.createStepRequest wanted f = .error e m) : f.inner.Silent m.inner := by
  rcases f.createStepRequest_cases wanted with ⟨f', -, -, -, hc⟩ | ⟨e', f', -, hi, -, hc⟩
  · rw [hc] at h
    cases h
  · rw [← stateAfter_of_error h, stateAfter_of_error hc]
    exact congrArg Machine.events hi

theorem startStep_attempted (kind : StepKind) (filters : StepFilters) (requested : Bool) (hb : s.Booked)
    (hs : (s.thread t).isSuspended) (hn : (s.thread t).stepping = none) :
    Attempted t s (stateAfter (startStep t kind filters requested) s) := by
  cases ha : s.targetAlive with
  | false =>
    rw [startStep, stateAfter_bind_error (needTarget_gone ha)]
    exact .fine rfl
  | true =>
    have idle := stackFrames_idle t s
    rcases stackFrames_looks t s with ⟨frames, s₁, hf, silent, fine⟩ | ⟨e, s₁, hf, silent⟩
    · rw [stateAfter_of_ok hf] at idle
      rw [startStep_state kind filters requested ha hf]
      refine .after idle silent fine ?_
      have known := computeFrames_ok hf
      cases hr : frames.head?.bind s₁.frames.remote with
      | none => exact .fine rfl
      | some top =>
        have hne : frames ≠ [] := by
          rintro rfl
          cases hr
        have hk := (known hne).2
        rw [← idle.isSuspended] at hs
        rw [← idle.stepping] at hn
        rw [← hk] at hne
        dsimp only
        cases hc : Session.createStepRequest (Stepping.nextRequest kind
          ⟨kind.depth, top.location, frames.length⟩ filters requested (s₁.thread t).id) s₁.session with
        | error e m =>
          exact .looked (.single (.exchange (.stepRefused hc))) (refused_silent hc) hs hn
        | ok request m =>
          exact enter_attempted ⟨kind, ⟨kind.depth, top.location, frames.length⟩, request, filters,
            requested⟩ kind.forcesReturn hs hne (idle.path.stepPath.booked hb).1.deletions hc
    · rw [stateAfter_of_error hf] at idle
      rw [startStep, stateAfter_bind_ok (needTarget_alive ha), stateAfter_bind_error hf]
      exact .looked idle silent hs hn

/-! ## The operations that start steps -/

/-- Whether a thread can step is clear at once, or it is suspended without a step and its stack tells. -/
private theorem canStep_cases (t : ThreadRef) (s : System (Faulty Machine)) :
    canStep t s = (false, s) ∨
      (s.thread t).isSuspended ∧ (s.thread t).stepping = none ∧
        ((∃ frames s', stackFrames t s = .ok frames s' ∧ canStep t s = (!frames.isEmpty, s')) ∨
          ∃ e s', stackFrames t s = .error e s' ∧ canStep t s = (false, s')) := by
  rw [canStep, run_get_bind]
  split
  · exact .inl rfl
  · rename_i ready
    split
    · exact .inl rfl
    · right
      simp only [Bool.or_eq_true, Bool.not_eq_true', not_or, Bool.not_eq_false, Option.isSome_iff_ne_none,
        ne_eq, not_not] at ready
      refine ⟨ready.1, ready.2, ?_⟩
      cases hf : stackFrames t s with
      | ok frames s' =>
        rw [run_bind (attempt_ok hf)]
        exact .inl ⟨frames, s', rfl, rfl⟩
      | error e s' =>
        rw [run_bind (attempt_error hf)]
        exact .inr ⟨e, s', rfl, rfl⟩

section

variable {op : Client (Faulty Machine) Unit}

/-- What is done after the question whether the thread can step. -/
private theorem canStepThen_attempted
    (h : ∀ s, s.Booked → (s.thread t).isSuspended → (s.thread t).stepping = none →
      Attempted t s (stateAfter op s)) (hb : s.Booked) :
    Attempted t s (stateAfter (do if ← act (canStep t) then op) s) := by
  have idle := stackFrames_idle t s
  have run {can : Bool} {s' : System (Faulty Machine)} (hc : canStep t s = (can, s')) :
      stateAfter (do if ← act (canStep t) then op) s =
        stateAfter (if can = true then op else pure ()) s' := by
    have hc' : (act (canStep t) : Client (Faulty Machine) Bool) s = .ok can s' := by
      simp only [act, hc]
    exact stateAfter_bind_ok hc'
  rcases canStep_cases t s with hc | ⟨hs, hn, ⟨frames, s', hf, hc⟩ | ⟨e, s', hf, hc⟩⟩
  · rw [run hc]
    exact .fine rfl
  · rw [stateAfter_of_ok hf] at idle
    rw [run hc]
    rcases stackFrames_looks t s with ⟨_, _, hl, silent, fine⟩ | ⟨_, _, hl, -⟩
    · rw [hf] at hl
      cases hl
      refine .after idle silent fine ?_
      split
      · exact h s' (idle.path.stepPath.booked hb).1 ((idle.isSuspended t).trans hs)
          ((idle.stepping t).trans hn)
      · exact .fine rfl
    · rw [hf] at hl
      cases hl
  · rw [stateAfter_of_error hf] at idle
    rw [run hc]
    rcases stackFrames_looks t s with ⟨_, _, hl, -⟩ | ⟨_, _, hl, silent⟩
    · rw [hf] at hl
      cases hl
    · rw [hf] at hl
      cases hl
      exact .looked idle silent hs hn

/-- What is done in a target that lives. -/
private theorem needTargetThen_attempted (h : Attempted t s (stateAfter op s)) :
    Attempted t s (stateAfter (needTarget >>= fun _ => op) s) := by
  cases ha : s.targetAlive with
  | false =>
    rw [stateAfter_bind_error (needTarget_gone ha)]
    exact .fine rfl
  | true =>
    rw [stateAfter_bind_ok (needTarget_alive ha)]
    exact h

/-- What is done once something was looked up. -/
private theorem looksThen_attempted {α : Type} {look : Client (Faulty Machine) α}
    {f : α → Client (Faulty Machine) Unit} (idle : Within IdlePath look) (looks : Looks look)
    (h : ∀ a s, s.Booked → (s.thread t).isSuspended → (s.thread t).stepping = none →
      Attempted t s (stateAfter (f a) s))
    (hb : s.Booked) (hs : (s.thread t).isSuspended) (hn : (s.thread t).stepping = none) :
    Attempted t s (stateAfter (look >>= f) s) := by
  have idle := idle s
  rcases looks s with ⟨a, s', hl, silent, fine⟩ | ⟨e, s', hl, silent⟩
  · rw [stateAfter_of_ok hl] at idle
    rw [stateAfter_bind_ok hl]
    exact .after idle silent fine (h a s' (idle.path.stepPath.booked hb).1
      ((idle.isSuspended t).trans hs) ((idle.stepping t).trans hn))
  · rw [stateAfter_of_error hl] at idle
    rw [stateAfter_bind_error hl]
    exact .looked idle silent hs hn

end

/-- The thread that an operation starts a step in. -/
def Operation.stepped? : Operation → Option ThreadRef
  | step t _ _ | stepWithTargetFilters t _ | stepWithFilters t | stepToFrame t _ | dropToFrame t _ => some t
  | _ => none

private theorem step_attempted (kind : StepKind) (filters : StepFilters) (hb : s.Booked) :
    Attempted t s (stateAfter (step t kind filters) s) :=
  canStepThen_attempted (fun _ hb hs hn => startStep_attempted kind filters false hb hs hn) hb

private theorem dropToFrame_attempted (frame : FrameRef) (hb : s.Booked) :
    Attempted t s (stateAfter (dropToFrame t frame) s) := by
  rw [dropToFrame]
  refine needTargetThen_attempted ?_
  rw [stateAfter_get_bind]
  refine canStepThen_attempted (fun s₁ hb hs hn => ?_) hb
  refine looksThen_attempted (locate_idle t frame) (locate_looks t frame) (fun p s₂ hb hs hn => ?_)
    hb hs hn
  obtain ⟨frames, index⟩ := p
  rw [stateAfter_get_bind]
  split
  · exact looksThen_attempted (popLoop_idle t frame _ _ _) (popLoop_looks t frame _ _ _)
      (fun _ s₃ hb hs hn => startStep_attempted .into s.filters false hb hs hn) hb hs hn
  · exact startStep_attempted (.dropToFrame index) s.filters false hb hs hn

/-- Any request for a step is granted, or leaves the thread suspended without one. -/
theorem Operation.attempted {o : Operation} (ho : o.stepped? = some t) (hb : s.Booked) :
    Attempted t s (o.perform s) := by
  cases o with
  | step u kind filters =>
    cases ho
    exact step_attempted kind filters hb
  | stepWithTargetFilters u kind =>
    cases ho
    rw [Operation.perform, Debugger.stepWithTargetFilters]
    refine needTargetThen_attempted ?_
    rw [stateAfter_get_bind]
    exact step_attempted kind s.filters hb
  | stepWithFilters u =>
    cases ho
    rw [Operation.perform, Debugger.stepWithFilters]
    refine needTargetThen_attempted ?_
    rw [stateAfter_get_bind]
    dsimp only
    split
    · exact canStepThen_attempted (fun _ hb hs hn => startStep_attempted .into _ true hb hs hn) hb
    · exact .fine rfl
  | stepToFrame u frame =>
    cases ho
    rw [Operation.perform, Debugger.stepToFrame]
    refine needTargetThen_attempted ?_
    rw [stateAfter_get_bind]
    refine canStepThen_attempted (fun s₁ hb hs hn => ?_) hb
    exact looksThen_attempted (locate_idle t frame) (locate_looks t frame)
      (fun p s₂ hb hs hn => startStep_attempted _ s.filters false hb hs hn) hb hs hn
  | dropToFrame u frame =>
    cases ho
    exact dropToFrame_attempted frame hb
  | _ => cases ho

end Debugger
