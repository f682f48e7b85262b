import Debugger.Proofs.FrameAnswers
import Debugger.Proofs.KnownFrames

/-! # Frames that are missing

A machine may show no frames of a thread that was only just suspended.  As long as no frames of the thread are known
its stack is looked at again for every client that asks.  But a look that finds no stack where frames are known takes
the thread for one without frames, and until the thread runs or dies no client makes the debugger look again, unless
it insists.
-/

namespace Debugger

open Scenario

section

variable {σ : Type} [Session σ] {w : Surroundings σ} {s s' : System σ} {t : ThreadRef}

/-- No frame is known of the thread, and yet its stack is not to be looked at again. -/
def System.Frameless (s : System σ) (t : ThreadRef) : Prop :=
  (s.thread t).frames = [] ∧ (s.thread t).refresh = false

/-- A look at the thread's stack finds none although frames are known. -/
structure LosesFrames (t : ThreadRef) (s s' : System σ) : Prop where
  suspended : (s.thread t).isSuspended
  known : (s.thread t).frames ≠ []
  looked : ∃ m, Session.frames (s.thread t).id s.session = .ok [] m ∧ s' = { s with session := m }.updateFrames t []

omit [Session σ] in
/-- A look leaves the thread without frames if it finds none, unless none were known and another look was due. -/
theorem frameless_look {m : σ} {remote : List RemoteFrame} (tidy : s.Tidy) (hs : (s.thread t).isSuspended) :
    ({ s with session := m }.updateFrames t remote).Frameless t ↔
      remote = [] ∧ ((s.thread t).frames ≠ [] ∨ s.Frameless t) := by
  by_cases unknown : remote = [] ∧ (s.thread t).frames = []
  · obtain ⟨rfl, unknown⟩ := unknown
    have known : ({ s with session := m }.thread t).frames = [] := unknown
    have same : { s with session := m }.updateFrames t [] = { s with session := m } := by
      simp only [System.updateFrames, known]
    rw [same]
    exact ⟨fun h => ⟨rfl, .inr h⟩, fun h => h.2.resolve_left (not_not_intro unknown)⟩
  · have asked : { s with session := m }.Tidy := tidy.carry rfl fun _ => .inl rfl
    have looked := (asked.looked (System.lt_size_of_suspended hs) remote).resolve_left
      fun h => unknown ⟨h.1, h.2.1⟩
    have length := congrArg List.length looked.fits.bound
    rw [List.length_map, List.length_map] at length
    constructor
    · rintro ⟨gone, -⟩
      rw [gone] at length
      obtain rfl := List.eq_nil_of_length_eq_zero length.symm
      exact ⟨rfl, .inl fun none => unknown ⟨rfl, none⟩⟩
    · rintro ⟨rfl, -⟩
      exact ⟨List.eq_nil_of_length_eq_zero length, looked.refresh⟩

theorem LosesFrames.frameless (h : LosesFrames t s s') (tidy : s.Tidy) : s'.Frameless t := by
  obtain ⟨m, -, rfl⟩ := h.looked
  exact (frameless_look tidy h.suspended).mpr ⟨rfl, .inl h.known⟩

/-- Nothing else makes a thread frameless. -/
theorem Turn.frameless (h : Turn t s s') (tidy : s.Tidy) (now : s'.Frameless t) :
    s.Frameless t ∨ LosesFrames t s s' := by
  have kept (same : (s'.thread t).cache = (s.thread t).cache) : s.Frameless t :=
    ⟨(Thread.frames_of_cache same).symm.trans now.1, (Thread.refresh_of_cache same).symm.trans now.2⟩
  have due (stale : (s'.thread t).refresh = true) : False := Bool.false_ne_true (now.2.symm.trans stale)
  cases h with
  | rests h =>
    cases h with
    | stays cache => exact .inl (kept cache)
    | dies _ refresh => exact (due refresh).elim
  | unbinds stale => exact (due stale).elim
  | @looks remote m hs h =>
    obtain ⟨rfl, known | before⟩ := (frameless_look tidy hs).mp now
    · exact .inr ⟨hs, known, m, h, rfl⟩
    · exact .inl before
  | goesOn h =>
    obtain ⟨-, old, new, session, -, rfl⟩ := h
    exact .inl (kept (cache_goesOn t))

/-- A thread is frameless exactly if it lost its frames at a look and has been without them ever since. -/
theorem frameless_iff (occurs : Occurs w s) :
    s.Frameless t ↔ ∃ a b, Occurs w a ∧ LosesFrames t a b ∧
      Relation.ReflTransGen (fun x y => Happens w x y ∧ y.Frameless t) b s := by
  constructor
  · obtain ⟨m, settings, start, course⟩ := occurs
    intro now
    induction course with
    | refl => cases now.2
    | @tail a b before last ih =>
      have occurs : Occurs w a := ⟨m, settings, start, before⟩
      rcases (last.turn occurs.tidy).frameless occurs.tidy now with earlier | lost
      · obtain ⟨x, y, comes, lost, since⟩ := ih earlier
        exact ⟨x, y, comes, lost, since.tail ⟨last, now⟩⟩
      · exact ⟨a, b, occurs, lost, .refl⟩
  · rintro ⟨a, b, comes, lost, since⟩
    cases since with
    | refl => exact lost.frameless comes.tidy
    | tail _ last => exact last.2

/-! ## What a client is shown -/

omit [Session σ] in
/-- The frames that are known after a look are those that the machine showed. -/
theorem bound_look {m : σ} {remote : List RemoteFrame} (tidy : s.Tidy) (hs : (s.thread t).isSuspended) :
    (({ s with session := m }.updateFrames t remote).thread t).frames.map
      ({ s with session := m }.updateFrames t remote).frames.remote = remote.map some := by
  have asked : { s with session := m }.Tidy := tidy.carry rfl fun _ => .inl rfl
  rcases asked.looked (System.lt_size_of_suspended hs) remote with ⟨rfl, unknown, same⟩ | looked
  · have unknown : (s.thread t).frames = [] := unknown
    rw [same]
    exact congrArg _ unknown
  · exact looked.fits.bound

/-- A stack that has to be looked at is asked of the machine. -/
theorem stackFrames_looks_again {remote : List RemoteFrame} {m : σ} (hs : (s.thread t).isSuspended)
    (due : (s.thread t).refresh) (h : Session.frames (s.thread t).id s.session = .ok remote m) :
    stackFrames t s = .ok (({ s with session := m }.updateFrames t remote).thread t).frames
      ({ s with session := m }.updateFrames t remote) := by
  rw [stackFrames, computeFrames, act_get_bind]
  simp only [hs, due, Bool.or_true, if_true]
  rw [run_ok_bind (remoteFrames_answer h)]
  rfl

/-- When the machine does not answer, nothing is known afterwards that was not known before. -/
theorem stackFrames_unanswered {e : SessionError} {m : σ} (hs : (s.thread t).isSuspended) (due : (s.thread t).refresh)
    (h : Session.frames (s.thread t).id s.session = .error e m) :
    ∃ d, stackFrames t s = .error d { s with session := m } := by
  have refused : ∃ d, remoteFrames t s = .error d { s with session := m } := by
    rw [remoteFrames, act_get_bind]
    simp only [bind, EStateM.bind, ask, act, h]
    cases e <;> exact ⟨_, rfl⟩
  obtain ⟨d, refused⟩ := refused
  refine ⟨d, ?_⟩
  rw [stackFrames, computeFrames, act_get_bind]
  simp only [hs, due, Bool.or_true, if_true, bind, EStateM.bind, refused]

/-- A thread that does not step can step if a client is shown frames of it, unless code is being replaced. -/
theorem canStep_of_shown {frames : List FrameRef} (hs : (s.thread t).isSuspended)
    (unstepped : (s.thread t).stepping = none) (unreplaced : (s.targetAlive && s.replacingCode) = false)
    (shown : stackFrames t s = .ok frames s') : canStep t s = (!frames.isEmpty, s') := by
  rw [canStep, run_get_bind]
  simp only [hs, unstepped, unreplaced]
  exact run_bind (attempt_ok shown)

/-- A thread is frameless exactly since a look at which it lost its frames.  Of a frameless thread a client is shown
nothing and it cannot step, whatever stack the machine has.  Of any other thread of which no frames are known, the stack
is due to be looked at.  A stack that is due is asked of the machine, and the client is shown the machine's answer: if
that is no stack, another look is due exactly if no frames were known before, and with any other the thread can
step.  If the machine fails to answer, the stack is as due as before. -/
theorem missing_frames_asked_again_iff (occurs : Occurs w s) (hs : (s.thread t).isSuspended) :
    (s.Frameless t ↔ ∃ a b, Occurs w a ∧ LosesFrames t a b ∧
      Relation.ReflTransGen (fun x y => Happens w x y ∧ y.Frameless t) b s) ∧
    (s.Frameless t → stackFrames t s = .ok [] s ∧ (canStep t s).1 = false) ∧
    (¬ s.Frameless t → (s.thread t).frames = [] → (s.thread t).refresh) ∧
    ((s.thread t).refresh → ∀ remote m, Session.frames (s.thread t).id s.session = .ok remote m →
      ∃ frames s', stackFrames t s = .ok frames s' ∧ s'.session = m ∧
        frames.map s'.frames.remote = remote.map some ∧
        (remote = [] → ((s'.thread t).refresh ↔ (s.thread t).frames = [])) ∧
        (remote ≠ [] → (s.thread t).stepping = none → (s.targetAlive && s.replacingCode) = false →
          canStep t s = (true, s'))) ∧
    ((s.thread t).refresh → ∀ e m, Session.frames (s.thread t).id s.session = .error e m →
      ∃ d, stackFrames t s = .error d { s with session := m }) := by
  refine ⟨frameless_iff occurs, fun gone => ?_, fun some_due unknown => ?_, fun due remote m h => ?_,
    fun due e m h => stackFrames_unanswered hs due h⟩
  · have shown : stackFrames t s = .ok [] s := (stackFrames_known hs gone.2).trans (by rw [gone.1])
    refine ⟨shown, ?_⟩
    cases can : (canStep t s).1 with
    | false => rfl
    | true =>
      obtain ⟨frames, s', poised⟩ := canStep_poised can
      cases shown.symm.trans poised.shown
      exact (poised.stacked rfl).elim
  · exact eq_true_of_ne_false fun fresh => some_due ⟨unknown, fresh⟩
  · have shown := stackFrames_looks_again hs due h
    have bound : (({ s with session := m }.updateFrames t remote).thread t).frames.map _ = remote.map some :=
      bound_look occurs.tidy hs
    have look : ({ s with session := m }.updateFrames t remote).Frameless t ↔ _ := frameless_look occurs.tidy hs
    have session : ({ s with session := m }.updateFrames t remote).session = m :=
      (congrArg System.session (System.updateFrames_rest { s with session := m } t remote) :)
    generalize { s with session := m }.updateFrames t remote = s' at *
    refine ⟨_, s', shown, session, bound, ?_, fun stack unstepped unreplaced => ?_⟩
    · rintro rfl
      have none : (s'.thread t).frames = [] := List.map_eq_nil_iff.mp bound
      have fresh : (s'.thread t).refresh = false ↔ (s.thread t).frames ≠ [] := by
        simpa [System.Frameless, none, due] using look
      rw [← Bool.not_eq_false, fresh, not_not]
    · rw [canStep_of_shown hs unstepped unreplaced shown]
      have frames : (s'.thread t).frames ≠ [] := fun none => by
        rw [none] at bound
        exact stack (List.map_eq_nil_iff.mp bound.symm)
      rw [List.isEmpty_eq_false_iff.mpr frames]
      rfl

end

/-! ## Samples -/

/-- A thread of which the machine shows no frames yet. -/
private def bareTask : Machine.Task := { sampleTask 1 with frames := [] }

private def unframed : System (Faulty Machine) := (sampleSystem [.addTask bareTask]).performAll [.frames 0]

/-- The machine shows another stack. -/
private def System.showing (s : System (Faulty Machine)) (stack : List RemoteFrame) : System (Faulty Machine) :=
  { s with session := ((MachineCommand.setFrames 1 stack).applyFaulty s.session).2 }

private theorem showing_reachable {s : System (Faulty Machine)} (h : Reachable scripted s) (stack : List RemoteFrame) :
    Reachable scripted (s.showing stack) := h.move (.machine ⟨.setFrames 1 stack, trivial, rfl⟩)

private theorem unframed_reachable : Reachable scripted unframed :=
  (sampleSystem_reachable (sampleMachine_starts (by simp [MachineCommand.SparesSteps])) (by decide +kernel)).performAll
    [.frames 0]

private def framed : System (Faulty Machine) := unframed.showing [sampleFrame 3 103 "callee" 20]

/-- A client that was shown nothing is shown the stack once the machine shows one. -/
theorem missing_frames_shown_later :
    (stackFrames 0).run' (sampleSystem [.addTask bareTask]) = some [] ∧
      ∃ frames s, stackFrames 0 framed = .ok frames s ∧
        frames.map s.frames.remote = [some (sampleFrame 3 103 "callee" 20)] ∧ canStep 0 framed = (true, s) := by
  refine ⟨by decide +kernel, ?_⟩
  have reachable : Reachable scripted framed := showing_reachable unframed_reachable _
  have suspended : (framed.thread 0).isSuspended := by decide +kernel
  have stack : (Session.frames (framed.thread 0).id).run' framed.session = some [sampleFrame 3 103 "callee" 20] := by
    decide +kernel
  have answers := (missing_frames_asked_again_iff reachable.occurs suspended).2.2.2.1 (by decide +kernel)
  obtain ⟨frames, s, answer, -, bound, -, steps⟩ := answers _ _ (ok_of_run' stack)
  exact ⟨frames, s, answer, bound, steps (by decide) (by decide +kernel) (by decide +kernel)⟩

/-- A thread whose frames are known runs, is found without a stack once the machine is suspended, and has one again. -/
private def astray : System (Faulty Machine) :=
  ((((sampleSystem [.addTask (sampleTask 1)]).performAll [.frames 0, .resume 0]).showing []).performAll
    [.suspendAll, .frames 0]).showing [sampleFrame 3 103 "callee" 20]

/-- The client is shown no frame of a suspended thread that has one, and it cannot step. -/
theorem stack_missed_for_good :
    Reachable scripted astray ∧ (astray.thread 0).isSuspended ∧
      astray.stackOf 0 = [sampleFrame 3 103 "callee" 20] ∧ (stackFrames 0).run' astray = some [] ∧
      (canStep 0 astray).1 = false := by
  have start : Reachable scripted (sampleSystem [.addTask (sampleTask 1)]) :=
    sampleSystem_reachable (sampleMachine_starts (by simp [MachineCommand.SparesSteps])) (by decide +kernel)
  have gone := showing_reachable (start.performAll [.frames 0, .resume 0]) []
  exact ⟨showing_reachable (gone.performAll [.suspendAll, .frames 0]) _, by decide +kernel, by decide +kernel,
    by decide +kernel, by decide +kernel⟩

end Debugger
