import Debugger.Proofs.StepRounds
import Debugger.Proofs.KnownFrames
import Debugger.Proofs.StepAttempts

/-! # Whole steps

A step of a thread that can step begins with a look at the stack, from which the step knows where it started.
If its legs have an itinerary and no call fails, it comes to its end there, and the client is shown the stack on
which the last leg landed.
-/

namespace Debugger

variable {s s₁ s₂ : System (Faulty Machine)} {t : ThreadRef} {frames : List FrameRef} {f f' f₁ : Faulty Machine}

/-! ## The look at the stack -/

/-- A look at a stack leaves the machine alone, and schedules no failure. -/
theorem Faulty.Smooth.looked {thread : ThreadId} {stack : List RemoteFrame} (smooth : f.Smooth)
    (h : Session.frames thread f = .ok stack f') : f.Turns f.inner f' := by
  have same := (Faulty.frames_ok h).2
  rcases Faulty.guarded_cases .frames (Session.frames thread) f with ⟨a, f₁, answer, made, -⟩ | ⟨e, f₁, answer, -, -⟩
  · cases answer.symm.trans h
    rw [same] at made
    obtain ⟨f₂, answer', turn⟩ := smooth.guarded .frames made smooth.resumeFailures
    cases answer'.symm.trans h
    exact turn
  · cases answer.symm.trans h

/-- What a look at the stack of a suspended thread changes is the machine's schedule and what is known of frames. -/
theorem stackFrames_leaves (smooth : s.session.Smooth) (hs : (s.thread t).isSuspended)
    (shown : stackFrames t s = .ok frames s₁) :
    s₁.scene = s.scene ∧ s₁.bus = s.bus ∧ s.session.Turns s.session.inner s₁.session := by
  obtain ⟨-, ⟨-, rfl⟩ | ⟨remote, m, looked, rfl⟩⟩ := computeFrames_shown shown hs
  · exact ⟨rfl, rfl, rfl, rfl, smooth⟩
  · have rest := System.updateFrames_rest { s with session := m } t remote
    have session : ({ s with session := m }.updateFrames t remote).session = m := (congrArg System.session rest :)
    refine ⟨(congrArg System.scene rest :), (congrArg System.bus rest :), ?_⟩
    rw [session]
    exact smooth.looked looked

/-- A stack that has to be looked at again is shown as it is. -/
theorem stackFrames_stale {stack : List RemoteFrame} (tidy : s.Tidy) (hs : (s.thread t).isSuspended)
    (stale : (s.thread t).refresh = true) (smooth : s.session.Smooth)
    (stands : s.session.inner.Stands (s.thread t).id stack) :
    ∃ frames s₁, stackFrames t s = .ok frames s₁ ∧ frames.map s₁.frames.remote = stack.map some := by
  obtain ⟨m, answer, -⟩ := smooth.frames stands
  obtain ⟨frames, s₁, shown⟩ := stackFrames_answers hs fun e m' refused => by
    cases refused.symm.trans answer
  refine ⟨frames, s₁, shown, ?_⟩
  obtain ⟨rfl, ⟨fresh, -⟩ | ⟨remote, m', looked, rfl⟩⟩ := computeFrames_shown shown hs
  · rw [stale] at fresh
    cases fresh
  · have stackOf : s.stackOf t = stack := by
      obtain ⟨task, here, -, frames⟩ := stands
      rw [System.stackOf, Machine.framesOf, here]
      exact frames
    exact stackOf ▸ (shown_of_look tidy hs looked).2

theorem shownStack_of_bound {stack : List RemoteFrame} (shown : stackFrames t s = .ok frames s₁)
    (bound : frames.map s₁.frames.remote = stack.map some) : s.shownStack t = stack := by
  rw [System.shownStack, shown]
  have same := congrArg (List.filterMap fun r => r) bound
  rw [List.filterMap_map, List.filterMap_map] at same
  exact same.trans List.filterMap_some

/-! ## The start -/

/-- The step as it starts on the stack. -/
def Stepping.start (kind : StepKind) (filters : StepFilters) (requested : Bool) (request : RequestId)
    (top : RemoteFrame) (below : List RemoteFrame) : Stepping :=
  ⟨kind, ⟨kind.depth, top.location, below.length + 1⟩, request, filters, requested⟩

/-- The thread was let run for the step, and this is announced. -/
structure System.Departed (s s' : System (Faulty Machine)) (t : ThreadRef) (st : Stepping)
    (session : Faulty Machine) : Prop where
  session : s'.session = session
  id : (s'.thread t).id = (s.thread t).id
  stepping : (s'.thread t).stepping = some st
  stale : (s'.thread t).refresh = true
  scene : s'.scene = s.scene
  bus : s'.bus = s.bus.fire (stepStartEvent (s.thread t).id st.kind)

private theorem refresh_enterStep (s : System (Faulty Machine)) (ht : t < s.threads.size) (st : Stepping)
    (m : Faulty Machine) : ((s.enterStep t st m).thread t).refresh = true := by
  rw [thread_enterStep, System.thread_startRunning, System.thread_mapThread_self (by rwa [System.size_mapThread])]
  rfl

variable {kind : StepKind} {filters : StepFilters} {requested : Bool} {top : RemoteFrame} {below : List RemoteFrame}

/-- Once the stack is known, the first leg of the step begins. -/
theorem startStep_departs (alive : s.targetAlive) (ht : t < s.threads.size)
    (shown : stackFrames t s = .ok frames s) (bound : frames.map s.frames.remote = (top :: below).map some)
    {st : Stepping} (start : st = .start kind filters requested s.session.inner.nextRequest top below)
    (made : (st.leg (s.thread t).id).begin s.session = .ok s.session.inner.nextRequest f₁) :
    s.Departed (stateAfter (startStep t kind filters requested) s) t st f₁ := by
  obtain ⟨frame, others, rfl, first, rest⟩ : ∃ frame others, frames = frame :: others ∧
      s.frames.remote frame = some top ∧ others.length = below.length := by
    cases frames with
    | nil => cases bound
    | cons frame others =>
      obtain ⟨first, rest⟩ := List.cons.inj bound
      exact ⟨frame, others, rfl, first, by simpa using congrArg List.length rest⟩
  obtain ⟨m, created, run⟩ := Leg.begin_split made
  have id : ((s.enterStep t st m).thread t).id = (s.thread t).id := Element.thread.inj (element_enterStep s t st m)
  have asked : Session.createStepRequest (Stepping.nextRequest kind ⟨kind.depth, top.location, below.length + 1⟩
      filters requested (s.thread t).id) s.session = .ok s.session.inner.nextRequest m := by
    rw [start] at created
    exact created
  have entered : stateAfter (startStep t kind filters requested) s = stateAfter (runStep t st.kind.forcesReturn)
      ((s.enterStep t st m).fire (s.element t) (.resume st.kind.detail)) := by
    rw [startStep_state kind filters requested alive shown, List.head?_cons, Option.bind_some, first]
    dsimp only
    rw [List.length_cons, rest, asked, start]
    rfl
  rw [entered, stateAfter_of_ok (runStep_ok (m := f₁) (by
    rw [show (((s.enterStep t st m).fire (s.element t) (.resume st.kind.detail)).thread t).id = _ from id]
    exact run))]
  exact ⟨rfl, id, stepping_enterStep ht st m, refresh_enterStep s ht st m, rfl, rfl⟩

namespace System

variable {st : Stepping}

/-- The landing of the first leg is then all that is left. -/
theorem Departed.midway (h : s.Departed s₁ t st f₁) (reachable : Reachable scripted s₁) (settled : s.UpToDate)
    (roomy : s.Roomy) (request : st.request = s.session.inner.nextRequest)
    (begins : (st.leg (s.thread t).id).Begins s.session top below f₁) : s₁.Midway t st top below := by
  have read : s₁.reader = s.session.inner.events.subscribe := (congrArg Scene.reader h.scene).trans settled.read
  refine ⟨reachable, h.stepping, h.stale, ⟨settled.toAttentive.of_scene h.scene, ?_⟩, h.session ▸ begins.smooth, ?_⟩
  · rw [h.id, read, h.session, request]
    change f₁.inner.events.receive? _ = some (_, f₁.inner.events.subscribe)
    rw [begins.lands.events]
    exact Channel.receive?_send _ _ roomy
  · rw [h.id, h.session]
    exact begins.lands.stands

/-! ## From the start to the end -/

/-- A step was taken from the beginning to the end: its legs are on record, its start and its end were announced,
each once, and the thread is suspended on the stack, which a client is shown. -/
structure Stepped (s s' : System (Faulty Machine)) (t : ThreadRef) (kind : StepKind) (legs : List Leg)
    (stack : List RemoteFrame) : Prop where
  settled : s'.UpToDate
  suspended : (s'.thread t).isSuspended
  stepping : (s'.thread t).stepping = none
  published : s'.bus.published =
    s.bus.published ++ [stepStartEvent (s.thread t).id kind] ++ s.bus.queued ++ [stepEndEvent (s.thread t).id]
  queued : s'.bus.queued = []
  recorded : ∃ ids, s.session.inner.Recorded s'.session.inner legs ids
  stands : s'.session.inner.Stands (s.thread t).id stack
  shown : s'.shownStack t = stack

/-- A client is shown the stack on which a thread rests. -/
theorem Rests.shown {id : ThreadId} {published : List DebugEvent} {stack : List RemoteFrame}
    (h : s.Rests t id f published) (smooth : f.Smooth) (stands : f.inner.Stands id stack) :
    s.shownStack t = stack := by
  obtain ⟨rfl, rfl⟩ : s.session = f ∧ (s.thread t).id = id := ⟨h.session, h.id⟩
  obtain ⟨frames, s₁, shown, bound⟩ := stackFrames_stale h.reachable.occurs.tidy h.suspended h.stale smooth stands
  exact shownStack_of_bound shown bound

/-- A step whose legs have an itinerary is taken from the beginning to the end, whatever filters the client gives
the target meanwhile, and no leg is begun but as the itinerary has it. -/
theorem Poised.stepped {legs : List Leg} {stack : List RemoteFrame} (h : s.Poised t frames s₁)
    (occurs : Occurs scripted s) (settled : s.UpToDate) (smooth : s.session.Smooth)
    (shows : s.shownStack t = top :: below)
    (performed : Reachable scripted (stateAfter (startStep t kind filters requested) s₁))
    (few : s.session.inner.requestsMade + legs.length < UInt32.size)
    (itinerary : Itinerary (s.thread t).id
      (.start kind filters requested s₁.session.inner.nextRequest top below) s₁.session legs f' stack)
    (fs : List (Option StepFilters)) :
    ((stateAfter (startStep t kind filters requested) s₁).amid fs).session =
        stateAfter (Leg.runFirst fs.length legs) s₁.session ∧
      (legs.length ≤ fs.length →
        s.Stepped ((stateAfter (startStep t kind filters requested) s₁).amid fs) t kind legs stack) := by
  have tidy := occurs.tidy
  obtain ⟨scene, bus, turn⟩ := stackFrames_leaves smooth h.suspended h.shown
  have looked : IdlePath s s₁ := stateAfter_of_ok h.shown ▸ stackFrames_idle t s
  have occurs₁ := h.occurs occurs
  have settled₁ : s₁.UpToDate := by
    refine ⟨settled.toAttentive.of_scene scene, ?_⟩
    rw [show s₁.reader = s.reader from congrArg Scene.reader scene, settled.read]
    change _ = s₁.session.inner.events.subscribe
    rw [turn.inner]
    rfl
  have is := looked.id t
  rw [← turn.inner] at few
  rw [← is] at itinerary
  have departs {f₁ : Faulty Machine} (made : ((Stepping.start kind filters requested s₁.session.inner.nextRequest
      top below).leg (s₁.thread t).id).begin s₁.session = .ok s₁.session.inner.nextRequest f₁) :
      s₁.Departed (stateAfter (startStep t kind filters requested) s₁) t _ f₁ :=
    startStep_departs settled₁.alive (System.lt_size_of_suspended ((looked.isSuspended t).trans h.suspended))
      (h.again tidy) (shows ▸ h.bound occurs) rfl made
  obtain ⟨_, _, f₁, first⟩ := itinerary.begins
  have departed := departs first.made
  generalize stateAfter (startStep t kind filters requested) s₁ = s₂ at performed departs departed ⊢
  obtain ⟨session, rests⟩ := itinerary.run few rfl departed.id (fun begins => ⟨(departs begins.made).session,
    (departs begins.made).midway performed settled₁ occurs₁.roomy rfl begins⟩) fs
  refine ⟨session, fun long => ?_⟩
  have rests := rests long
  have told : s₂.told = s.bus.published ++ [stepStartEvent (s.thread t).id kind] ++ s.bus.queued := by
    rw [System.told, departed.bus, bus, is, Bus.published_fire, Bus.queued_fire]
    rfl
  have recorded := itinerary.recorded occurs₁.booked.numbered few
  rw [is] at itinerary rests
  exact {
    settled := rests.settled
    suspended := rests.suspended
    stepping := rests.stepping
    published := rests.published.trans (by rw [told])
    queued := rests.queued
    recorded := rests.session ▸ turn.inner ▸ recorded
    stands := rests.session ▸ itinerary.stands
    shown := rests.shown itinerary.smooth itinerary.stands }

/-- The thread can step and no call is to fail, but when there is nothing left to do after the operation, the step of
the thread was announced and no end of it. -/
structure Unheard (s : System (Faulty Machine)) (t : ThreadRef) (kind : StepKind) (o : Operation) : Prop where
  reachable : Reachable scripted s
  smooth : s.session.Smooth
  undeferred : s.session.inner.deferred.contains (s.thread t).id = false
  can : (canStep t s).1
  settled : (settle 4 (o.perform s)).2.isSettled
  heard : stepStartEvent (s.thread t).id kind ∈ (settle 4 (o.perform s)).2.bus.published
  unheard : stepEndEvent (s.thread t).id ∉ (settle 4 (o.perform s)).2.bus.published

end System

end Debugger
