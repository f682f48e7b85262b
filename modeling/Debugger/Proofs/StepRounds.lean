import Debugger.Proofs.Itinerary
import Debugger.Proofs.Resumption

/-! # The rounds of a step

When a leg of a step has landed and nothing else is left to do, the dispatcher judges the landing.  It ends the
step, or it begins the next leg, whose landing is then all that is left.  Along an itinerary the rounds follow
one another to its end, and the client's filters make no difference to them.
-/

namespace Debugger

variable {s s' : System (Faulty Machine)} {t : ThreadRef} {st : Stepping} {top : RemoteFrame}
  {below : List RemoteFrame} {f f₁ f₂ : Faulty Machine}

/-- A leg of the thread's step has landed, and nothing is left to do but to judge the landing. -/
structure System.Midway (s : System (Faulty Machine)) (t : ThreadRef) (st : Stepping) (top : RemoteFrame)
    (below : List RemoteFrame) : Prop where
  reachable : Reachable scripted s
  pending : (s.thread t).stepping = some st
  stale : (s.thread t).refresh = true
  left : s.Left (.single (.step st.request (s.thread t).id top.location))
  smooth : s.session.Smooth
  stands : s.session.inner.Stands (s.thread t).id (top :: below)

/-- What a round does to the system: the thread runs or not, its step is under way or not, and events are
announced. -/
structure System.Rounded (s s' : System (Faulty Machine)) (t : ThreadRef) (running : Bool)
    (stepping : Option Stepping) (events : List DebugEvent) (session : Faulty Machine) : Prop where
  session : s'.session = session
  thread : s'.thread t = ((s.thread t).setRunning running).setStepping stepping
  scene : s'.scene = s.turnTo.scene
  told : s'.told = s.told ++ events
  queued : s'.bus.queued = []

/-! ## One round -/

private theorem handleEvents_single {σ : Type} [Session σ] (e : VmEvent) (s : System σ) :
    handleEvents [e] s = ((handleEvent e s).1 = .staySuspended || false, (handleEvent e s).2) := rfl

private theorem landStep_finish {count : Option Nat} {landing : Location} (pending : (s.thread t).stepping = some st)
    (counted : st.countFrames (s.thread t).id s.session = .ok count f₁)
    (judged : (st.land landing count).2 = .finish) :
    landStep t st.request landing s = (.staySuspended, (stepEnd t (some st.request) { s with session := f₁ }).2) := by
  rw [landStep_pending pending, counted]
  dsimp only
  generalize st.land landing count = judgement at judged ⊢
  obtain ⟨kind, transition⟩ := judgement
  obtain rfl : transition = .finish := judged
  rfl

private theorem landStep_continue {count : Option Nat} {landing : Location} {kind : StepKind}
    (pending : (s.thread t).stepping = some st)
    (counted : st.countFrames (s.thread t).id s.session = .ok count f₁)
    (judged : st.land landing count = (kind, .continue)) :
    landStep t st.request landing s = continueStep t { st with kind } { s with session := f₁ } := by
  rw [landStep_pending pending, counted]
  dsimp only
  rw [judged]

/-- To finish a leg is to count the frames where the judgement needs their number, and then to delete the
request. -/
private theorem countFrames_finish {request : RequestId} {thread : ThreadId} (smooth : f.Smooth)
    (stands : f.inner.Stands thread (top :: below))
    (finished : (st.leg thread).finish request f = .ok () f₂) :
    ∃ f₁, st.countFrames thread f = .ok (if st.needsFrameCount then some (below.length + 1) else none) f₁ ∧
      Session.deleteEventRequest .step request f₁ = .ok () f₂ := by
  rw [Stepping.countFrames]
  rw [Leg.finish, show (st.leg thread).counted = st.needsFrameCount from rfl] at finished
  cases needs : st.needsFrameCount with
  | false =>
    rw [needs] at finished
    exact ⟨f, rfl, finished⟩
  | true =>
    obtain ⟨f₁, counted, -⟩ : ∃ f₁, Session.frameCount (st.leg thread).request.thread f = .ok (below.length + 1) f₁ ∧
      f.Turns f.inner f₁ := smooth.frameCount stands
    rw [needs, if_pos rfl] at finished
    refine ⟨f₁, ?_, ?_⟩
    · have counted : Session.frameCount thread f = .ok (below.length + 1) f₁ := counted
      simp only [if_true, Functor.map, EStateM.map, counted]
    · rw [run_ok_bind counted] at finished
      exact finished

/-- To begin a leg is to make its request and then to let the thread run. -/
theorem Leg.begin_split {l : Leg} {request : RequestId} (made : l.begin f = .ok request f₂) :
    ∃ m, Session.createStepRequest l.request f = .ok request m ∧ letRun l.request.thread l.forced m = .ok () f₂ := by
  obtain ⟨r, m, created, made⟩ := bind_ok made
  obtain ⟨u, m', run, made⟩ := bind_ok made
  cases made
  exact ⟨m, created, run⟩

private theorem forcesReturn_late {kind : StepKind} (late : kind.runsAtOnce = false) : kind.forcesReturn = false := by
  cases kind with
  | dropToFrame n => cases late
  | _ => rfl

private theorem thread_renewStep (ht : t < s.threads.size) (new : Stepping) (m : Faulty Machine) :
    (s.renewStep t new m).thread t = (s.thread t).setStepping (some new) :=
  System.thread_mapThread_self ht (·.setStepping (some new))

/-- A step goes on with its next leg: the thread is let run at once, or with the set that reported the landing. -/
private theorem continueStep_begun {request : RequestId} (ht : t < s.threads.size)
    (deleted : Session.deleteEventRequest .step st.request s.session = .ok () f)
    (made : (st.leg (s.thread t).id).begin f = .ok request f₁) :
    ∃ s₁, s₁.thread t = ((s.thread t).setRunning true).setStepping (some { st with request }) ∧
      s₁.scene = s.scene ∧ s₁.told = s.told ∧
      (continueStep t st s = (.staySuspended, { s₁ with session := f₁ }) ∨
        continueStep t st s = (.resume, s₁) ∧ Session.resumeThread (s.thread t).id s₁.session = .ok () f₁) := by
  obtain ⟨m, created, run⟩ := Leg.begin_split made
  have session : (s.leaveRequest t st.request).session = f := by
    rw [session_leaveRequest, stateAfter_of_ok deleted]
  have thread : ((s.leaveRequest t st.request).renewStep t { st with request } m).thread t =
      ((s.thread t).setRunning true).setStepping (some { st with request }) := by
    rw [thread_renewStep (by rw [size_leaveRequest]; exact ht), thread_leaveRequest ht st.request]
  have id := congrArg Thread.id thread
  change Session.createStepRequest (st.next (s.thread t).id) f = .ok request m at created
  rw [continueStep_eq, session, created]
  dsimp only
  generalize hs₁ : (s.leaveRequest t st.request).renewStep t { st with request } m = s₁ at thread id ⊢
  refine ⟨s₁, thread, ?_, ?_, ?_⟩
  · rw [← hs₁]
    exact scene_leaveRequest s t st.request
  · rw [← hs₁]
    exact told_leaveRequest s t st.request
  · have held : s₁.session = m := by
      rw [← hs₁]
      rfl
    cases late : st.kind.runsAtOnce with
    | true =>
      refine .inl (congrArg _ (stateAfter_of_ok (runStep_ok ?_)))
      rw [held, id]
      exact run
    | false =>
      refine .inr ⟨rfl, ?_⟩
      rw [held]
      change letRun (s.thread t).id st.kind.forcesReturn m = _ at run
      rw [forcesReturn_late late] at run
      exact run

namespace System.Midway

variable (h : s.Midway t st top below) (few : s.session.inner.requestsMade < UInt32.size)

include h

/-- The dispatcher has the thread judge the landing, resumes it if the step goes on elsewhere, and publishes what
was queued. -/
private theorem runNext_eq (few : s.session.inner.requestsMade < UInt32.size) :
    ∃ d s₁, landStep t st.request top.location s.turnTo = (d, s₁) ∧
      (runNext s).2 = (if decide (d = .staySuspended) || false || s₁.disconnected then s₁ else
        (resumeSet (.single (.step st.request (s.thread t).id top.location)) s₁).2).flush := by
  have turned : WatchPath s s.turnTo := .aside rfl
  have booked : s.turnTo.Booked := (turned.stepPath.booked h.reachable.booked).1
  have issued : s.turnTo.session.inner.Issued st.request (s.turnTo.thread t).id :=
    ⟨_, (booked.tied h.left.turnTo.alive few).ticket h.pending, rfl, rfl⟩
  have landed := handleStep_issued booked h.left.turnTo.alive few (booked.sound.listed h.pending) issued top.location
  rcases hl : landStep t st.request top.location s.turnTo with ⟨d, s₁⟩
  refine ⟨d, s₁, rfl, ?_⟩
  have handled : handleEvents [.step st.request (s.thread t).id top.location] s.turnTo =
      (decide (d = .staySuspended) || false, s₁) := by
    rw [handleEvents_single, handleEvent, landed, hl]
  rw [runNext_left h.left rfl, handleEventSet_eq (s := s.turnTo) handled]

/-- A landing that ends the step leaves the thread suspended. -/
theorem ends (few : s.session.inner.requestsMade < UInt32.size)
    (finished : (st.leg (s.thread t).id).finish st.request s.session = .ok () f)
    (judged : (st.judge top below).2 = .finish) :
    s.Rounded (runNext s).2 t false none [stepEndEvent (s.thread t).id] f := by
  obtain ⟨d, s₁, landed, next⟩ := h.runNext_eq few
  obtain ⟨f₁, counted, deleted⟩ := countFrames_finish h.smooth h.stands finished
  rw [landStep_finish (s := s.turnTo) h.pending counted judged] at landed
  obtain ⟨rfl, rfl⟩ := Prod.mk.inj landed
  have ht : t < s.threads.size := System.lt_size_of_stepping h.pending
  rw [next]
  refine ⟨?_, ?_, ?_, ?_, Bus.queued_flush _⟩
  · exact (session_stepEnd_some t st.request _).trans (stateAfter_of_ok deleted)
  · exact thread_stepEnd (s := { s.turnTo with session := f₁ }) (some st.request) ht
  · exact scene_stepEnd t (some st.request) { s.turnTo with session := f₁ }
  · exact (told_flush _).trans (told_stepEnd t (some st.request) { s.turnTo with session := f₁ })

/-- A landing from which the step goes on begins the next leg. -/
theorem goesOn {kind : StepKind} {top' : RemoteFrame} {below' : List RemoteFrame}
    (few : s.session.inner.requestsMade < UInt32.size)
    (finished : (st.leg (s.thread t).id).finish st.request s.session = .ok () f)
    (judged : st.judge top below = (kind, .continue))
    (begins : ({ st with kind }.leg (s.thread t).id).Begins f top' below' f₁) :
    s.Rounded (runNext s).2 t true (some { st with kind, request := f.inner.nextRequest }) [] f₁ := by
  obtain ⟨d, s₁, landed, next⟩ := h.runNext_eq few
  obtain ⟨f₀, counted, deleted⟩ := countFrames_finish h.smooth h.stands finished
  rw [landStep_continue (s := s.turnTo) h.pending counted judged] at landed
  obtain ⟨s₂, thread, scene, told, begun⟩ := continueStep_begun (s := { s.turnTo with session := f₀ })
    (System.lt_size_of_stepping h.pending) (by exact deleted) begins.made
  have connected : s₂.disconnected = false := (congrArg Scene.disconnected scene).trans h.left.connected
  have after : (runNext s).2 = { s₂ with session := f₁ }.flush := by
    rw [next]
    rcases begun with stays | ⟨resumes, run⟩
    · obtain ⟨rfl, rfl⟩ := Prod.mk.inj (landed.symm.trans stays)
      rfl
    · obtain ⟨rfl, rfl⟩ := Prod.mk.inj (landed.symm.trans resumes)
      rw [if_neg (by simp [connected]), resumeSet_ok (EventSet.resumption_thread rfl rfl) run]
  rw [after]
  exact ⟨rfl, thread, scene, (told_flush _).trans (told.trans (List.append_nil _).symm), Bus.queued_flush _⟩

/-- The landing of the next leg is then all that is left. -/
theorem proceeds {kind : StepKind} {top' : RemoteFrame} {below' : List RemoteFrame}
    (few : s.session.inner.requestsMade < UInt32.size)
    (finished : (st.leg (s.thread t).id).finish st.request s.session = .ok () f)
    (turn : s.session.Turns (s.session.inner.withoutStep st.request) f)
    (judged : st.judge top below = (kind, .continue))
    (begins : ({ st with kind }.leg (s.thread t).id).Begins f top' below' f₁) :
    (runNext s).2.Midway t { st with kind, request := f.inner.nextRequest } top' below' := by
  have rounded := h.goesOn few finished judged begins
  have id : ((runNext s).2.thread t).id = (s.thread t).id := by rw [rounded.thread]; rfl
  have read : (runNext s).2.reader = s.session.inner.events.subscribe := congrArg Scene.reader rounded.scene
  have events : f.inner.events = s.session.inner.events := by rw [turn.inner]; rfl
  refine ⟨h.reachable.move .run, by rw [rounded.thread]; rfl, by rw [rounded.thread]; exact h.stale,
    ⟨h.left.turnTo.of_scene rounded.scene, ?_⟩, rounded.session ▸ begins.smooth, ?_⟩
  · rw [id, read, rounded.session]
    change f₁.inner.events.receive? _ = some (_, f₁.inner.events.subscribe)
    rw [begins.lands.events, events]
    exact Channel.receive?_send _ _ h.left.capacity
  · rw [id, rounded.session]
    exact begins.lands.stands

end System.Midway

/-! ## Other filters meanwhile -/

section

variable {σ : Type}

/-- The client may give the target other filters. -/
def System.refilter (s : System σ) (filters : Option StepFilters) : System σ :=
  { s with filters := filters.getD s.filters }

/-- The system after stretches of the background tasks, before each of which the client may give the target other
filters. -/
def System.amid [Session σ] (s : System σ) (fs : List (Option StepFilters)) : System σ :=
  fs.foldl (fun s filters => (runNext (s.refilter filters)).2) s

end

theorem reachable_refilter (h : Reachable scripted s) (filters : Option StepFilters) :
    Reachable scripted (s.refilter filters) := by
  cases filters with
  | none => exact h
  | some filters => exact h.move (.operation (.setFilters filters))

theorem System.Midway.refilter (h : s.Midway t st top below) (filters : Option StepFilters) :
    (s.refilter filters).Midway t st top below where
  reachable := reachable_refilter h.reachable filters
  pending := h.pending
  stale := h.stale
  left := ⟨h.left.toAttentive.of_scene rfl, h.left.unread⟩
  smooth := h.smooth
  stands := h.stands

/-! ## All rounds -/

/-- The step of the thread is over, and nothing is left to do. -/
structure System.Rests (s : System (Faulty Machine)) (t : ThreadRef) (id : ThreadId) (session : Faulty Machine)
    (published : List DebugEvent) : Prop where
  reachable : Reachable scripted s
  settled : s.UpToDate
  session : s.session = session
  id : (s.thread t).id = id
  suspended : (s.thread t).isSuspended
  stepping : (s.thread t).stepping = none
  stale : (s.thread t).refresh = true
  published : s.bus.published = published
  queued : s.bus.queued = []

private theorem System.UpToDate.runNext_eq (h : s.UpToDate) : (runNext s).2 = { s with ready := [] } := by
  rcases h.ready with idle | waiting
  · have same : s.wakeDispatcher = s := by
      rw [System.wakeDispatcher, h.not_dispatchable]
      rfl
    rw [runNext, run_modify_bind, run_get_bind, same, idle]
    exact congrArg (fun ready => { s with ready }) idle
  · rw [runNext_upToDate h waiting]

namespace System.Rests

variable {id : ThreadId} {published : List DebugEvent}

/-- Further stretches of the background tasks make no difference. -/
theorem amid (h : s.Rests t id f published) (fs : List (Option StepFilters)) : (s.amid fs).Rests t id f published := by
  induction fs generalizing s with
  | nil => exact h
  | cons filters fs ih =>
    refine ih (s := (runNext (s.refilter filters)).2) ?_
    have settled : (s.refilter filters).UpToDate := ⟨h.settled.toAttentive.of_scene rfl, h.settled.read⟩
    have reachable := (reachable_refilter h.reachable filters).move .run
    rw [settled.runNext_eq] at reachable ⊢
    exact ⟨reachable, ⟨⟨h.settled.dispatching, h.settled.running, h.settled.alive, h.settled.connected,
      h.settled.unclosed, .inl rfl⟩, h.settled.read⟩, h.session, h.id, h.suspended, h.stepping, h.stale, h.published,
      h.queued⟩

end System.Rests

/-- After the last round the thread rests. -/
theorem System.Midway.rests (h : s.Midway t st top below) (few : s.session.inner.requestsMade < UInt32.size)
    (finished : (st.leg (s.thread t).id).finish st.request s.session = .ok () f)
    (turn : s.session.Turns (s.session.inner.withoutStep st.request) f)
    (judged : (st.judge top below).2 = .finish) :
    (runNext s).2.Rests t (s.thread t).id f (s.told ++ [stepEndEvent (s.thread t).id]) := by
  have rounded := h.ends few finished judged
  have live := h.reachable.booked.sound.live h.pending
  have read : (runNext s).2.reader = s.session.inner.events.subscribe := congrArg Scene.reader rounded.scene
  refine ⟨h.reachable.move .run, ⟨h.left.turnTo.of_scene rounded.scene, ?_⟩, rounded.session, ?_, ?_, ?_, ?_, ?_,
    rounded.queued⟩
  · rw [read, rounded.session]
    change _ = f.inner.events.subscribe
    rw [turn.inner]
    rfl
  · rw [rounded.thread]
    rfl
  · rw [rounded.thread]
    exact (Bool.true_and _).trans (congrArg not live)
  · rw [rounded.thread]
    rfl
  · rw [rounded.thread]
    exact h.stale
  · rw [← rounded.told, System.told, rounded.queued, List.append_nil]

namespace Leg

variable {l : Leg}

theorem Begins.runFirst (h : l.Begins f top below f₁) (ls : List Leg) :
    stateAfter (Leg.runFirst 0 (l :: ls)) f = f₁ := by
  refine stateAfter_of_ok (a := ()) ?_
  rw [Leg.runFirst, run_ok_bind h.made]
  rfl

theorem Runs.runFirst (h : l.Runs f top below f₁ f₂) (n : Nat) (ls : List Leg) :
    stateAfter (Leg.runFirst (n + 1) (l :: ls)) f = stateAfter (Leg.runFirst n ls) f₂ := by
  have run : l.run f = .ok () f₂ := by
    rw [Leg.run, run_ok_bind h.made]
    exact h.finished
  rw [Leg.runFirst, stateAfter, stateAfter, run_ok_bind run]

end Leg

theorem Itinerary.begins {id : ThreadId} {f' : Faulty Machine} {legs : List Leg} {stack : List RemoteFrame}
    (h : Itinerary id st f legs f' stack) : ∃ top below f₁, (st.leg id).Begins f top below f₁ := by
  cases h with
  | last runs => exact ⟨_, _, _, runs.toBegins⟩
  | more runs => exact ⟨_, _, _, runs.toBegins⟩

/-- When all legs were run, the session is the one at the end of the itinerary. -/
theorem Itinerary.runFirst {id : ThreadId} {f' : Faulty Machine} {legs : List Leg} {stack : List RemoteFrame}
    (h : Itinerary id st f legs f' stack) {n : Nat} (long : legs.length ≤ n) :
    stateAfter (Leg.runFirst n legs) f = f' := by
  induction h generalizing n with
  | last runs =>
    obtain ⟨n, rfl⟩ : ∃ m, n = m + 1 := Nat.exists_eq_add_one.mpr long
    rw [runs.runFirst, Leg.runFirst]
    rfl
  | more runs _ _ ih =>
    obtain ⟨n, rfl⟩ : ∃ m, n = m + 1 := Nat.exists_eq_add_one.mpr (Nat.zero_lt_of_lt long)
    rw [runs.runFirst]
    exact ih (by simpa using long)

/-- Once the first leg of an itinerary was begun, each round finishes a leg and begins the next one, and the thread
rests after the last. -/
theorem Itinerary.run {id : ThreadId} {f' : Faulty Machine} {legs : List Leg} {stack : List RemoteFrame}
    (h : Itinerary id st f legs f' stack) (few : f.inner.requestsMade + legs.length < UInt32.size)
    (next : st.request = f.inner.nextRequest) (is : (s.thread t).id = id)
    (begun : ∀ {top below f₁}, (st.leg id).Begins f top below f₁ → s.session = f₁ ∧ s.Midway t st top below)
    (fs : List (Option StepFilters)) :
    (s.amid fs).session = stateAfter (Leg.runFirst fs.length legs) f ∧
      (legs.length ≤ fs.length → (s.amid fs).Rests t id f' (s.told ++ [stepEndEvent id])) := by
  induction h generalizing s fs with
  | @last st f f₁ f₂ top below runs judged =>
    obtain ⟨rfl, midway⟩ := begun runs.toBegins
    cases fs with
    | nil => exact ⟨(runs.toBegins.runFirst []).symm, fun h => absurd h (by simp)⟩
    | cons filters fs =>
      subst is
      have rests := ((midway.refilter filters).rests (runs.requestsMade_begun ▸ few) (next ▸ runs.finished)
        (next ▸ runs.turn) judged).amid fs
      refine ⟨rests.session.trans ?_, fun _ => rests⟩
      rw [List.length_cons, runs.runFirst, Leg.runFirst]
      rfl
  | @more st f f₁ f₂ f' top below kind legs stack runs judged rest ih =>
    obtain ⟨rfl, midway⟩ := begun runs.toBegins
    rw [List.length_cons] at few
    cases fs with
    | nil => exact ⟨(runs.toBegins.runFirst legs).symm, fun h => absurd h (by simp)⟩
    | cons filters fs =>
      subst is
      have few₁ : s.session.inner.requestsMade < UInt32.size := by
        rw [runs.requestsMade_begun]
        omega
      have amid := midway.refilter filters
      have finished : (st.leg (s.thread t).id).finish st.request s.session = .ok () f₂ := next ▸ runs.finished
      have turn : s.session.Turns (s.session.inner.withoutStep st.request) f₂ := next ▸ runs.turn
      obtain ⟨_, _, _, first⟩ := rest.begins
      have rounded := amid.goesOn few₁ finished judged first
      have told : (runNext (s.refilter filters)).2.told = s.told := rounded.told.trans (List.append_nil _)
      have onward := ih (s := (runNext (s.refilter filters)).2) (by rw [runs.requestsMade]; omega) rfl
        (by rw [rounded.thread]; rfl)
        (fun begins => ⟨(amid.goesOn few₁ finished judged begins).session,
          amid.proceeds few₁ finished turn judged begins⟩) fs
      rw [List.length_cons, runs.runFirst, ← told]
      exact ⟨onward.1, fun long => onward.2 (by simpa using long)⟩

end Debugger
