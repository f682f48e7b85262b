import Debugger.Proofs.MachineResumes
import Debugger.Proofs.PendingStep

/-! # The legs of a step

A step takes one leg or several.  For each the debugger has the machine make a request, lets the thread run,
and deletes the request once its landing is reported.  When no call fails, what the machine is like after a
leg was begun is known in full.
-/

namespace Debugger

/-- What a leg of a step asks of the machine. -/
structure Leg where
  request : StepRequest
  /-- The thread is made to return from its top frame. -/
  forced : Bool
  /-- The frames are counted where the thread lands. -/
  counted : Bool
  deriving DecidableEq, Repr, Inhabited

namespace Leg

variable {σ : Type} [Session σ]

/-- The request is made and the thread let run. -/
def begin (l : Leg) : Call σ RequestId := do
  let request ← Session.createStepRequest l.request
  letRun l.request.thread l.forced
  return request

/-- The landing is judged and the request deleted. -/
def finish (l : Leg) (request : RequestId) : Call σ Unit := do
  if l.counted then
    let _ ← Session.frameCount l.request.thread
  Session.deleteEventRequest .step request

/-- The whole leg. -/
def run (l : Leg) : Call σ Unit := do
  let request ← l.begin
  l.finish request

/-- The first `n` legs are run and the next one is begun, as far as there are so many. -/
def runFirst : Nat → List Leg → Call σ Unit
  | _, [] => return
  | 0, l :: _ => do let _ ← l.begin
  | n + 1, l :: ls => do
    l.run
    runFirst n ls

end Leg

/-- The leg that a step under way takes next. -/
def Stepping.leg (st : Stepping) (thread : ThreadId) : Leg :=
  ⟨st.next thread, st.kind.forcesReturn, st.needsFrameCount⟩

namespace Machine

/-- The machine has the thread suspended on the stack. -/
def Stands (m : Machine) (thread : ThreadId) (stack : List RemoteFrame) : Prop :=
  ∃ task, m.task? thread = some task ∧ task.suspended = true ∧ task.frames = stack

/-- The landings that the script has in store for the thread. -/
def script (m : Machine) (thread : ThreadId) : List (List RemoteFrame) := (m.landings.find? thread).getD []

/-- Where the leg would land. -/
def landingOf (m : Machine) (l : Leg) : List RemoteFrame :=
  (m.script l.request.thread).head?.getD (landing l.request.depth
    (l.forced || m.forcedReturns.contains l.request.thread) (m.reentry.find? l.request.thread) m.nextFrame
    (m.framesOf l.request.thread))

theorem landingOf_script {m : Machine} {l : Leg} {stack : List RemoteFrame} {later : List (List RemoteFrame)}
    (h : m.script l.request.thread = stack :: later) : m.landingOf l = stack := by
  rw [landingOf, h]
  rfl

/-- The leg was begun and has landed. -/
structure Lands (m : Machine) (l : Leg) (top : RemoteFrame) (below : List RemoteFrame) (m' : Machine) : Prop where
  stands : m'.Stands l.request.thread (top :: below)
  events : m'.events = m.events.send (.single (.step m.nextRequest l.request.thread top.location))
  steps : m'.steps = m.steps ++ [⟨m.nextRequest, l.request, true, false⟩]
  deleted : m'.deleted = m.deleted
  resumes : m'.resumes = m.resumes ++ [l.request.thread]
  popped : m'.popped = m.popped
  script : m'.script l.request.thread = (m.script l.request.thread).tail
  returned : m'.forcedReturns.contains l.request.thread = false
  entered : m'.reentry.find? l.request.thread = none
  deferred : m'.deferred = m.deferred
  resumeFailures : m'.resumeFailures = m.resumeFailures
  breakpoints : m'.breakpoints = m.breakpoints
  numbered : m.Numbered → m'.Numbered

variable {m : Machine} {thread : ThreadId}

theorem updateLast_concat {p : StepEntry → Bool} {f : StepEntry → StepEntry} {es : List StepEntry} {e : StepEntry}
    (h : p e) : updateLast p f (es ++ [e]) = es ++ [f e] := by
  rw [updateLast, List.reverse_append, List.reverse_singleton, List.singleton_append, updateLast.first, if_pos h,
    List.reverse_cons, List.reverse_reverse]

/-- The machine after the thread landed on the stack and its newest request, the last of all, was fired. -/
def landed (m : Machine) (thread : ThreadId) (es : List StepEntry) (e : StepEntry) (stack : List RemoteFrame)
    (nextFrame : FrameId) : Machine :=
  { m.mapTask thread fun t => { t with suspended := true, frames := stack } with
    steps := es ++ [{ e with fired := true }]
    landings := match m.landings.find? thread with
      | some ls => m.landings.put thread ls.tail
      | none => m.landings
    forcedReturns := m.forcedReturns.filter (· ≠ thread)
    reentry := m.reentry.erase thread
    nextFrame }

theorem stands_landed {task : Task} (here : m.task? thread = some task) (es : List StepEntry) (e : StepEntry)
    (stack : List RemoteFrame) (nextFrame : FrameId) :
    (m.landed thread es e stack nextFrame).Stands thread stack := by
  refine ⟨{ task with suspended := true, frames := stack }, ?_, rfl, rfl⟩
  refine (task?_mapTask (f := fun t => { t with suspended := true, frames := stack }) (fun _ => by rfl)
    m thread).trans ?_
  rw [here]
  rfl

/-- A landing uses up an entry of the script. -/
theorem script_landed (es : List StepEntry) (e : StepEntry) (stack : List RemoteFrame) (nextFrame : FrameId) :
    (m.landed thread es e stack nextFrame).script thread = (m.script thread).tail := by
  rw [script, script, landed]
  cases h : m.landings.find? thread with
  | none => simp [h]
  | some ls => simp

theorem landed_steady {es : List StepEntry} {e : StepEntry} (steps : m.steps = es ++ [e]) (stack : List RemoteFrame)
    (nextFrame : FrameId) : m.Steady (m.landed thread es e stack nextFrame) :=
  .of_eq (by simp [tickets, steps, landed, StepEntry.ticket]) rfl rfl

/-- The newest request of the thread is fired where the thread lands. -/
theorem completeStep_landed {es : List StepEntry} {e : StepEntry} {task : Task} {top : RemoteFrame}
    {below : List RemoteFrame} (steps : m.steps = es ++ [e]) (armed : e.armed thread)
    (here : m.task? thread = some task)
    (lands : (m.script thread).head?.getD (landing e.request.depth (m.forcedReturns.contains thread)
      (m.reentry.find? thread) m.nextFrame task.frames) = top :: below) :
    ∃ nextFrame, m.completeStep thread =
      (m.landed thread es e (top :: below) nextFrame, some (.step e.id thread top.location)) := by
  have newest : (es ++ [e]).reverse.find? (·.armed thread) = some e := by
    rw [List.reverse_append, List.reverse_singleton, List.singleton_append, List.find?_cons, armed]
  rw [script] at lands
  rw [completeStep, steps, newest]
  dsimp only
  rw [updateLast_concat armed]
  split
  · rename_i gone
    cases here.symm.trans gone
  · rename_i t here'
    cases here.symm.trans here'
    rw [lands]
    dsimp only
    split
    · exact ⟨_, rfl⟩
    · exact ⟨_, rfl⟩

theorem findSuspended_stands {task : Task} (here : m.task? thread = some task) (suspended : task.suspended) :
    findSuspended thread m = .ok task m := by
  simp only [findSuspended, bind, EStateM.bind, find_some here, suspended]
  rfl

theorem resumeThread_ok {task : Task} (h : m.resumeFailures = []) (here : m.task? thread = some task) :
    resumeThread thread m = .ok () ({ m with resumes := m.resumes ++ [thread] }.goOn thread) := by
  have answer := resumeThread_eq thread m
  dsimp only at answer
  split at answer
  · rename_i fails
    cases h.symm.trans fails
  · rename_i gone
    cases here.symm.trans gone
  · exact answer

/-- The machine with the leg's request made and its thread about to be let run. -/
def begun (m : Machine) (l : Leg) : Machine :=
  { m.withStep l.request with
    forcedReturns := if l.forced then l.request.thread :: m.forcedReturns else m.forcedReturns
    resumes := m.resumes ++ [l.request.thread] }

private theorem goOn_reported {m' : Machine} {e : VmEvent} (undeferred : m.deferred.contains thread = false)
    (completed : (m.mapTask thread (·.setSuspended false)).completeStep thread = (m', some e)) :
    m.goOn thread = m'.emit (.single e) := by
  have running : (m.mapTask thread (·.setSuspended false)).deferred.contains thread = false := undeferred
  rw [goOn, running, completed]
  rfl

/-- A leg that finds a frame to land on does so as soon as the thread is let run. -/
theorem goOn_begun {l : Leg} {task : Task} {top : RemoteFrame} {below : List RemoteFrame}
    (here : m.task? l.request.thread = some task) (undeferred : m.deferred.contains l.request.thread = false)
    (lands : m.landingOf l = top :: below) : m.Lands l top below ((m.begun l).goOn l.request.thread) := by
  have runs : ((m.begun l).mapTask l.request.thread (·.setSuspended false)).task? l.request.thread =
      some (task.setSuspended false) := by
    rw [task?_mapTask (fun _ => by rfl)]
    exact congrArg (Option.map _) here
  have armed : (⟨m.nextRequest, l.request, false, false⟩ : StepEntry).armed l.request.thread := by
    simp [StepEntry.armed]
  have returns : (m.begun l).forcedReturns.contains l.request.thread =
      (l.forced || m.forcedReturns.contains l.request.thread) := by
    cases h : l.forced with
    | true => simp [begun, h]
    | false => simp [begun, h]
  rw [landingOf, framesOf, here] at lands
  obtain ⟨nextFrame, landed⟩ := completeStep_landed (e := ⟨m.nextRequest, l.request, false, false⟩)
    rfl armed runs ((congrArg (fun b => (m.script l.request.thread).head?.getD (landing l.request.depth b
      (m.reentry.find? l.request.thread) m.nextFrame task.frames)) returns).trans lands)
  have undeferred : (m.begun l).deferred.contains l.request.thread = false := undeferred
  rw [goOn_reported undeferred landed]
  have ready : (m.withStep l.request).Steady ((m.begun l).mapTask l.request.thread (·.setSuspended false)) :=
    .of_eq rfl rfl rfl
  have reported (m : Machine) (e : VmEvent) : m.Steady (m.emit (.single e)) := .of_eq rfl rfl rfl
  exact {
    stands := stands_landed runs m.steps ⟨m.nextRequest, l.request, false, false⟩ (top :: below) nextFrame
    events := rfl
    steps := rfl
    deleted := rfl
    resumes := rfl
    popped := rfl
    script := script_landed m.steps ⟨m.nextRequest, l.request, false, false⟩ (top :: below) nextFrame
    returned := by simp [Machine.landed, emit]
    entered := Table.find?_erase_self _ _
    deferred := rfl
    resumeFailures := rfl
    breakpoints := rfl
    numbered := fun h => (reported _ _).numbered ((landed_steady rfl _ _).numbered
      (ready.numbered (h.withStep l.request))) }

end Machine

/-! ## Calls that no schedule stops -/

namespace Faulty

/-- Nothing is scheduled to fail. -/
structure Smooth (f : Faulty Machine) : Prop where
  schedule (kind : CallKind) : ∀ e ∈ (f.schedule.find? kind).getD [], e = none
  resumeFailures : f.inner.resumeFailures = []

/-- The session goes on with another machine inside, and still nothing is scheduled to fail. -/
structure Turns (f : Faulty Machine) (m : Machine) (f' : Faulty Machine) : Prop where
  inner : f'.inner = m
  bare : f'.bare = f.bare
  smooth : f'.Smooth

variable {α : Type} {f f' : Faulty Machine} {m : Machine} {thread : ThreadId}

theorem Smooth.of_empty (schedule : f.schedule = .empty) (resumeFailures : f.inner.resumeFailures = []) : f.Smooth := by
  refine ⟨fun kind e h => ?_, resumeFailures⟩
  rw [schedule, Table.find?_empty] at h
  cases h

theorem Smooth.fault (h : f.Smooth) (kind : CallKind) :
    ∃ schedule, Faulty.fault kind f = .ok () { f with schedule } ∧ { f with schedule }.Smooth := by
  rcases he : (f.schedule.find? kind).getD [] with _ | ⟨e, es⟩
  · refine ⟨f.schedule, ?_, h⟩
    simp only [Faulty.fault, he]
  · obtain rfl : e = none := h.schedule kind e (he ▸ List.mem_cons_self)
    refine ⟨f.schedule.put kind es, ?_, fun k e hm => ?_, h.resumeFailures⟩
    · simp only [Faulty.fault, he]
    · by_cases hk : k = kind
      · subst hk
        rw [Table.find?_put_self] at hm
        exact h.schedule k e (he ▸ List.mem_cons_of_mem none hm)
      · rw [Table.find?_put_of_ne _ _ hk] at hm
        exact h.schedule k e hm

theorem Smooth.guarded (h : f.Smooth) (kind : CallKind) {call : Call Machine α} {a : α}
    (made : call f.inner = .ok a m) (hm : m.resumeFailures = []) :
    ∃ f', Faulty.guarded kind call f = .ok a f' ∧ f.Turns m f' := by
  obtain ⟨schedule, passed, smooth⟩ := h.fault kind
  exact ⟨_, guarded_ok passed made, rfl, rfl, smooth.schedule, hm⟩

theorem Smooth.createStepRequest (h : f.Smooth) (r : StepRequest) :
    ∃ f', Session.createStepRequest r f = .ok f.inner.nextRequest f' ∧ f.Turns (f.inner.withStep r) f' :=
  h.guarded .createStepRequest (Machine.createStepRequest_eq r f.inner) h.resumeFailures

theorem Smooth.deleteStepRequest (h : f.Smooth) (r : RequestId) :
    ∃ f', Session.deleteEventRequest .step r f = .ok () f' ∧ f.Turns (f.inner.withoutStep r) f' :=
  h.guarded .deleteEventRequest (Machine.deleteStepRequest_eq r f.inner) h.resumeFailures

theorem Smooth.frameCount {stack : List RemoteFrame} (h : f.Smooth) (stands : f.inner.Stands thread stack) :
    ∃ f', Session.frameCount thread f = .ok stack.length f' ∧ f.Turns f.inner f' := by
  obtain ⟨task, here, suspended, rfl⟩ := stands
  refine h.guarded .frameCount ?_ h.resumeFailures
  change (do return (← Machine.findSuspended thread).frames.length : Call Machine Nat) f.inner = _
  rw [run_ok_bind (Machine.findSuspended_stands here suspended)]
  rfl

theorem Smooth.frames {stack : List RemoteFrame} (h : f.Smooth) (stands : f.inner.Stands thread stack) :
    ∃ f', Session.frames thread f = .ok stack f' ∧ f.Turns f.inner f' := by
  obtain ⟨task, here, suspended, rfl⟩ := stands
  refine h.guarded .frames ?_ h.resumeFailures
  change (do return (← Machine.findSuspended thread).frames : Call Machine _) f.inner = _
  rw [run_ok_bind (Machine.findSuspended_stands here suspended)]
  rfl

theorem Smooth.forceReturn {stack : List RemoteFrame} (h : f.Smooth) (stands : f.inner.Stands thread stack)
    (full : f.bare = false) : ∃ f', Session.forceReturn thread f = .ok () f' ∧
      f.Turns { f.inner with forcedReturns := thread :: f.inner.forcedReturns } f' := by
  obtain ⟨task, here, suspended, rfl⟩ := stands
  have asked : Session.forceReturn thread f =
      (if f.bare then noted .forceReturn (throw .unsupported) else
        Faulty.guarded .forceReturn (Machine.forceReturn thread)) f := rfl
  rw [asked, full]
  refine h.guarded .forceReturn ?_ h.resumeFailures
  rw [Machine.forceReturn, run_ok_bind (Machine.findSuspended_stands here suspended)]
  rfl

theorem Smooth.resumeThread {task : Machine.Task} (h : f.Smooth) (here : f.inner.task? thread = some task)
    (goes : ({ f.inner with resumes := f.inner.resumes ++ [thread] }.goOn thread) = m) (hm : m.resumeFailures = []) :
    ∃ f', Session.resumeThread thread f = .ok () f' ∧ f.Turns m f' :=
  h.guarded .resumeThread (goes ▸ Machine.resumeThread_ok h.resumeFailures here) hm

end Faulty

namespace Leg

variable {l : Leg} {f f' : Faulty Machine} {top : RemoteFrame} {below : List RemoteFrame}

/-- The leg was begun and has landed on the frame, and no call failed. -/
structure Begins (l : Leg) (f : Faulty Machine) (top : RemoteFrame) (below : List RemoteFrame)
    (f' : Faulty Machine) : Prop where
  made : l.begin f = .ok f.inner.nextRequest f'
  bare : f'.bare = f.bare
  smooth : f'.Smooth
  lands : f.inner.Lands l top below f'.inner

/-- A leg for whose landing the machine has a stack begins, and the thread must be in its hands if it is to be
made to return. -/
theorem begins (smooth : f.Smooth) {task : Machine.Task} (here : f.inner.task? l.request.thread = some task)
    (forced : l.forced → f.bare = false ∧ task.suspended)
    (undeferred : f.inner.deferred.contains l.request.thread = false)
    (lands : f.inner.landingOf l = top :: below) : ∃ f', l.Begins f top below f' := by
  have landed := Machine.goOn_begun here undeferred lands
  have fine : ((f.inner.begun l).goOn l.request.thread).resumeFailures = [] :=
    landed.resumeFailures.trans smooth.resumeFailures
  obtain ⟨f₁, create, turn₁⟩ := smooth.createStepRequest l.request
  have here₁ : f₁.inner.task? l.request.thread = some task := turn₁.inner ▸ here
  have begun : ∃ f', letRun l.request.thread l.forced f₁ = .ok () f' ∧
      f₁.Turns ((f.inner.begun l).goOn l.request.thread) f' := by
    cases hf : l.forced with
    | false =>
      refine turn₁.smooth.resumeThread here₁ ?_ fine
      rw [turn₁.inner, Machine.begun, hf]
      rfl
    | true =>
      obtain ⟨full, suspended⟩ := forced hf
      have stands : f₁.inner.Stands l.request.thread task.frames := ⟨task, here₁, suspended, rfl⟩
      obtain ⟨f₂, forceReturn, turn₂⟩ := turn₁.smooth.forceReturn stands (turn₁.bare.trans full)
      have here₂ : f₂.inner.task? l.request.thread = some task := turn₂.inner ▸ here₁
      obtain ⟨f₃, resume, turn₃⟩ := turn₂.smooth.resumeThread here₂ (m := (f.inner.begun l).goOn l.request.thread) (by
          rw [turn₂.inner, turn₁.inner, Machine.begun, hf]
          rfl) fine
      refine ⟨f₃, ?_, turn₃.inner, turn₃.bare.trans turn₂.bare, turn₃.smooth⟩
      rw [letRun, if_pos rfl, run_ok_bind forceReturn]
      exact resume
  obtain ⟨f₂, run, turn₂⟩ := begun
  refine ⟨f₂, ?_, turn₂.bare.trans turn₁.bare, turn₂.smooth, ?_⟩
  · rw [begin, run_ok_bind create, run_ok_bind run]
    rfl
  · rw [turn₂.inner]
    exact landed

/-- What is left of a leg once it has landed goes through. -/
theorem finishes {request : RequestId} {stack : List RemoteFrame} (smooth : f.Smooth)
    (stands : f.inner.Stands l.request.thread stack) :
    ∃ f', l.finish request f = .ok () f' ∧ f.Turns (f.inner.withoutStep request) f' := by
  rw [finish]
  cases l.counted with
  | false => exact smooth.deleteStepRequest request
  | true =>
    obtain ⟨f₁, count, turn₁⟩ := smooth.frameCount stands
    obtain ⟨f₂, delete, turn₂⟩ := turn₁.smooth.deleteStepRequest request
    refine ⟨f₂, ?_, turn₂.inner.trans (by rw [turn₁.inner]), turn₂.bare.trans turn₁.bare, turn₂.smooth⟩
    rw [if_pos rfl, run_ok_bind count]
    exact delete

end Leg

end Debugger
