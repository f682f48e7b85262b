import Debugger.Proofs.LastEventSet
import Debugger.Proofs.MachineResumes
import Debugger.Proofs.PendingStep

/-! # Where a step can go from a landing

A landing of the pending request ends the step, or the step goes on with another request.  Each case says
what becomes of the thread, which calls failed and what is going to be announced.
-/

namespace Debugger

/-- What the handling of a thread's events leaves alone: who is listed, what is installed, and whether
the dispatcher goes on. -/
structure Scene where
  registry : List ThreadRef
  installed : Table RequestId BreakpointRef
  policies : Array SuspendPolicy
  ready : List TaskId
  reader : Reader
  dispatching : Bool
  shutdown : Bool
  released : Bool
  activeInvocations : Nat
  disconnected : Bool

section

variable {σ : Type}

def System.scene (s : System σ) : Scene where
  registry := s.registry
  installed := s.installed
  policies := s.breakpoints.map (·.policy)
  ready := s.ready
  reader := s.reader
  dispatching := s.dispatching
  shutdown := s.shutdown
  released := s.released
  activeInvocations := s.activeInvocations
  disconnected := s.disconnected

/-- What was published and what goes out at the next flush. -/
def System.told (s : System σ) : List DebugEvent := s.bus.published ++ s.bus.queued

/-- The event that announces the end of a step. -/
def stepEndEvent (id : ThreadId) : DebugEvent := ⟨.thread id, .suspend, .stepEnd⟩

theorem alive_scene {s s' : System σ} (h : s'.scene = s.scene) : s'.targetAlive = s.targetAlive := by
  have released := congrArg Scene.released h
  have invocations := congrArg Scene.activeInvocations h
  change (!s'.released || decide (s'.activeInvocations > 0)) = _
  rw [show s'.released = s.released from released,
    show s'.activeInvocations = s.activeInvocations from invocations]
  rfl

theorem policy_scene {s s' : System σ} (h : s'.scene = s.scene) (b : BreakpointRef) :
    (s'.breakpoint b).policy = (s.breakpoint b).policy := by
  have read (s : System σ) : (s.breakpoint b).policy = s.scene.policies[b]?.getD default := by
    rw [System.breakpoint, System.scene, Array.getElem?_map]
    cases s.breakpoints[b]? <;> rfl
  rw [read, read, h]

theorem told_flush (s : System σ) : s.flush.told = s.told := by
  change s.bus.flush.published ++ s.bus.flush.queued = _
  rw [Bus.published_flush, Bus.queued_flush, List.append_nil]
  rfl

theorem published_flush (s : System σ) : s.flush.bus.published = s.told := Bus.published_flush s.bus

variable [Session σ]

theorem scene_leaveRequest (s : System σ) (t : ThreadRef) (request : RequestId) :
    (s.leaveRequest t request).scene = s.scene := by
  rw [System.leaveRequest, deleteStepRequest_state]
  rfl

theorem told_leaveRequest (s : System σ) (t : ThreadRef) (request : RequestId) :
    (s.leaveRequest t request).told = s.told := by
  rw [System.leaveRequest, deleteStepRequest_state]
  rfl

theorem scene_stepEnd (t : ThreadRef) (request : Option RequestId) (s : System σ) :
    (stepEnd t request s).2.scene = s.scene := by
  cases request with
  | none => rfl
  | some request =>
    rw [stepEnd_some, deleteStepRequest_state]
    rfl

theorem thread_stepEnd {t : ThreadRef} (request : Option RequestId) {s : System σ}
    (h : t < s.threads.size) :
    (stepEnd t request s).2.thread t = ((s.thread t).setRunning false).setStepping none := by
  have ended : ((s.stopRunning t).mapThread t (·.setStepping none)).thread t =
      ((s.thread t).setRunning false).setStepping none := by
    rw [System.thread_mapThread_self (by simpa [System.stopRunning] using h), System.stopRunning,
      System.thread_mapThread_self h]
  cases request with
  | none => exact ended
  | some request =>
    rw [stepEnd_some, deleteStepRequest_state]
    exact ended

theorem told_stepEnd (t : ThreadRef) (request : Option RequestId) (s : System σ) :
    (stepEnd t request s).2.told = s.told ++ [stepEndEvent (s.thread t).id] := by
  have id : (((s.stopRunning t).mapThread t (·.setStepping none)).thread t).id = (s.thread t).id :=
    (System.id_mapThread (fun _ => by rfl) _ t t).trans (System.id_mapThread (fun _ => by rfl) s t t)
  have queued : (((s.stopRunning t).mapThread t (·.setStepping none)).queue
      (((s.stopRunning t).mapThread t (·.setStepping none)).element t) (.suspend .stepEnd)).told =
        s.told ++ [stepEndEvent (s.thread t).id] := by
    rw [System.element, id]
    exact (List.append_assoc _ _ _).symm
  cases request with
  | none => exact queued
  | some request =>
    rw [stepEnd_some, deleteStepRequest_state]
    exact queued

theorem session_stepEnd_some (t : ThreadRef) (request : RequestId) (s : System σ) :
    (stepEnd t (some request) s).2.session =
      stateAfter (Session.deleteEventRequest .step request) s.session := by
  rw [stepEnd_some, deleteStepRequest_state]
  rfl

theorem scene_runStep (t : ThreadRef) (forced : Bool) (s : System σ) :
    (stateAfter (runStep t forced) s).scene = s.scene := by
  cases h : letRun (s.thread t).id forced s.session with
  | ok u m =>
    rw [stateAfter_of_ok (runStep_ok h)]
    rfl
  | error e m =>
    rw [stateAfter_of_error (runStep_error h)]
    exact scene_stepEnd t _ { s with session := m }

theorem scene_landStep (t : ThreadRef) (request : RequestId) (landing : Location) (s : System σ) :
    (landStep t request landing s).2.scene = s.scene := by
  have lands := landStep_lands t request landing s
  generalize (landStep t request landing s).2 = s' at lands
  cases lands with
  | stale => rfl
  | @ended st m => exact scene_stepEnd t _ { s with session := m }
  | @abandoned st m => exact (scene_stepEnd t none _).trans (scene_leaveRequest { s with session := m } t request)
  | @renewed st next m => exact scene_leaveRequest { s with session := m } t request
  | dropped goes =>
    obtain ⟨st, kind, next, m, -, -, -, -, -, rfl, -⟩ := dropGoingOn_cases goes
    exact (scene_runStep t _ _).trans (scene_leaveRequest s t request)

end

/-- What a thread became, as far as its step is concerned. -/
structure Thread.Became (th : Thread) (running : Bool) (stepping : Option Stepping) (th' : Thread) :
    Prop where
  id : th'.id = th.id
  terminated : th'.terminated = th.terminated
  evaluation : th'.evaluation = th.evaluation
  running : th'.running = running
  stepping : th'.stepping = stepping

/-- How a step can go from a landing, by what becomes of the thread. -/
inductive Landed (t : ThreadRef) (st : Stepping) (s : System (Faulty Machine)) :
    Disposition → System (Faulty Machine) → Prop
  /-- The step is over, as it should or because a call failed. -/
  | ended {s' : System (Faulty Machine)} (thread : (s.thread t).Became false none (s'.thread t))
    (told : s'.told = s.told ++ [stepEndEvent (s.thread t).id])
    (events : s'.session.inner.events = s.session.inner.events)
    (tasks : st.kind.runsAtOnce = false → s'.session.inner.tasks = s.session.inner.tasks)
    (failures : s'.session.failures = s.session.failures ∨
      ∃ kind e, s'.session.failures = s.session.failures ++ [(kind, e)] ∧
        (kind = .resumeThread → st.kind.runsAtOnce)) : Landed t st s .staySuspended s'
  /-- The thread is to run on once the event set is done with. -/
  | goesOn {s' : System (Faulty Machine)} {st' : Stepping} (late : st.kind.runsAtOnce = false)
    (late' : st'.kind.runsAtOnce = false) (thread : (s.thread t).Became true (some st') (s'.thread t))
    (told : s'.told = s.told) (events : s'.session.inner.events = s.session.inner.events)
    (tasks : s'.session.inner.tasks = s.session.inner.tasks)
    (failures : s'.session.failures = s.session.failures) : Landed t st s .resume s'
  /-- The thread runs on already. -/
  | runs {s' : System (Faulty Machine)} {st' : Stepping} {m : Machine} (atOnce : st.kind.runsAtOnce)
    (atOnce' : st'.kind.runsAtOnce) (thread : (s.thread t).Became true (some st') (s'.thread t))
    (told : s'.told = s.told) (events : m.events = s.session.inner.events)
    (tickets : s'.session.inner.tickets = m.tickets)
    (resumed : m.Resumed (s.thread t).id s'.session.inner)
    (failures : s'.session.failures = s.session.failures) : Landed t st s .staySuspended s'

variable {s : System (Faulty Machine)} {t : ThreadRef} {st : Stepping} {f : Faulty Machine}

private theorem became_ended (h : t < s.threads.size) (request : Option RequestId) :
    (s.thread t).Became false none ((stepEnd t request s).2.thread t) := by
  rw [thread_stepEnd request h]
  exact ⟨rfl, rfl, rfl, rfl, rfl⟩

/-- The end of a step deletes its request and calls the machine no further. -/
theorem machine_stepEnd (hd : s.session.DeletionsSucceed) (t : ThreadRef)
    (request : Option RequestId) :
    (stepEnd t request s).2.session.inner.events = s.session.inner.events ∧
      (stepEnd t request s).2.session.inner.tasks = s.session.inner.tasks ∧
      (stepEnd t request s).2.session.failures = s.session.failures := by
  cases request with
  | none => exact ⟨rfl, rfl, rfl⟩
  | some request =>
    obtain ⟨f, -, hi, hf, h⟩ := Faulty.deleteStepRequest_cases request hd
    rw [session_stepEnd_some, stateAfter_of_ok h, hi, hf]
    exact ⟨rfl, rfl, rfl⟩

theorem thread_leaveRequest (h : t < s.threads.size) (request : RequestId) :
    (s.leaveRequest t request).thread t = (s.thread t).setRunning true := by
  rw [System.leaveRequest, System.thread_mapThread_self (by rw [deleteStepRequest_state]; exact h),
    deleteStepRequest_state]
  rfl

/-- A step that is let run at once does so, or it is over. -/
private theorem runStep_landed {s s₂ : System (Faulty Machine)} {new : Stepping} (forced : Bool)
    (ht : t < s₂.threads.size) (hd : s₂.session.DeletionsSucceed) (atOnce : st.kind.runsAtOnce)
    (atOnce' : new.kind.runsAtOnce) (thread : (s.thread t).Became true (some new) (s₂.thread t))
    (told : s₂.told = s.told) (events : s₂.session.inner.events = s.session.inner.events)
    (failures : s₂.session.failures = s.session.failures) :
    Landed t st s .staySuspended (stateAfter (runStep t forced) s₂) := by
  have asks := letRun_asks (σ := Faulty Machine) (s₂.thread t).id forced s₂.session
  have steady := steady_spares (Relation.ReflTransGen.mono (fun _ _ => Spares.exchange) _ _ asks)
  rcases Faulty.letRun_cases (s₂.thread t).id forced s₂.session with
    ⟨f, h, hr, hf⟩ | ⟨kind, e, f, h, he, hf⟩
  · rw [stateAfter_of_ok h] at steady
    rw [stateAfter_of_ok (runStep_ok h)]
    rw [thread.id] at hr
    exact .runs atOnce atOnce' thread told events steady.inner.tickets hr (hf.trans failures)
  · rw [stateAfter_of_error h] at steady
    rw [stateAfter_of_error (runStep_error h), System.stepFailed]
    have machine := machine_stepEnd (s := { s₂ with session := f }) (steady.deletions hd) t
      ((s₂.thread t).stepping.map (·.request))
    refine .ended ?_ ?_ ?_ (fun late => ?_) ?_
    · have ended := became_ended (s := { s₂ with session := f }) ht ((s₂.thread t).stepping.map (·.request))
      exact ⟨ended.id.trans thread.id, ended.terminated.trans thread.terminated,
        ended.evaluation.trans thread.evaluation, ended.running, ended.stepping⟩
    · rw [told_flush, told_stepEnd]
      change s₂.told ++ [stepEndEvent (s₂.thread t).id] = _
      rw [told, thread.id]
    · exact (machine.1.trans he).trans events
    · rw [atOnce] at late
      cases late
    · refine .inr ⟨kind, e, ?_, fun _ => atOnce⟩
      exact machine.2.2.trans (hf.trans (by rw [failures]))

/-- A step that goes on is made ready for its next request, or the machine refuses that. -/
private theorem continueStep_landed (st : Stepping) {old : Stepping} (hp : (s.thread t).stepping = some old)
    (hk : st.kind.runsAtOnce = old.kind.runsAtOnce) (hd : s.session.DeletionsSucceed) :
    Landed t old s (continueStep t st s).1 (continueStep t st s).2 := by
  have ht := System.lt_size_of_stepping hp
  obtain ⟨f₁, hd₁, hi₁, hf₁, h₁⟩ := Faulty.deleteStepRequest_cases st.request hd
  have session : (s.leaveRequest t st.request).session = f₁ := by
    rw [session_leaveRequest, stateAfter_of_ok h₁]
  have left : t < (s.leaveRequest t st.request).threads.size := by
    rw [size_leaveRequest]
    exact ht
  have thread := thread_leaveRequest ht st.request
  have failures : f₁.failures = s.session.failures := hf₁
  have running : (s.thread t).Became true (some old) ((s.leaveRequest t st.request).thread t) := by
    rw [thread]
    exact ⟨rfl, rfl, rfl, rfl, hp⟩
  rw [continueStep_eq, session]
  rcases f₁.createStepRequest_cases (st.next (s.thread t).id) with
    ⟨f₂, hs₂, hi₂, hf₂, h₂⟩ | ⟨e, f₂, hs₂, hi₂, hf₂, h₂⟩
  · rw [h₂]
    dsimp only
    generalize hnew : ({ st with request := f₁.inner.nextRequest } : Stepping) = new
    generalize hf₃ : ({ f₂ with inner := f₁.inner.withStep (st.next (s.thread t).id) } :
      Faulty Machine) = f₃
    have kind : new.kind = st.kind := by rw [← hnew]
    have events : f₃.inner.events = s.session.inner.events := by
      rw [← hf₃]
      change f₁.inner.events = _
      rw [hi₁]
      rfl
    have tasks : f₃.inner.tasks = s.session.inner.tasks := by
      rw [← hf₃]
      change f₁.inner.tasks = _
      rw [hi₁]
      rfl
    have failures' : f₃.failures = s.session.failures := by
      rw [← hf₃]
      exact hf₂.trans failures
    have hd₃ : f₃.DeletionsSucceed := by
      rw [← hf₃]
      exact hs₂.deletions hd₁
    have renewed : (s.thread t).Became true (some new)
        (((s.leaveRequest t st.request).renewStep t new f₃).thread t) := by
      have := System.thread_mapThread_self left (·.setStepping (some new))
      rw [show ((s.leaveRequest t st.request).renewStep t new f₃).thread t = _ from this, thread]
      exact ⟨rfl, rfl, rfl, rfl, rfl⟩
    have told : ((s.leaveRequest t st.request).renewStep t new f₃).told = s.told :=
      told_leaveRequest s t st.request
    cases late : st.kind.runsAtOnce with
    | true =>
      simp only [if_true]
      refine runStep_landed _ ?_ hd₃ (hk.symm.trans late) ((congrArg _ kind).trans late) renewed told
        events failures'
      exact Nat.lt_of_lt_of_eq left (System.size_mapThread _ t (·.setStepping (some new))).symm
    | false =>
      simp only [Bool.false_eq_true, if_false]
      exact .goesOn (hk.symm.trans late) ((congrArg _ kind).trans late) renewed told events tasks
        failures'
  · rw [h₂]
    dsimp only
    have ended := became_ended (s := { s.leaveRequest t st.request with session := f₂ }) left none
    have inner : f₂.inner.events = s.session.inner.events := by
      rw [hi₂, hi₁]
      rfl
    have tasks : f₂.inner.tasks = s.session.inner.tasks := by
      rw [hi₂, hi₁]
      rfl
    refine .ended ?_ ?_ inner (fun _ => tasks) (.inr ⟨.createStepRequest, e, ?_, fun h => by cases h⟩)
    · exact ⟨ended.id.trans running.id, ended.terminated.trans running.terminated,
        ended.evaluation.trans running.evaluation, ended.running, ended.stepping⟩
    · rw [told_stepEnd]
      change (s.leaveRequest t st.request).told ++
        [stepEndEvent ((s.leaveRequest t st.request).thread t).id] = _
      rw [told_leaveRequest, running.id]
    · exact hf₂.trans (by rw [failures])

private theorem countFrames_cases (st : Stepping) (thread : ThreadId) (f : Faulty Machine) :
    (∃ frames f', st.countFrames thread f = .ok frames f' ∧ f'.inner = f.inner ∧
      f'.failures = f.failures) ∨
    (∃ e f', st.countFrames thread f = .error e f' ∧ f'.inner = f.inner ∧
      f'.failures = f.failures ++ [(.frameCount, e)]) := by
  rw [Stepping.countFrames]
  split
  · rcases Faulty.frameCount_cases thread f with ⟨n, f', h, hi, hf⟩ | ⟨e, f', h, hi, hf⟩
    · refine .inl ⟨some n, f', ?_, hi, hf⟩
      simp only [Functor.map, EStateM.map, h]
    · refine .inr ⟨e, f', ?_, hi, hf⟩
      simp only [Functor.map, EStateM.map, h]
  · exact .inl ⟨none, f, rfl, rfl, rfl⟩

/-- It makes no difference whether the schedule was asked before. -/
private theorem Landed.before {d : Disposition} {s' : System (Faulty Machine)}
    (hi : f.inner = s.session.inner) (hf : f.failures = s.session.failures)
    (h : Landed t st { s with session := f } d s') : Landed t st s d s' := by
  have events : f.inner.events = s.session.inner.events := congrArg Machine.events hi
  have tasks : f.inner.tasks = s.session.inner.tasks := congrArg Machine.tasks hi
  cases h with
  | ended thread told he ht failures =>
    exact .ended thread told (he.trans events) (fun late => (ht late).trans tasks) (hf ▸ failures)
  | goesOn late late' thread told he ht failures =>
    exact .goesOn late late' thread told (he.trans events) (ht.trans tasks) (failures.trans hf)
  | runs atOnce atOnce' thread told he tickets resumed failures =>
    exact .runs atOnce atOnce' thread told (he.trans events) tickets resumed (failures.trans hf)

/-- A landing of the pending request ends the step, or the step goes on. -/
theorem landStep_landed (hp : (s.thread t).stepping = some st) (hd : s.session.DeletionsSucceed)
    (landing : Location) :
    Landed t st s (landStep t st.request landing s).1 (landStep t st.request landing s).2 := by
  have ht := System.lt_size_of_stepping hp
  have counted := countFrames_asks (σ := Faulty Machine) st (s.thread t).id s.session
  have steady := steady_spares (Relation.ReflTransGen.mono (fun _ _ => Spares.exchange) _ _ counted)
  -- the number of frames is asked for without a change in the machine
  have tells {f : Faulty Machine} (hd : f.DeletionsSucceed) (hi : f.inner = s.session.inner)
      (hf : f.failures = s.session.failures ∨
        ∃ kind e, f.failures = s.session.failures ++ [(kind, e)] ∧
          (kind = .resumeThread → st.kind.runsAtOnce)) :
      Landed t st s .staySuspended (stepEnd t (some st.request) { s with session := f }).2 := by
    obtain ⟨events, tasks, failures⟩ :=
      machine_stepEnd (s := { s with session := f }) hd t (some st.request)
    refine .ended (became_ended (s := { s with session := f }) ht _) (told_stepEnd t _ _) ?_
      (fun _ => ?_) ?_
    · rw [events]
      exact congrArg Machine.events hi
    · rw [tasks]
      exact congrArg Machine.tasks hi
    · rw [failures]
      exact hf
  rw [landStep_pending hp]
  rcases countFrames_cases st (s.thread t).id s.session with ⟨frames, f, h, hi, hf⟩ | ⟨e, f, h, hi, hf⟩
  · rw [stateAfter_of_ok h] at steady
    rw [h]
    have kind := runsAtOnce_land st landing frames
    dsimp only
    generalize st.land landing frames = judged at kind ⊢
    obtain ⟨kind', transition⟩ := judged
    cases transition with
    | finish => exact tells (steady.deletions hd) hi (.inl hf)
    | «continue» =>
      have landed := continueStep_landed (s := { s with session := f }) { st with kind := kind' } hp kind
        (steady.deletions hd)
      exact landed.before hi hf
  · rw [stateAfter_of_error h] at steady
    rw [h]
    exact tells (steady.deletions hd) hi (.inr ⟨.frameCount, e, hf, fun h => by cases h⟩)

/-- A step request of the thread is handled as a landing of the thread, whether it is still pending or not. -/
theorem handleStep_issued {request : RequestId} (hs : s.Booked) (alive : s.targetAlive)
    (few : s.session.inner.requestsMade < UInt32.size) (ht : t ∈ s.registry)
    (issued : s.session.inner.Issued request (s.thread t).id) (landing : Location) :
    handleStep request landing s = landStep t request landing s := by
  have tied := hs.tied alive few
  rw [handleStep, run_get_bind]
  by_cases hp : ∃ st, (s.thread t).stepping = some st ∧ st.request = request
  · obtain ⟨st, hp, rfl⟩ := hp
    have found : (s.stepOwners.find? st.request).bind s.find? = some t := by
      rw [tied.owner hp]
      exact hs.sound.find? ht
    rw [found]
  · rw [landStep_stale (t := t) fun st h hr => hp ⟨st, h, hr⟩]
    cases hf : (s.stepOwners.find? request).bind s.find? with
    | none => rfl
    | some u =>
      -- a thread with this request pending would have its ticket, and so be the same thread
      refine landStep_stale fun st' hu hr => hp ?_
      obtain ⟨k, hk, hki, hkt⟩ := issued
      have same : k = ⟨st'.request, (s.thread u).id, false⟩ :=
        List.inj_on_of_nodup_map (hs.numbered.nodup few) hk (tied.ticket hu) (hki.trans hr.symm)
      rw [same] at hkt
      rw [hs.sound.eq_of_id ht (hs.sound.listed hu) hkt.symm]
      exact ⟨st', hu, hr⟩

end Debugger
