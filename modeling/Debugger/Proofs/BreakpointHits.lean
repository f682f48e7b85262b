import Debugger.Proofs.StepAnnouncements
import Debugger.Proofs.Verdicts

/-! # Hits of breakpoints that stop threads

The listeners decide whether the thread stops or runs on.  A thread that stops steps no more, and nothing
is announced about steps.
-/

namespace Debugger

variable {s s' : System (Faulty Machine)} {t : ThreadRef} {e : VmEvent} {st : Stepping}

/-- The event is a hit of a breakpoint that stops threads, and no evaluation keeps the thread from it. -/
def System.HitBy (s : System (Faulty Machine)) (t : ThreadRef) : VmEvent → Prop
  | .breakpoint request id _ => id = (s.thread t).id ∧ (s.thread t).honorsBreakpoints ∧
      ∃ b, s.installed.find? request = some b ∧ (s.breakpoint b).policy = .thread
  | _ => False

/-- The thread is listed and alive, and the target as well. -/
structure System.Minds (s : System (Faulty Machine)) (t : ThreadRef) : Prop where
  booked : s.Booked
  alive : s.targetAlive
  listed : t ∈ s.registry
  live : (s.thread t).terminated = false

theorem System.Minds.inRange (h : s.Minds t) : t < s.threads.size := h.booked.sound.inRange h.listed

theorem System.Minds.became {running : Bool} {stepping : Option Stepping} (h : s.Minds t)
    (booked : s'.Booked) (scene : s'.scene = s.scene)
    (thread : (s.thread t).Became running stepping (s'.thread t)) : s'.Minds t where
  booked := booked
  alive := (alive_scene scene).trans h.alive
  listed := by
    rw [show s'.registry = s.registry from congrArg Scene.registry scene]
    exact h.listed
  live := thread.terminated.trans h.live

/-- Breakpoints hit later are hit as before. -/
theorem System.HitBy.became {running : Bool} {stepping : Option Stepping} (h : s.HitBy t e)
    (scene : s'.scene = s.scene) (thread : (s.thread t).Became running stepping (s'.thread t)) :
    s'.HitBy t e := by
  cases e with
  | breakpoint request id landing =>
    obtain ⟨rfl, honors, b, hb, hp⟩ := h
    have installed : s'.installed = s.installed := congrArg Scene.installed scene
    refine ⟨thread.id.symm, ?_, b, installed ▸ hb, (policy_scene scene b).trans hp⟩
    rw [Thread.honorsBreakpoints, thread.evaluation]
    exact honors
  | _ => exact h.elim

theorem System.HitBy.thread? (h : s.HitBy t e) : e.thread? = some (s.thread t).id := by
  cases e with
  | breakpoint request id landing => exact congrArg some h.1
  | _ => exact h.elim

theorem System.HitBy.isFinal (h : s.HitBy t e) : e.isFinal = false := by
  cases e with
  | breakpoint request id landing => rfl
  | _ => exact h.elim

theorem Thread.Became.trans {th th₁ th₂ : Thread} {running running' : Bool}
    {stepping stepping' : Option Stepping} (h : th.Became running stepping th₁)
    (h' : th₁.Became running' stepping' th₂) : th.Became running' stepping' th₂ :=
  ⟨h'.id.trans h.id, h'.terminated.trans h.terminated, h'.evaluation.trans h.evaluation, h'.running,
    h'.stepping⟩

/-! ## The thread hit a breakpoint -/

/-- The step of a thread after a verdict on a hit. -/
def Verdict.stepping (stepping : Option Stepping) : Verdict → Option Stepping
  | stop => none
  | _ => stepping

/-- What the handling of hits with these verdicts does: it makes the thread stop or run, and a thread that
stops steps no more. -/
structure Taken (t : ThreadRef) (s : System (Faulty Machine)) (vs : List Verdict)
    (s' : System (Faulty Machine)) : Prop where
  scene : s'.scene = s.scene
  events : s'.session.inner.events = s.session.inner.events
  tasks : s'.session.inner.tasks = s.session.inner.tasks
  failures : s'.session.failures = s.session.failures
  hushed : Bus.Hushed s.bus s'.bus
  became : (s.thread t).Became (vs.foldl Verdict.leaves (s.thread t).running)
    (vs.foldl Verdict.stepping (s.thread t).stepping) (s'.thread t)

theorem Taken.append {s₁ : System (Faulty Machine)} {vs vs' : List Verdict} (h : Taken t s vs s₁)
    (h' : Taken t s₁ vs' s') : Taken t s (vs ++ vs') s' where
  scene := h'.scene.trans h.scene
  events := h'.events.trans h.events
  tasks := h'.tasks.trans h.tasks
  failures := h'.failures.trans h.failures
  hushed := h.hushed.trans h'.hushed
  became := by
    have became := h.became.trans h'.became
    rwa [h.became.running, h.became.stepping, ← List.foldl_append, ← List.foldl_append] at became

/-- The hit is counted. -/
def System.countHit {σ : Type} (s : System σ) (b : BreakpointRef) : System σ :=
  { s with breakpoints := s.breakpoints.modify b fun bp => { bp with hits := bp.hits + 1 } }

theorem scene_countHit {σ : Type} (s : System σ) (b : BreakpointRef) : (s.countHit b).scene = s.scene := by
  have policies : (s.countHit b).breakpoints.map (·.policy) = s.breakpoints.map (·.policy) := by
    refine Array.ext_getElem? fun i => ?_
    rw [System.countHit, Array.getElem?_map, Array.getElem?_map, Array.getElem?_modify]
    split
    · cases s.breakpoints[i]? <;> rfl
    · rfl
  rw [System.scene, policies]
  rfl

/-- A hit of a breakpoint that is not installed is none. -/
theorem handleBreakpoint_unknown {σ : Type} [Session σ] {s : System σ} {request : RequestId}
    (unknown : s.installed.find? request = none) (id : ThreadId) : handleBreakpoint request id s = (.resume, s) := by
  rw [handleBreakpoint, run_get_bind, unknown]
  rfl

/-- A hit in a thread that honors breakpoints is up to the listeners. -/
theorem handleBreakpoint_eq {σ : Type} [Session σ] {s s₁ : System σ} {t : ThreadRef} {request : RequestId}
    {id : ThreadId} {b : BreakpointRef} (installed : s.installed.find? request = some b)
    (added : addThread id (s.countHit b) = (t, s₁)) :
    handleBreakpoint request id s =
      if (s₁.thread t).honorsBreakpoints then
        let r := suspendAtBreakpoint t b true s₁
        (if r.1 then .staySuspended else .resume, r.2)
      else (.resume, s₁) := by
  rw [handleBreakpoint, run_get_bind, installed]
  dsimp only
  rw [run_modify_bind]
  refine (run_bind added).trans ?_
  rw [run_get_bind]
  split
  · rcases h : suspendAtBreakpoint t b true s₁ with ⟨stays, s'⟩
    rw [run_bind h]
    cases stays <;> rfl
  · rfl

/-- The thread of an aborted step has no step, and the machine takes no notice. -/
private theorem abortStep_became (ht : t < s.threads.size) (hd : s.session.DeletionsSucceed) :
    (abortStep t s).2.scene = s.scene ∧ (abortStep t s).2.bus = s.bus ∧
      (abortStep t s).2.session.inner.events = s.session.inner.events ∧
      (abortStep t s).2.session.inner.tasks = s.session.inner.tasks ∧
      (abortStep t s).2.session.failures = s.session.failures ∧
      (s.thread t).Became (s.thread t).running none ((abortStep t s).2.thread t) := by
  cases hp : (s.thread t).stepping with
  | none =>
    rw [abortStep_none hp]
    exact ⟨rfl, rfl, rfl, rfl, rfl, rfl, rfl, rfl, rfl, hp⟩
  | some st =>
    obtain ⟨f, -, hi, hf, h⟩ := Faulty.deleteStepRequest_cases st.request hd
    have session : stateAfter (Session.deleteEventRequest .step st.request)
        (s.mapThread t (·.setStepping none)).session = f := stateAfter_of_ok h
    have events : f.inner.events = s.session.inner.events := by
      rw [hi]
      rfl
    have tasks : f.inner.tasks = s.session.inner.tasks := by
      rw [hi]
      rfl
    have became : (s.thread t).Became (s.thread t).running none
        ((s.mapThread t (·.setStepping none)).thread t) := by
      rw [System.thread_mapThread_self ht]
      exact ⟨rfl, rfl, rfl, rfl, rfl⟩
    rw [abortStep_some hp, deleteStepRequest_state, session]
    exact ⟨rfl, rfl, events, tasks, hf, became⟩

/-- The listeners say whether the thread stops or runs on. -/
private theorem suspendAtBreakpoint_taken {b : BreakpointRef} (h : s.Minds t)
    (thread : (s.breakpoint b).policy = .thread) :
    Taken t s [if (suspendAtBreakpoint t b true s).1 then .stop else .objected]
      (suspendAtBreakpoint t b true s).2 := by
  have eq := suspendAtBreakpoint_eq t b true s
  rw [show s.stopsAll b = false by simp [System.stopsAll, thread], h.alive] at eq
  generalize hv : (s.stopAt t b false).judge t (s.breakpoint b) true = r at eq
  rw [eq]
  obtain ⟨stays, s₁⟩ := r
  have hs₁ : ((s.stopAt t b false).vote t (s.breakpoint b)).2 = s₁ := congrArg Prod.snd hv
  -- the thread is stopped while the listeners are asked
  have size : t < s₁.threads.size := by
    rw [← hs₁]
    change t < ((s.arrive t b).mapThread t _).threads.size
    rw [System.size_mapThread, System.arrive, System.size_mapThread]
    exact h.inRange
  have stopped : (s.thread t).Became false (s.thread t).stepping (s₁.thread t) := by
    rw [← hs₁]
    change (s.thread t).Became false (s.thread t).stepping (((s.arrive t b).mapThread t _).thread t)
    rw [System.thread_mapThread_self, System.arrive, System.thread_mapThread_self h.inRange]
    · exact ⟨rfl, rfl, rfl, rfl, rfl⟩
    · rw [System.arrive, System.size_mapThread]
      exact h.inRange
  obtain ⟨scene, session, bus⟩ : s₁.scene = s.scene ∧ s₁.session = s.session ∧ s₁.bus = s.bus := by
    rw [← hs₁]
    exact ⟨rfl, rfl, rfl⟩
  cases stays with
  | true =>
    obtain ⟨scene', bus', events, tasks, failures, became⟩ :=
      abortStep_became size (session ▸ h.booked.deletions)
    rw [stopped.running] at became
    refine ⟨scene'.trans scene, events.trans (by rw [session]), tasks.trans (by rw [session]),
      failures.trans (by rw [session]), ?_, stopped.trans became⟩
    exact (Bus.Hushed.of_eq (bus'.trans bus)).trans (.queue _ rfl)
  | false =>
    have runs : (s₁.thread t).Became true (s₁.thread t).stepping ((s₁.startRunning t).thread t) := by
      rw [System.thread_startRunning, System.thread_mapThread_self size]
      exact ⟨rfl, rfl, rfl, rfl, rfl⟩
    rw [stopped.stepping] at runs
    exact ⟨scene, by rw [← session]; rfl, by rw [← session]; rfl, by rw [← session]; rfl, .of_eq bus,
      stopped.trans runs⟩

theorem handleEvent_taken (h : s.Minds t) (hit : s.HitBy t e) :
    Taken t s [e.verdict (handleEvent e s).1] (handleEvent e s).2 := by
  cases e with
  | breakpoint request id landing =>
    obtain ⟨rfl, honors, b, installed, thread⟩ := hit
    have counted : Path s (s.countHit b) := Path.single (.countHit s b)
    have minds : (s.countHit b).Minds t :=
      ⟨(counted.stepPath.booked h.booked).1, h.alive, h.listed, h.live⟩
    have taken := suspendAtBreakpoint_taken minds ((policy_scene (scene_countHit s b) b).trans thread)
    have added : addThread (s.thread t).id (s.countHit b) = (t, s.countHit b) :=
      addThread_listed (h.booked.sound.find? h.listed)
    have minding : ((s.countHit b).thread t).honorsBreakpoints := honors
    rw [handleEvent, handleBreakpoint_eq installed added, if_pos minding]
    generalize suspendAtBreakpoint t b true (s.countHit b) = r at taken ⊢
    have scene := taken.scene.trans (scene_countHit s b)
    obtain ⟨stays, s'⟩ := r
    cases stays with
    | true => exact { taken with scene := scene }
    | false => exact { taken with scene := scene }
  | _ => exact hit.elim

/-- Hits leave the thread as the listeners say, one after another. -/
theorem handleEvents_taken (es : List VmEvent) (h : s.Minds t) (hits : ∀ e ∈ es, s.HitBy t e) :
    (handleEvents es s).2.Minds t ∧ Taken t s (verdicts es s) (handleEvents es s).2 := by
  induction es generalizing s with
  | nil => exact ⟨h, rfl, rfl, rfl, rfl, .rfl, rfl, rfl, rfl, rfl, rfl⟩
  | cons e es ih =>
    have booked := ((handleEvent_landing e s).stepPath.booked h.booked).1
    have first := handleEvent_taken h (hits e List.mem_cons_self)
    obtain ⟨minds, rest⟩ := ih (h.became booked first.scene first.became) fun e' he' =>
      (hits e' (List.mem_cons_of_mem e he')).became first.scene first.became
    exact ⟨minds, first.append rest⟩

end Debugger
