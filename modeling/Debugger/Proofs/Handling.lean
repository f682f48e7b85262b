import Debugger.Proofs.Bookkeeping

/-! # What comes of events

To handle what the machine reports, the debugger stops threads and holds their suspensions back for the end of the event
set, ends and renews steps, and buries the dead; threads come and go besides.  A relation that allows that much holds
across all of it, but for the frame drop that goes on and lets its thread run at once.
-/

namespace Debugger

variable {σ α : Type}

/-- What stays of a thread when something else about it changes. -/
def Thread.bearing (th : Thread) : ThreadId × Bool × Bool × List BreakpointRef :=
  (th.id, th.terminated, th.running, th.breakpoints)

namespace System

/-- The threads and breakpoints of a system. -/
def posts (s : System σ) : Array Thread × List ThreadRef × Table RequestId BreakpointRef × Array Breakpoint :=
  (s.threads, s.registry, s.installed, s.breakpoints)

/-- What there is to know of a system's threads and breakpoints, what is said of them, and whom tasks are about. -/
def affairs (s : System σ) : (Array Thread × List ThreadRef × Table RequestId BreakpointRef × Array Breakpoint) ×
    Bus × List ThreadRef :=
  (s.posts, s.bus, s.charges)

theorem affairs_wake (s : System σ) (task : TaskId) : (s.wake task).affairs = s.affairs := by
  rw [wake]
  split <;> rfl

theorem affairs_wakeEvaluations (s : System σ) (p : EvaluationTask → Bool) :
    (s.wakeEvaluations p).affairs = s.affairs := by
  refine foldl_keeps (g := affairs) (fun s k => ?_) _ s
  split
  · exact affairs_wake s _
  · rfl

theorem affairs_setEvaluation (s : System σ) (n : Nat) {f : EvaluationTask → EvaluationTask}
    (h : ∀ e, (f e).thread = e.thread) : (s.setEvaluation n f).affairs = s.affairs :=
  congrArg (fun charges => (s.posts, s.bus, charges)) (charges_setEvaluation s n h)

theorem posts_of_core {s s' : System σ} (h : s'.core = s.core) : s'.posts = s.posts :=
  congrArg (fun c : Core σ => (c.threads, c.registry, c.installed, c.breakpoints)) h

theorem affairs_of_core {s s' : System σ} (h : s'.core = s.core) (charges : s'.charges = s.charges) :
    s'.affairs = s.affairs := Prod.ext (posts_of_core h) (Prod.ext (congrArg Core.bus h) charges)

end System

/-- A relation that allows what events do to the threads there are; suspensions are held back, and said of threads that
are known. -/
class AllowsHandling (known : outParam (ThreadRef → Prop)) (R : System σ → System σ → Prop) : Prop
    extends IsPreorder (System σ) R where
  aside {s s' : System σ} (h : s'.affairs = s.affairs) : R s s'
  /-- The target ends. -/
  conclude (s : System σ) : R s (s.fire .target .terminate)
  /-- A suspension of all threads. -/
  holdAll (s : System σ) (detail : EventDetail) : R s (s.queue .target (.suspend detail))
  hold (s : System σ) {t : ThreadRef} (detail : EventDetail) (ht : known t) : R s (s.queue (s.element t) (.suspend detail))
  update (s : System σ) (t : ThreadRef) {f : Thread → Thread} (h : ∀ th, (f th).bearing = th.bearing) :
    R s (s.mapThread t f)
  stop (s : System σ) (t : ThreadRef) : R s (s.stopRunning t)
  bury (s : System σ) (t : ThreadRef) : R s (s.bury t)

/-- A relation that allows threads to come and go besides. -/
class AllowsChores (known : outParam (ThreadRef → Prop)) (R : System σ → System σ → Prop) : Prop
    extends AllowsHandling known R where
  strike (s : System σ) (t : ThreadRef) : R s { s with registry := s.registry.erase t }
  enlist (s : System σ) {th : Thread} (new : th.IsNew) : R s (s.enlist th)

section

variable {known : ThreadRef → Prop} {R : System σ → System σ → Prop} [AllowsHandling known R] {s s₁ s' : System σ}

include known

/-- What comes after changes nothing there is to know of threads and breakpoints. -/
theorem handling_aside (h : R s s₁) (hs : s'.affairs = s₁.affairs) : R s s' := trans_of R h (AllowsHandling.aside hs)

theorem setStepping_handling (s : System σ) (t : ThreadRef) (st : Option Stepping) :
    R s (s.mapThread t (·.setStepping st)) := AllowsHandling.update s t fun _ => rfl

theorem suspendListed_handling (s : System σ) : R s s.suspendListed :=
  System.suspendListed_within (R := R) (fun _ => AllowsHandling.aside rfl) AllowsHandling.stop s

theorem disconnect_handling (s : System σ) : R s s.disconnect := by
  have closed (s : System σ) : R s { s with stepOwners := .empty, shutdown := true } := AllowsHandling.aside rfl
  exact System.disconnect_within (R := R) (fun _ => AllowsHandling.aside rfl) AllowsHandling.bury
    (fun s => trans_of R (closed s) (AllowsHandling.conclude _)) s

end

section

variable [Session σ] {known : ThreadRef → Prop} {R : System σ → System σ → Prop} [AllowsHandling known R] {s s' : System σ}
  {t : ThreadRef}

include known

instance : AllowsCalls R where
  exchange _ := AllowsHandling.aside rfl

/-! ## Steps that end -/

theorem deleteStepRequest_handling (request : RequestId) (s : System σ) :
    R s (deleteStepRequest request s).2 := by
  rw [deleteStepRequest_state]
  exact AllowsHandling.aside rfl

theorem abortStep_handling (t : ThreadRef) : Debug.Within R (abortStep t : Debug σ _) := fun s => by
  cases hp : (s.thread t).stepping with
  | none =>
    rw [abortStep_none hp]
    exact refl_of R s
  | some st =>
    rw [abortStep_some hp]
    exact trans_of R (setStepping_handling s t none) (deleteStepRequest_handling st.request _)

theorem stepEnd_handling {t : ThreadRef} (ht : known t) (request : Option RequestId) (s : System σ) :
    R s (stepEnd t request s).2 := by
  have ended : R s ((s.stopRunning t).mapThread t (·.setStepping none)) :=
    trans_of R (AllowsHandling.stop s t) (setStepping_handling _ t none)
  cases request with
  | none => exact trans_of R ended (AllowsHandling.hold _ _ ht)
  | some request =>
    have deleted := trans_of R ended (deleteStepRequest_handling request _)
    exact trans_of R deleted (AllowsHandling.hold _ _ ht)

/-! ## Breakpoint hits -/

omit [Session σ] in
theorem resumeListed_handling (run : ∀ s u, R s (s.startRunning u)) (s : System σ) : R s s.resumeListed := by
  have start : R s { s with suspended := false } := AllowsHandling.aside rfl
  exact trans_of R start (System.foldl_within run s.registry _)

omit [Session σ] in
private theorem stopAt_handling {b : BreakpointRef} (arrive : R s (s.arrive t b)) (all : Bool) :
    R s (s.stopAt t b all) :=
  System.stopAt_within (R := R) arrive suspendListed_handling (fun s => AllowsHandling.stop s t) all

/-- A hit, if the relation allows a thread to arrive at the breakpoint, any thread to run, and what is said of it. -/
theorem suspendAtBreakpoint_handling {b : BreakpointRef} {queued : Bool} (arrive : R s (s.arrive t b))
    (run : ∀ s u, R s (s.startRunning u)) (all : ∀ s, R s (s.publish queued .target (.suspend .breakpoint)))
    (own : ∀ s, R s (s.publish queued (s.element t) (.suspend .breakpoint))) :
    R s (suspendAtBreakpoint t b queued s).2 := by
  have stopped := stopAt_handling arrive (s.stopsAll b)
  rw [suspendAtBreakpoint_eq]
  generalize s.stopAt t b (s.stopsAll b) = s₁ at stopped ⊢
  have asked : (s₁.judge t (s.breakpoint b) s.targetAlive).2.affairs = s₁.affairs := by
    cases s.targetAlive <;> rfl
  dsimp only
  generalize s₁.judge t (s.breakpoint b) s.targetAlive = r at asked ⊢
  refine trans_of R (handling_aside stopped asked) ?_
  split
  · have told : R r.2 (if s.stopsAll b then r.2.publish queued .target (.suspend .breakpoint) else r.2) := by
      split
      · exact all r.2
      · exact refl_of R r.2
    exact trans_of R (trans_of R told (abortStep_handling t _)) (own _)
  · cases s.stopsAll b with
    | true => exact resumeListed_handling run r.2
    | false => exact run r.2 t

theorem suspendAtBreakpointQuietly_handling {b : BreakpointRef} (arrive : R s (s.arrive t b)) :
    R s (suspendAtBreakpointQuietly t b s).2 :=
  trans_of R (stopAt_handling arrive false) (abortStep_handling t _)

/-! ## Landings -/

private theorem leaveRequest_handling (request : RequestId)
    (goOn : ∀ s₁ : System σ, s₁.threads = s.threads → R s₁ (s₁.mapThread t (·.setRunning true))) :
    R s (s.leaveRequest t request) := by
  refine trans_of R (deleteStepRequest_handling request s) (goOn _ ?_)
  rw [deleteStepRequest_state]

/-- The step's next request. -/
private theorem renewStep_handling (st : Stepping) (request : RequestId) (m : σ)
    (goOn : ∀ s₁ : System σ, s₁.threads = s.threads → R s₁ (s₁.mapThread t (·.setRunning true))) :
    R s ((s.leaveRequest t request).renewStep t st m) :=
  handling_aside (trans_of R (leaveRequest_handling request goOn) (setStepping_handling _ t (some st))) rfl

/-- A frame drop that goes on has let go of its request and made another. -/
theorem dropGoingOn_handling {s₂ : System σ} {forced : Bool} {request : RequestId} {landing : Location}
    (h : s.dropGoingOn t request landing = some (s₂, forced))
    (goOn : ∀ st, (s.thread t).stepping = some st → ∀ s₁ : System σ, s₁.threads = s.threads →
      R s₁ (s₁.mapThread t (·.setRunning true))) : R s s₂ := by
  obtain ⟨st, kind, next, m, hp, -, -, -, -, rfl, -⟩ := dropGoingOn_cases h
  exact renewStep_handling _ request m (goOn st hp)

/-- A landing from which no frame drop goes on, if the relation allows the thread to go on with its step. -/
theorem landStep_handling (ht : known t) {request : RequestId} {landing : Location}
    (h : s.dropGoingOn t request landing = none)
    (goOn : ∀ st, (s.thread t).stepping = some st → ∀ s₁ : System σ, s₁.threads = s.threads →
      R s₁ (s₁.mapThread t (·.setRunning true))) :
    R s (landStep t request landing s).2 := by
  have called (m : σ) : R s { s with session := m } := AllowsHandling.aside rfl
  have lands := landStep_lands t request landing s
  generalize (landStep t request landing s).2 = s' at lands
  cases lands with
  | stale => exact refl_of R s
  | @ended st m => exact trans_of R (called m) (stepEnd_handling ht _ _)
  | @abandoned st m m' wanted e _ pending =>
    have left := trans_of R (called m) (leaveRequest_handling request (goOn st pending))
    have refused : R s { { s with session := m }.leaveRequest t request with session := m' } := handling_aside left rfl
    exact trans_of R refused (stepEnd_handling ht none _)
  | @renewed st next m m' wanted _ pending =>
    exact trans_of R (called m) (renewStep_handling next request m' (goOn st pending))
  | dropped goes =>
    rw [h] at goes
    cases goes

end

/-! ## Threads that come and go -/

section

variable [Session σ] {known : ThreadRef → Prop} {R : System σ → System σ → Prop} [AllowsChores known R]
  {s : System σ}

include known

theorem addThread_chores (id : ThreadId) (s : System σ) : R s (addThread id s).2 := by
  cases hn : s.find? id with
  | some t =>
    rw [addThread_listed hn]
    exact refl_of R s
  | none =>
    obtain ⟨m, th, -, -, new, h⟩ := addThread_new hn
    rw [h]
    have asked : R s { s with session := m } := AllowsHandling.aside rfl
    exact trans_of R asked (AllowsChores.enlist _ new)

omit [Session σ] in
theorem threadDied_chores (s : System σ) (id : ThreadId) : R s (s.threadDied id) :=
  System.threadDied_within (R := R) (fun _ _ => AllowsHandling.aside rfl) AllowsChores.strike AllowsHandling.bury s id

end

end Debugger
