import Debugger.Proofs.Parts
import Debugger.Schedule

/-! # Suspending and resuming that goes well

What the four calls that suspend and resume threads leave behind when the machine grants what they ask for,
and a suspend request once its confirmation was awaited.
-/

namespace Debugger

variable {σ : Type}

/-- What a client does to suspend and resume threads. -/
inductive Control where
  | suspend (t : ThreadRef)
  | resume (t : ThreadRef)
  | suspendAll
  | resumeAll
  deriving DecidableEq, Repr, Inhabited

namespace Control

/-- The thread that the call is made on, unless it is made on the machine. -/
def thread? : Control → Option ThreadRef
  | suspend t | resume t => some t
  | suspendAll | resumeAll => none

/-- The call comes to the thread.  That is not so when the thread is to be resumed but runs. -/
def reaches (s : System σ) (t : ThreadRef) : Control → Bool
  | suspend u => u = t
  | resume u => u = t && (s.thread t).isSuspended
  | suspendAll | resumeAll => true

def suspends : Control → Bool
  | suspend _ | suspendAll => true
  | resume _ | resumeAll => false

variable [Session σ]

/-- The call succeeds and what it leaves to do is done; a suspend request is confirmed. -/
inductive Performs (s : System σ) : Control → System σ → Prop
  | suspend {t : ThreadRef} {n : Nat} {s' : System σ} (fuel : Nat) (listed : t ∈ s.registry)
      (h : Debugger.suspend t s = .ok (some n) s')
      (confirmed : (settle fuel s').2.outcome? n = some (.ok .confirmed)) :
      Performs s (.suspend t) (settle fuel s').2
  | resume {t : ThreadRef} {s' : System σ} (fuel : Nat) (listed : t ∈ s.registry)
      (h : Debugger.resume t s = .ok () s') : Performs s (.resume t) (settle fuel s').2
  | suspendAll {s' : System σ} (fuel : Nat) (h : Debugger.suspendAll s = .ok () s') :
      Performs s .suspendAll (settle fuel s').2
  | resumeAll {s' : System σ} (fuel : Nat) (h : Debugger.resumeAll s = .ok () s') :
      Performs s .resumeAll (settle fuel s').2

/-- Calls one after another, the last one first, each with the system that it finds. -/
inductive Runs (s₀ : System σ) : List (System σ × Control) → System σ → Prop
  | start : Runs s₀ [] s₀
  | call {trace : List (System σ × Control)} {s s' : System σ} {c : Control} (hs : Runs s₀ trace s)
      (h : c.Performs s s') : Runs s₀ ((s, c) :: trace) s'

end Control

namespace System

/-- The client is told that the thread is about to run. -/
def announceResume (s : System σ) (t : ThreadRef) : System σ :=
  (s.startRunning t).fire (s.element t) (.resume .clientRequest)

/-- A watch is to ask the machine to suspend the thread. -/
def asking (s : System σ) (t : ThreadRef) : System σ :=
  { s.mapThread t ({ · with suspending := true }) with watches := s.watches.push ⟨t, .asking, false⟩ }.wake
    (.watch s.watches.size)

/-- The machine has confirmed what the watch asked for. -/
def confirmed (s : System σ) (t : ThreadRef) (n : Nat) : System σ :=
  (Watch.settle t (.ok .confirmed) (s.mapThread t ({ · with suspending := false }))).setWatch n
    (.done (.ok .confirmed))

theorem element_startRunning (s : System σ) (t : ThreadRef) : (s.startRunning t).element t = s.element t :=
  congrArg Element.thread (startRunning_keeps (g := Thread.id) (fun _ => rfl) s t t)

end System

variable [Session σ] {s : System σ} {t : ThreadRef} {m m' : σ}

theorem suspendAll_ok (h : Session.suspendVm s.session = .ok () m) :
    suspendAll s = .ok () ({ s with session := m }.suspendListed.fire .target (.suspend .clientRequest)) := by
  rw [suspendAll, run_ok_bind (askFor_ok h)]
  rfl

theorem resumeAll_ok (h : Session.resumeVm s.session = .ok () m) :
    resumeAll s = .ok () { s.resumeListed.fire .target (.resume .clientRequest) with session := m } := by
  have session : (s.resumeListed.fire .target (.resume .clientRequest)).session = s.session :=
    (congrArg System.session (System.resumeListed_rest s) :)
  rw [resumeAll, act_modify_bind]
  exact askFor_ok (session.symm ▸ h)

theorem resume_of_running (h : (s.thread t).isSuspended = false) : resume t s = .ok () s := by
  rw [resume, resumeThread, act_get_bind, h]
  rfl

theorem resume_ok (h : (s.thread t).isSuspended) (called : Session.resumeThread (s.thread t).id s.session = .ok () m) :
    resume t s = .ok () { s.announceResume t with session := m } := by
  have announced :
      (s.startRunning t).fire ((s.startRunning t).element t) (.resume .clientRequest) = s.announceResume t := by
    rw [System.element_startRunning, System.announceResume]
  have asked : (ask (Session.resumeThread (s.thread t).id) : Client σ _) (s.announceResume t) =
      .ok (.ok ()) { s.announceResume t with session := m } := ask_of_ok called
  rw [resume, resumeThread, act_get_bind, h]
  simp only [if_true, act_modify_bind, announced]
  rw [run_ok_bind asked]
  rfl

theorem suspend_ok (unstepped : (s.thread t).stepping = none) (unasked : (s.thread t).suspending = false) :
    suspend t s = .ok (some s.watches.size) (s.asking t) := by
  have aborted : (act (abortStep t) : Client σ _) s = .ok () s := by
    simp only [act, abortStep_none unstepped]
  rw [suspend, run_ok_bind aborted, act_get_bind, unasked]
  rfl

/-- The watch asks, and finds the thread suspended. -/
theorem runWatch_confirmed {n : Nat} (watch : s.watches[n]? = some ⟨t, .asking, false⟩)
    (called : Session.suspendThread (s.thread t).id s.session = .ok () m)
    (seen : Session.threadIsSuspended (s.thread t).id m = .ok true m') :
    runWatch n s = ((), { s with session := m' }.confirmed t n) := by
  have looked : Watch.look (s.thread t).id false .asking s = (.over (.ok .confirmed), { s with session := m' }) := by
    rw [Watch.look]
    simp only [Bool.false_eq_true, if_false]
    rw [run_ask_ok called]
    dsimp only
    rw [run_get_bind, run_get_bind, Watch.poll, run_ask_ok seen]
    rfl
  rw [runWatch, run_get_bind, watch]
  dsimp only
  rw [run_get_bind, run_bind looked]
  rfl

/-! ### Until nothing is left to do -/

theorem settle_of_settled (h : s.isSettled) (fuel : Nat) : settle fuel s = ((), s) := by
  cases fuel with
  | zero => rfl
  | succ fuel =>
    rw [settle, run_get_bind, h]
    rfl

theorem runNext_watch {n : Nat} (idle : s.dispatchable = false) (ready : s.ready = [.watch n]) :
    runNext s = runWatch n { s with ready := [] } := by
  have still : s.wakeDispatcher = s := by
    rw [System.wakeDispatcher, idle]
    rfl
  rw [runNext, run_modify_bind, run_get_bind, still, ready]
  rfl

namespace System

omit [Session σ] in
theorem asking_of_idle (nothing : s.ready = []) (t : ThreadRef) :
    s.asking t =
      { s.mapThread t ({ · with suspending := true }) with
        watches := s.watches.push ⟨t, .asking, false⟩
        ready := [.watch s.watches.size] } := by
  simp [asking, wake, mapThread, nothing]

omit [Session σ] in
/-- Nothing is confirmed before the watch has run. -/
theorem outcome?_asking (nothing : s.ready = []) (t : ThreadRef) : (s.asking t).outcome? s.watches.size = none := by
  rw [asking_of_idle nothing, outcome?]
  simp

/-- The system once the machine, which is `m` then, has suspended the thread as was asked. -/
def afterSuspend (s : System σ) (t : ThreadRef) (m : σ) : System σ :=
  { s.asking t with ready := [], session := m }.confirmed t s.watches.size

omit [Session σ] in
theorem thread_afterSuspend (nothing : s.ready = []) (t u : ThreadRef) (m : σ) :
    (s.afterSuspend t m).thread u =
      (s.mapThread t fun th => { th with suspending := false }.setRunning false).thread u := by
  rw [afterSuspend, asking_of_idle nothing]
  change ((({ s with session := m }.mapThread t ({ · with suspending := true })).mapThread t
    ({ · with suspending := false })).mapThread t (·.setRunning false)).thread u = _
  simp only [thread_mapThread, size_mapThread]
  by_cases h : t = u ∧ u < s.threads.size
  · simp only [h]
    rfl
  · simp only [h]
    rfl

omit [Session σ] in
theorem outcome?_afterSuspend (nothing : s.ready = []) (t : ThreadRef) (m : σ) :
    (s.afterSuspend t m).outcome? s.watches.size = some (.ok .confirmed) := by
  rw [afterSuspend, asking_of_idle nothing, outcome?]
  simp [confirmed, setWatch, Watch.settle, fire, stopRunning, mapThread, Array.getElem_modify]

end System

/-- Only the watch has anything to do. -/
theorem settle_asking (idle : s.dispatchable = false) (nothing : s.ready = [])
    (called : Session.suspendThread (s.thread t).id s.session = .ok () m)
    (seen : Session.threadIsSuspended (s.thread t).id m = .ok true m') (settled : (s.afterSuspend t m').isSettled)
    (fuel : Nat) : settle (fuel + 1) (s.asking t) = ((), s.afterSuspend t m') := by
  have asking := System.asking_of_idle nothing t
  have busy : (s.asking t).isSettled = false := by
    rw [asking]
    rfl
  have waits : (s.asking t).dispatchable = false := by
    rw [asking]
    exact idle
  have ready : (s.asking t).ready = [.watch s.watches.size] := by rw [asking]
  have watch : (s.asking t).watches[s.watches.size]? = some ⟨t, .asking, false⟩ := by
    rw [asking]
    simp
  have same : ((s.asking t).thread t).id = (s.thread t).id := by
    rw [asking]
    exact System.id_mapThread (f := fun th => { th with suspending := true }) (fun _ => rfl) s t t
  have session : (s.asking t).session = s.session := by
    rw [asking]
    rfl
  have ran : runNext (s.asking t) = ((), s.afterSuspend t m') := by
    rw [runNext_watch waits ready]
    refine runWatch_confirmed (s := { s.asking t with ready := [] }) watch (m := m) ?_ ?_
    · change Session.suspendThread ((s.asking t).thread t).id (s.asking t).session = .ok () m
      rw [same, session]
      exact called
    · change Session.threadIsSuspended ((s.asking t).thread t).id m = .ok true m'
      rw [same]
      exact seen
  rw [settle, run_get_bind, busy]
  exact (run_bind ran).trans (settle_of_settled settled fuel)

end Debugger
