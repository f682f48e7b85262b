import Debugger.Proofs.Bookkeeping
import Debugger.Proofs.StepRequests

/-! # The request timeout during invocations

While threads invoke methods requests have no timeout, and afterwards they have the old one again.  Of all
that can happen only the begin and the end of an invocation matter here: they are counted, their threads
are marked, and the first and the last of several set the timeout.
-/

namespace Debugger

/-! ## Calls that leave the timeout alone -/

namespace Faulty

/-- The request timeout of the machine, and every one that was set. -/
def timing (f : Faulty Machine) : Option Nat × List (Option Nat) := f.inner.timing

variable {f f' : Faulty Machine}

theorem Lifts.timing {R : Machine → Machine → Prop} (hR : ∀ {m m'}, R m m' → m'.timing = m.timing)
    (h : Lifts R f f') : f'.timing = f.timing := by
  rcases h.inner with h | h
  · exact congrArg Machine.timing h
  · exact hR h

theorem timing_exchange (h : Exchange f f') : f'.timing = f.timing :=
  (lifts_exchange h).timing fun h => (Machine.still_exchange h).timing

theorem timing_popFrames (t : ThreadId) (frame : FrameId) (f : Faulty Machine) :
    (stateAfter (Session.popFrames t frame) f).timing = f.timing :=
  (optional_lifts (Machine.popFrames_still t frame) f).timing fun h => h.timing

theorem timing_createStepRequest (r : StepRequest) (f : Faulty Machine) :
    (stateAfter (Session.createStepRequest r) f).timing = f.timing :=
  (guarded_lifts (R := fun m m' : Machine => m'.timing = m.timing) (fun _ => by rfl) f).timing fun h => h

theorem timing_createBreakpointRequest (r : BreakpointRequest) (f : Faulty Machine) :
    (stateAfter (Session.createBreakpointRequest r) f).timing = f.timing :=
  (guarded_lifts (R := fun m m' : Machine => m'.timing = m.timing) (fun _ => by rfl) f).timing fun h => h

theorem timing_deleteEventRequest (kind : RequestKind) (request : RequestId) (f : Faulty Machine) :
    (stateAfter (Session.deleteEventRequest kind request) f).timing = f.timing :=
  (guarded_lifts (R := fun m m' : Machine => m'.timing = m.timing) (fun _ => by rfl) f).timing fun h => h

end Faulty

/-! ## What concerns invocations -/

/-- Where invocations leave their traces, apart from threads. -/
def System.leaseBook (s : System (Faulty Machine)) :
    Nat × Option Nat × Array InvocationTask × Option Nat × List (Option Nat) :=
  (s.activeInvocations, s.savedTimeout, s.invocations, s.session.timing)

/-- No invocation begins or ends. -/
structure Uninvolved (s s' : System (Faulty Machine)) : Prop where
  book : s'.leaseBook = s.leaseBook
  flags (u : ThreadRef) : (s'.thread u).invoking = (s.thread u).invoking

namespace Uninvolved

variable {a b c s s' : System (Faulty Machine)}

theorem trans (h : Uninvolved a b) (h' : Uninvolved b c) : Uninvolved a c :=
  ⟨h'.book.trans h.book, fun u => (h'.flags u).trans (h.flags u)⟩

theorem of_eq (threads : s'.threads = s.threads) (book : s'.leaseBook = s.leaseBook) : Uninvolved s s' :=
  ⟨book, fun u => by rw [System.thread_congr threads]⟩

instance : IsPreorder (System (Faulty Machine)) Uninvolved where
  refl _ := of_eq rfl rfl
  trans _ _ _ h h' := h.trans h'

theorem mapThread (s : System (Faulty Machine)) (t : ThreadRef) {f : Thread → Thread}
    (h : ∀ th, (f th).invoking = th.invoking) : Uninvolved s (s.mapThread t f) :=
  ⟨rfl, System.mapThread_keeps (g := Thread.invoking) h s t⟩

theorem of_core (h : s'.core = s.core) : Uninvolved s s' :=
  of_eq (congrArg Core.threads h) (congrArg (fun c : Core (Faulty Machine) =>
    (c.activeInvocations, c.savedTimeout, c.invocations, c.session.timing)) h)

theorem stopRunning (s : System (Faulty Machine)) (t : ThreadRef) : Uninvolved s (s.stopRunning t) :=
  mapThread s t fun _ => rfl

theorem preserveFrames (s : System (Faulty Machine)) (t : ThreadRef) : Uninvolved s (s.preserveFrames t) :=
  (mapThread s t (f := Thread.markStale) fun _ => rfl).trans (of_eq rfl rfl)

theorem startRunning (s : System (Faulty Machine)) (t : ThreadRef) : Uninvolved s (s.startRunning t) :=
  (mapThread s t (f := (·.setRunning true)) fun _ => rfl).trans (preserveFrames _ t)

theorem updateFrames (s : System (Faulty Machine)) (t : ThreadRef) (remote : List RemoteFrame) :
    Uninvolved s (s.updateFrames t remote) where
  book := (congrArg System.leaseBook (System.updateFrames_rest s t remote) :)
  flags u := by
    rcases s.threads_updateFrames t remote with h | ⟨hs, h⟩
    · rw [System.thread_congr h]
    · rw [System.thread_congr h]
      exact System.mapThread_keeps (g := Thread.invoking) (fun _ => by rfl) s t u

theorem bury (s : System (Faulty Machine)) (t : ThreadRef) : Uninvolved s (s.bury t) :=
  System.bury_within (mapThread s t fun _ => rfl) fun _ _ => .of_eq rfl rfl

theorem suspendListed (s : System (Faulty Machine)) : Uninvolved s s.suspendListed :=
  System.suspendListed_within (fun _ => .of_eq rfl rfl) stopRunning s

theorem stopAt (s : System (Faulty Machine)) (t : ThreadRef) (b : BreakpointRef) (all : Bool) :
    Uninvolved s (s.stopAt t b all) := by
  have arrived : Uninvolved s (s.arrive t b) := mapThread s t fun _ => rfl
  exact System.stopAt_within arrived suspendListed (stopRunning · t) all

theorem uninstall (s : System (Faulty Machine)) (b : BreakpointRef) : Uninvolved s (s.uninstall b) := by
  have left (s : System (Faulty Machine)) (t : ThreadRef) : Uninvolved s (s.leaveBreakpoint b t) :=
    mapThread s t fun _ => rfl
  exact System.uninstall_within (fun _ _ => .of_eq rfl rfl) left s

theorem died (s : System (Faulty Machine)) (id : ThreadId) : Uninvolved s (s.threadDied id) :=
  System.threadDied_within (fun _ _ => .of_eq rfl rfl) (fun _ _ => .of_eq rfl rfl) bury s id

theorem disconnect (s : System (Faulty Machine)) : Uninvolved s s.disconnect :=
  System.disconnect_within (fun _ => .of_eq rfl rfl) bury (fun _ => .of_eq rfl rfl) s

theorem session {m : Faulty Machine} (h : m.timing = s.session.timing) :
    Uninvolved s { s with session := m } := by
  refine of_eq rfl ?_
  simp only [System.leaseBook, h]

theorem deleteStepRequest (request : RequestId) (s : System (Faulty Machine)) :
    Uninvolved s (Debugger.deleteStepRequest request s).2 := by
  rw [deleteStepRequest_state]
  exact (session (Faulty.timing_deleteEventRequest .step request s.session)).trans (of_eq rfl rfl)

theorem abortStep (t : ThreadRef) (s : System (Faulty Machine)) : Uninvolved s (Debugger.abortStep t s).2 := by
  cases hp : (s.thread t).stepping with
  | none =>
    rw [abortStep_none hp]
    exact of_eq rfl rfl
  | some st =>
    rw [abortStep_some hp]
    exact (mapThread s t (f := (·.setStepping none)) fun _ => rfl).trans (deleteStepRequest _ _)

theorem stepEnd (t : ThreadRef) (request : Option RequestId) (s : System (Faulty Machine)) :
    Uninvolved s (Debugger.stepEnd t request s).2 := by
  have stopped : Uninvolved s ((s.stopRunning t).mapThread t (·.setStepping none)) :=
    (stopRunning s t).trans (mapThread _ t fun _ => rfl)
  cases request with
  | none =>
    rw [stepEnd_none]
    exact stopped.trans (of_eq rfl rfl)
  | some request =>
    rw [stepEnd_some]
    exact (stopped.trans (deleteStepRequest request _)).trans (of_eq rfl rfl)

theorem leaveRequest (s : System (Faulty Machine)) (t : ThreadRef) (request : RequestId) :
    Uninvolved s (s.leaveRequest t request) :=
  (deleteStepRequest request s).trans (mapThread _ t fun _ => rfl)

theorem renewStep (t : ThreadRef) (st : Stepping) {m : Faulty Machine} (h : m.timing = s.session.timing) :
    Uninvolved s (s.renewStep t st m) := by
  have asked : Uninvolved s { s with session := m } := session h
  have marked := mapThread { s with session := m } t (f := (·.setStepping (some st))) fun _ => rfl
  exact (asked.trans marked).trans (of_eq rfl rfl)

end Uninvolved

/-- The changes by what they mean for invocations. -/
inductive LeaseChange : System (Faulty Machine) → System (Faulty Machine) → Prop
  | aside {s s' : System (Faulty Machine)} (h : Uninvolved s s') : LeaseChange s s'
  | begins {s : System (Faulty Machine)} {t : ThreadRef} (call : Invocation)
    (hi : (s.thread t).invoking = false) (hs : (s.thread t).isSuspended) :
    LeaseChange s (s.enterInvocation t call)
  | holds {s : System (Faulty Machine)} {n : Nat} {task : InvocationTask} {state : InvocationState}
    (h : s.invocations[n]? = some task) (pending : task.state.isDone = false)
    (hs : state.isDone = false) : LeaseChange s (s.setInvocation n state)
  | ends {s : System (Faulty Machine)} {n : Nat} {task : InvocationTask}
    (result : Except SessionError Value) (h : s.invocations[n]? = some task)
    (pending : task.state.isDone = false) (hn : (s.thread task.thread).stepping = none) :
    LeaseChange s (s.leaveInvocation task.thread n result)

variable {s s' : System (Faulty Machine)}

theorem Change.leaseChange (h : Change s s') : LeaseChange s s' := by
  have same {s' : System (Faulty Machine)} (threads : s'.threads = s.threads)
      (book : s'.leaseBook = s.leaseBook) : LeaseChange s s' := .aside (.of_eq threads book)
  cases h with
  | exchange h => exact .aside (.session (Faulty.timing_exchange h))
  | aside h => exact .aside (.of_core h)
  | @refresh t remote session hs h =>
    have asked := Faulty.timing_exchange (stateAfter_of_ok h ▸ Exchange.frames (s.thread t).id s.session)
    exact .aside ((Uninvolved.session asked).trans (.updateFrames _ t remote))
  | preserve t => exact .aside (.preserveFrames s t)
  | pop t frame =>
    have preserved := Uninvolved.preserveFrames s t
    exact .aside (preserved.trans (.session (Faulty.timing_popFrames _ frame s.session)))
  | run t => exact .aside (.startRunning s t)
  | stop t => exact .aside (.stopRunning s t)
  | bury t => exact .aside (.bury s t)
  | groupName t name => exact .aside (.mapThread s t fun _ => rfl)
  | beginInvocation call alive hi hs => exact .begins call hi hs
  | holdInvocation h pending hs => exact .holds h pending hs
  | endInvocation result h pending hn => exact .ends result h pending hn
  | stopAt t b all => exact .aside (.stopAt s t b all)
  | @install r request session h =>
    have asked := stateAfter_of_ok h ▸ Faulty.timing_createBreakpointRequest r s.session
    exact .aside ((Uninvolved.session asked).trans (.of_eq rfl rfl))
  | uninstall b => exact .aside (.uninstall s b)
  | @enlist th new fresh =>
    refine .aside ⟨rfl, fun u => ?_⟩
    rw [thread_enlist]
    split
    · rename_i hu
      rw [hu, System.thread_of_size_le (Nat.le_refl _)]
      exact fresh.invoking
    · rfl
  | died id => exact .aside (.died s id)
  | disconnect => exact .aside (.disconnect s)
  | release =>
    unfold System.release
    dsimp only
    split
    · exact same rfl rfl
    · exact same rfl rfl
  | @renewStep t old new wanted session hp hk hw h =>
    have asked := stateAfter_of_ok h ▸
      Faulty.timing_createStepRequest wanted (s.leaveRequest t old.request).session
    exact .aside ((Uninvolved.leaveRequest s t old.request).trans (.renewStep t new asked))
  | abort t => exact .aside (.abortStep t s)
  | _ => exact same rfl rfl

theorem Evaluating.leaseChange (h : Evaluating s s') : LeaseChange s s' := by
  cases h with
  | tasks => exact .aside (.of_eq rfl rfl)
  | mark t e => exact .aside (.mapThread s t fun _ => rfl)

theorem Watching.leaseChange (h : Watching s s') : LeaseChange s s' := by
  cases h with
  | aside h => exact .aside (.of_core h)
  | suspending t b => exact .aside (.mapThread s t fun _ => rfl)

theorem StepChange.leaseChange (h : StepChange s s') : LeaseChange s s' := by
  cases h with
  | landing h =>
    cases h with
    | change h => exact h.leaseChange
    | finish t h =>
      cases h with
      | @finish stepping hp => exact .aside (.stepEnd t (some stepping.request) s)
      | @giveUp stepping wanted e session hp h =>
        have asked := stateAfter_of_error h ▸
          Faulty.timing_createStepRequest wanted (s.leaveRequest t stepping.request).session
        exact .aside (((Uninvolved.leaveRequest s t stepping.request).trans (.session asked)).trans
          (.stepEnd t none _))
  | start h =>
    cases h with
    | @enter t stepping wanted session alive hn hs' hf hw h =>
      have asked := stateAfter_of_ok h ▸ Faulty.timing_createStepRequest wanted s.session
      have marked := (Uninvolved.session asked).trans
        (.mapThread _ t (f := (·.setStepping (some stepping))) fun _ => rfl)
      exact .aside ((marked.trans (.startRunning _ t)).trans (.of_eq rfl rfl))
  | evaluating h => exact h.leaseChange
  | watching h => exact h.leaseChange

/-! ## The tasks of invocations -/

theorem System.lt_size_of_invoking {σ : Type} {s : System σ} {t : ThreadRef} (h : (s.thread t).invoking) :
    t < s.threads.size := by
  refine Nat.lt_of_not_le fun hle => ?_
  rw [thread_of_size_le hle] at h
  cases h

/-- The threads of the invocations that are not over, in the order in which they began. -/
def System.pendingThreads {σ : Type} (s : System σ) : List ThreadRef :=
  (s.invocations.toList.filter fun i => !i.state.isDone).map (·.thread)

theorem invocations_enterInvocation (s : System (Faulty Machine)) (t : ThreadRef) (call : Invocation) :
    (s.enterInvocation t call).invocations = s.invocations.push ⟨t, call, .calling⟩ := by
  let marked := (s.mapThread t fun th => { th with invoking := true }).startRunning t
  have kept : marked.liftTimeout.invocations = s.invocations :=
    (congrArg System.invocations (System.liftTimeout_rest marked s.session) :)
  rw [← kept]
  rfl

theorem invocations_leaveInvocation (s : System (Faulty Machine)) (t : ThreadRef) (n : Nat)
    (result : Except SessionError Value) :
    (s.leaveInvocation t n result).invocations = (s.setInvocation n (.done result)).invocations := by
  let marked := (s.stopRunning t).mapThread t fun th => { th with invoking := false }
  have kept : marked.restoreTimeout.invocations = s.invocations :=
    (congrArg System.invocations (System.restoreTimeout_rest marked s.session) :)
  rw [System.setInvocation, ← kept]
  rfl

theorem pendingThreads_enterInvocation (s : System (Faulty Machine)) (t : ThreadRef) (call : Invocation) :
    (s.enterInvocation t call).pendingThreads = s.pendingThreads ++ [t] := by
  rw [System.pendingThreads, invocations_enterInvocation, Array.toList_push, List.filter_append,
    List.map_append]
  rfl

/-- The thread of a task counts until the task is over. -/
theorem pendingThreads_setInvocation {σ : Type} {s : System σ} {n : Nat} {task : InvocationTask}
    (h : s.invocations[n]? = some task) (pending : task.state.isDone = false) :
    ∃ before after, s.pendingThreads = before ++ task.thread :: after ∧
      ∀ state, (s.setInvocation n state).pendingThreads =
        before ++ if state.isDone then after else task.thread :: after := by
  rw [← Array.getElem?_toList] at h
  obtain ⟨hn, rfl⟩ := List.getElem?_eq_some_iff.mp h
  have parts : s.invocations.toList = s.invocations.toList.take n ++
      s.invocations.toList[n] :: s.invocations.toList.drop (n + 1) := by
    rw [List.getElem_cons_drop, List.take_append_drop]
  let threads (is : List InvocationTask) := (is.filter fun i => !i.state.isDone).map (·.thread)
  refine ⟨threads (s.invocations.toList.take n), threads (s.invocations.toList.drop (n + 1)), ?_,
    fun state => ?_⟩
  · have spread := congrArg threads parts
    simp only [threads, List.filter_append, List.filter_cons, pending, Bool.not_false, if_true,
      List.map_append, List.map_cons] at spread
    exact spread
  · rw [System.pendingThreads, System.setInvocation, Array.toList_modify,
      List.modify_eq_take_cons_drop hn, List.filter_append, List.map_append, List.filter_cons]
    cases state.isDone <;> rfl

/-! ## Leases -/

/-- The timeouts that so many leases set, each from its begin to its end. -/
def wholeLeases (old : Option Nat) (k : Nat) : List (Option Nat) := (List.replicate k [none, old]).flatten

theorem wholeLeases_succ (old : Option Nat) (k : Nat) :
    wholeLeases old (k + 1) = wholeLeases old k ++ [none] ++ [old] := by
  rw [wholeLeases, List.replicate_succ', List.flatten_append, wholeLeases, List.append_assoc]
  rfl

/-- With so many invocations under way, the timeout put by, the one in force and those that were set. -/
inductive Terms (old : Option Nat) (before : List (Option Nat)) :
    Nat → Option Nat → Option Nat × List (Option Nat) → Prop
  | free (k : Nat) (saved : Option Nat) : Terms old before 0 saved (old, before ++ wholeLeases old k)
  | lifted (k n : Nat) : Terms old before (n + 1) old (none, before ++ wholeLeases old k ++ [none])

/-- The timeouts of the system are as they should be. -/
def System.InTerms (s : System (Faulty Machine)) (old : Option Nat) (before : List (Option Nat)) : Prop :=
  Terms old before s.activeInvocations s.savedTimeout s.session.timing

section

variable {old : Option Nat} {before : List (Option Nat)}

theorem System.InTerms.free (h : s.InTerms old before) (hn : s.activeInvocations = 0) :
    ∃ k, s.session.timing = (old, before ++ wholeLeases old k) := by
  rw [InTerms, hn] at h
  generalize s.session.timing = timing at h ⊢
  cases h with
  | free k => exact ⟨k, rfl⟩

theorem System.InTerms.lifted {n : Nat} (h : s.InTerms old before) (hn : s.activeInvocations = n + 1) :
    s.savedTimeout = old ∧ ∃ k, s.session.timing = (none, before ++ wholeLeases old k ++ [none]) := by
  rw [InTerms, hn] at h
  generalize s.session.timing = timing, s.savedTimeout = saved at h ⊢
  cases h with
  | lifted k n => exact ⟨rfl, k, rfl⟩

theorem System.InTerms.of_free {k : Nat} (hn : s.activeInvocations = 0)
    (h : s.session.timing = (old, before ++ wholeLeases old k)) : s.InTerms old before := by
  rw [InTerms, hn, h]
  exact .free k _

theorem System.InTerms.of_lifted {n k : Nat} (hn : s.activeInvocations = n + 1) (hs : s.savedTimeout = old)
    (h : s.session.timing = (none, before ++ wholeLeases old k ++ [none])) : s.InTerms old before := by
  rw [InTerms, hn, hs, h]
  exact .lifted k n

/-- The first of several invocations lifts the timeout. -/
theorem System.InTerms.liftTimeout (h : s.InTerms old before) :
    s.liftTimeout.activeInvocations = s.activeInvocations + 1 ∧ s.liftTimeout.InTerms old before := by
  have active : s.liftTimeout.activeInvocations = s.activeInvocations + 1 := by
    rw [System.liftTimeout]
    dsimp only
    split <;> rfl
  refine ⟨active, ?_⟩
  cases hn : s.activeInvocations with
  | zero =>
    obtain ⟨k, timing⟩ := h.free hn
    obtain ⟨timeout, timeouts⟩ := Prod.mk.inj timing
    have lifted : s.liftTimeout = { s with
        activeInvocations := s.activeInvocations + 1
        savedTimeout := s.session.inner.timeout
        session := Session.setRequestTimeout none s.session } := by
      rw [System.liftTimeout]
      exact if_pos (congrArg Nat.succ hn)
    refine .of_lifted (k := k) (active.trans (congrArg Nat.succ hn)) ?_ ?_
    · rw [lifted]
      exact timeout
    · rw [lifted]
      exact congrArg (fun set : List (Option Nat) => (none, set ++ [none])) timeouts
  | succ n =>
    obtain ⟨saved, k, timing⟩ := h.lifted hn
    have same : s.liftTimeout = { s with activeInvocations := s.activeInvocations + 1 } := by
      rw [System.liftTimeout]
      exact if_neg fun one => Nat.succ_ne_zero n (hn.symm.trans (Nat.succ.inj one))
    refine .of_lifted (k := k) (active.trans (congrArg Nat.succ hn)) ?_ ?_
    · rw [same]
      exact saved
    · rw [same]
      exact timing

/-- The last of several invocations puts the timeout back. -/
theorem System.InTerms.restoreTimeout {n : Nat} (h : s.InTerms old before)
    (hn : s.activeInvocations = n + 1) :
    s.restoreTimeout.activeInvocations = n ∧ s.restoreTimeout.InTerms old before := by
  obtain ⟨saved, k, timing⟩ := h.lifted hn
  obtain ⟨timeout, timeouts⟩ := Prod.mk.inj timing
  have less : s.activeInvocations - 1 = n := by rw [hn]; rfl
  cases n with
  | zero =>
    have restored : s.restoreTimeout.activeInvocations = 0 ∧
        s.restoreTimeout.session = Session.setRequestTimeout s.savedTimeout s.session := by
      rw [System.restoreTimeout]
      dsimp only
      rw [if_pos less]
      split
      · exact ⟨less, rfl⟩
      · exact ⟨less, rfl⟩
    refine ⟨restored.1, .of_free (k := k + 1) restored.1 ?_⟩
    rw [restored.2, saved, wholeLeases_succ, ← List.append_assoc, ← List.append_assoc]
    exact congrArg (fun set : List (Option Nat) => (old, set ++ [old])) timeouts
  | succ n =>
    have same : s.restoreTimeout = { s with activeInvocations := s.activeInvocations - 1 } := by
      rw [System.restoreTimeout]
      exact if_neg fun none => Nat.succ_ne_zero n (less.symm.trans none)
    have active : s.restoreTimeout.activeInvocations = n + 1 := by
      rw [same]
      exact less
    refine ⟨active, .of_lifted (k := k) active ?_ ?_⟩
    · rw [same]
      exact saved
    · rw [same]
      exact timing

/-! ## Invocations and their leases -/

/-- Each thread that invokes has one task that is not over, and these tasks are what is counted. -/
structure System.Leased (s : System (Faulty Machine)) (old : Option Nat) (before : List (Option Nat)) :
    Prop where
  apart : s.pendingThreads.Nodup
  marked (u : ThreadRef) : (s.thread u).invoking ↔ u ∈ s.pendingThreads
  counted : s.activeInvocations = s.pendingThreads.length
  terms : s.InTerms old before

/-- The thread of a task that is not over invokes. -/
theorem System.Leased.invokes {n : Nat} {task : InvocationTask} (h : s.Leased old before)
    (hn : s.invocations[n]? = some task) (pending : task.state.isDone = false) :
    (s.thread task.thread).invoking := by
  obtain ⟨others, later, all, -⟩ := pendingThreads_setInvocation hn pending
  exact (h.marked task.thread).mpr (all ▸ List.mem_append_right _ List.mem_cons_self)

theorem Uninvolved.leased (h : Uninvolved s s') (hs : s.Leased old before) : s'.Leased old before := by
  obtain ⟨active, saved, tasks, timing⟩ : s'.activeInvocations = s.activeInvocations ∧
      s'.savedTimeout = s.savedTimeout ∧ s'.invocations = s.invocations ∧
      s'.session.timing = s.session.timing := by
    simpa only [System.leaseBook, Prod.mk.injEq] using h.book
  have pending : s'.pendingThreads = s.pendingThreads := by rw [System.pendingThreads, tasks]; rfl
  refine ⟨pending ▸ hs.apart, fun u => ?_, ?_, ?_⟩
  · rw [h.flags, pending]
    exact hs.marked u
  · rw [active, pending]
    exact hs.counted
  · rw [System.InTerms, active, saved, timing]
    exact hs.terms

theorem thread_enterInvocation (s : System (Faulty Machine)) (t u : ThreadRef) (call : Invocation) :
    (s.enterInvocation t call).thread u =
      ((s.mapThread t fun th => { th with invoking := true }).startRunning t).thread u := by
  let marked := (s.mapThread t fun th => { th with invoking := true }).startRunning t
  have kept : marked.liftTimeout.threads = marked.threads :=
    (congrArg System.threads (System.liftTimeout_rest marked s.session) :)
  exact System.thread_congr kept u

theorem thread_leaveInvocation (s : System (Faulty Machine)) (t u : ThreadRef) (n : Nat)
    (result : Except SessionError Value) :
    (s.leaveInvocation t n result).thread u =
      (s.mapThread t fun th => { th.setRunning false with invoking := false }).thread u := by
  let marked := (s.stopRunning t).mapThread t fun th => { th with invoking := false }
  have kept : marked.restoreTimeout.threads = marked.threads :=
    (congrArg System.threads (System.restoreTimeout_rest marked s.session) :)
  refine (System.thread_congr kept u).trans ?_
  change ((s.mapThread t (·.setRunning false)).mapThread t fun th => { th with invoking := false }).thread u = _
  simp only [System.thread_mapThread, System.size_mapThread]
  split <;> rfl

private theorem begins_leased {t : ThreadRef} (call : Invocation) (hi : (s.thread t).invoking = false)
    (hs : (s.thread t).isSuspended) (h : s.Leased old before) :
    (s.enterInvocation t call).Leased old before := by
  have fresh : t ∉ s.pendingThreads := fun hm => by
    have marked := (h.marked t).mpr hm
    rw [hi] at marked
    cases marked
  let marked := (s.mapThread t fun th => { th with invoking := true }).startRunning t
  have terms : marked.InTerms old before := h.terms
  have lifted := terms.liftTimeout
  have inRange : t < s.threads.size := Nat.lt_of_not_le fun hle => by
    rw [System.thread_of_size_le hle] at hs
    cases hs
  refine ⟨?_, fun u => ?_, ?_, lifted.2⟩
  · rw [pendingThreads_enterInvocation]
    exact List.nodup_append.mpr ⟨h.apart, List.nodup_singleton t, fun u hu v hv => by
      rintro rfl
      exact fresh (List.mem_singleton.mp hv ▸ hu)⟩
  · rw [thread_enterInvocation, System.startRunning_keeps (g := Thread.invoking) fun _ => rfl,
      pendingThreads_enterInvocation, List.mem_append, List.mem_singleton]
    by_cases hu : u = t
    · subst hu
      rw [System.thread_mapThread_self inRange]
      simp
    · rw [System.thread_mapThread_of_ne _ (Ne.symm hu), h.marked u]
      simp [hu]
  · rw [pendingThreads_enterInvocation, List.length_append, List.length_singleton, ← h.counted]
    exact lifted.1

private theorem ends_leased {n : Nat} {task : InvocationTask} (result : Except SessionError Value)
    (hn : s.invocations[n]? = some task) (pending : task.state.isDone = false)
    (h : s.Leased old before) : (s.leaveInvocation task.thread n result).Leased old before := by
  obtain ⟨others, later, all, rest⟩ := pendingThreads_setInvocation hn pending
  have remaining : (s.leaveInvocation task.thread n result).pendingThreads = others ++ later := by
    rw [System.pendingThreads, invocations_leaveInvocation]
    exact rest (.done result)
  have counted : s.activeInvocations = (others ++ later).length + 1 := by
    rw [h.counted, all]
    simp only [List.length_append, List.length_cons]
    omega
  obtain ⟨apart, gone⟩ : (others ++ later).Nodup ∧ task.thread ∉ others ++ later := by
    have apart := h.apart
    rw [all, List.nodup_middle, List.nodup_cons] at apart
    exact ⟨apart.2, apart.1⟩
  let stopped := (s.stopRunning task.thread).mapThread task.thread fun th => { th with invoking := false }
  have terms : stopped.InTerms old before := h.terms
  have restored := terms.restoreTimeout counted
  have inRange := System.lt_size_of_invoking (h.invokes hn pending)
  refine ⟨remaining ▸ apart, fun u => ?_, remaining ▸ restored.1, restored.2⟩
  rw [remaining, thread_leaveInvocation]
  by_cases hu : u = task.thread
  · subst hu
    rw [System.thread_mapThread_self inRange]
    exact ⟨Bool.noConfusion, fun hm => (gone hm).elim⟩
  · rw [System.thread_mapThread_of_ne _ (Ne.symm hu), h.marked u, all]
    simp [hu]

theorem LeaseChange.leased (h : LeaseChange s s') (hs : s.Leased old before) : s'.Leased old before := by
  cases h with
  | aside h => exact h.leased hs
  | begins call hi suspended => exact begins_leased call hi suspended hs
  | @holds n task state h pending held =>
    obtain ⟨others, later, all, rest⟩ := pendingThreads_setInvocation h pending
    have same : (s.setInvocation n state).pendingThreads = s.pendingThreads := by
      rw [rest, held, all]
      rfl
    exact ⟨same ▸ hs.apart, fun u => same ▸ hs.marked u, same ▸ hs.counted, hs.terms⟩
  | ends result h pending hn => exact ends_leased result h pending hs

end

end Debugger
