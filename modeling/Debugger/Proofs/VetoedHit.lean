import Debugger.Proofs.Bookkeeping
import Debugger.Proofs.MachineSurroundings

/-! # Vetoed hits of a breakpoint that stops the machine

Such a hit suspends every listed thread before the listeners are asked, and when one of them objects every
listed thread runs on, whether or not it ran before.  The hit is undone exactly if everything else ran.
-/

namespace Debugger

variable {σ : Type}

/-- Breakpoints describe a suspension, so a thread that runs is at none. -/
def Thread.Calm (th : Thread) : Prop := th.running → th.breakpoints = []

/-- No listed thread runs while it is at a breakpoint. -/
def System.Calm (s : System σ) : Prop := ∀ t ∈ s.registry, (s.thread t).Calm

/-- Nobody is listed anew, and every thread that was calm is calm. -/
structure Calms (s s' : System σ) : Prop where
  registry : s'.registry ⊆ s.registry
  threads (u : ThreadRef) : (s.thread u).Calm → (s'.thread u).Calm

namespace Calms

variable {a b c s s' : System σ}

theorem trans (h : Calms a b) (h' : Calms b c) : Calms a c where
  registry := List.Subset.trans h'.registry h.registry
  threads u hu := h'.threads u (h.threads u hu)

theorem calm (h : Calms s s') (hs : s.Calm) : s'.Calm :=
  fun t ht => h.threads t (hs t (h.registry ht))

theorem of_eq (threads : s'.threads = s.threads) (registry : s'.registry = s.registry) : Calms s s' where
  registry := registry ▸ List.Subset.refl _
  threads u hu := by
    rw [System.thread_congr threads]
    exact hu

instance : IsPreorder (System σ) Calms where
  refl _ := of_eq rfl rfl
  trans _ _ _ h h' := h.trans h'

theorem mapThread (s : System σ) (t : ThreadRef) {f : Thread → Thread} (h : ∀ th, th.Calm → (f th).Calm) :
    Calms s (s.mapThread t f) where
  registry := List.Subset.refl _
  threads u hu := by
    rw [System.thread_mapThread]
    split
    · exact h _ hu
    · exact hu

theorem setRunning (s : System σ) (t : ThreadRef) (running : Bool) :
    Calms s (s.mapThread t (·.setRunning running)) :=
  mapThread s t fun th _ hr => by
    cases running with
    | true => rfl
    | false => cases hr

theorem startRunning (s : System σ) (t : ThreadRef) : Calms s (s.startRunning t) :=
  (setRunning s t true).trans ((mapThread _ t (f := Thread.markStale) fun _ h => h).trans (of_eq rfl rfl))

theorem bury (s : System σ) (t : ThreadRef) : Calms s (s.bury t) :=
  System.bury_within (mapThread s t fun _ _ hr => by cases hr) fun _ _ => .of_eq rfl rfl

end Calms

variable [Session σ]

theorem deleteStepRequest_calms (request : RequestId) (s : System σ) :
    Calms s (deleteStepRequest request s).2 := by
  rw [deleteStepRequest_state]
  exact .of_eq rfl rfl

omit [Session σ] in
private theorem renewStep_calms (s : System σ) (t : ThreadRef) (st : Stepping) (m : σ) :
    Calms s (s.renewStep t st m) :=
  (Calms.mapThread s t (f := (·.setStepping (some st))) fun _ h => h).trans (.of_eq rfl rfl)

private theorem leaveRequest_calms (s : System σ) (t : ThreadRef) (request : RequestId) :
    Calms s (s.leaveRequest t request) :=
  (deleteStepRequest_calms request s).trans (.setRunning _ t true)

private theorem stepEnd_calms (t : ThreadRef) (request : Option RequestId) (s : System σ) :
    Calms s (stepEnd t request s).2 := by
  have ended : Calms s ((s.stopRunning t).mapThread t (·.setStepping none)) :=
    (Calms.setRunning s t false).trans (.mapThread _ t fun _ h => h)
  cases request with
  | none => exact ended.trans (.of_eq rfl rfl)
  | some request => exact (ended.trans (deleteStepRequest_calms request _)).trans (.of_eq rfl rfl)

omit [Session σ] in
private theorem running_stopped {s : System σ} {t : ThreadRef} (ts : List ThreadRef)
    (h : t ∈ ts ∨ (s.thread t).running = false) :
    ((ts.foldl System.stopRunning s).thread t).running = false := by
  induction ts generalizing s with
  | nil => exact h.resolve_left List.not_mem_nil
  | cons u ts ih =>
    refine ih (or_iff_not_imp_left.mpr fun hn => ?_)
    rw [System.stopRunning, System.thread_mapThread]
    split
    · rfl
    · rename_i hu
      rcases h with h | h
      · rcases List.mem_cons.mp h with rfl | h
        · rw [System.thread_of_size_le (Nat.le_of_not_lt fun hs => hu ⟨rfl, hs⟩)]
          rfl
        · exact (hn h).elim
      · exact h

omit [Session σ] in
/-- Every listed thread is stopped when the machine is. -/
theorem running_suspendListed {s : System σ} {t : ThreadRef} (ht : t ∈ s.registry) :
    (s.suspendListed.thread t).running = false :=
  running_stopped (s := { s with suspended := true }) s.registry (.inl ht)

omit [Session σ] in
private theorem running_started {s : System σ} {t : ThreadRef} (ts : List ThreadRef)
    (hs : t < s.threads.size)
    (h : t ∈ ts ∨ (s.thread t).running = true ∧ (s.thread t).breakpoints = []) :
    ((ts.foldl System.startRunning s).thread t).running = true ∧
      ((ts.foldl System.startRunning s).thread t).breakpoints = [] := by
  induction ts generalizing s with
  | nil => exact h.resolve_left List.not_mem_nil
  | cons u ts ih =>
    have size : (s.startRunning u).threads.size = s.threads.size := by
      simp [System.startRunning, System.preserveFrames]
    refine ih (size.symm ▸ hs) (or_iff_not_imp_left.mpr fun hn => ?_)
    rw [System.thread_startRunning, System.thread_mapThread]
    split
    · exact ⟨rfl, rfl⟩
    · rename_i hu
      rcases h with h | h
      · rcases List.mem_cons.mp h with rfl | h
        · exact (hu ⟨rfl, hs⟩).elim
        · exact (hn h).elim
      · exact h

omit [Session σ] in
/-- Every listed thread runs, and is at no breakpoint, when the machine does. -/
theorem thread_resumeListed {s : System σ} {t : ThreadRef} (hs : t < s.threads.size)
    (ht : t ∈ s.registry) :
    (s.resumeListed.thread t).running = true ∧ (s.resumeListed.thread t).breakpoints = [] :=
  running_started (s := { s with suspended := false }) s.registry hs (.inl ht)

omit [Session σ] in
private theorem stopAt_calm {s : System σ} (t : ThreadRef) (b : BreakpointRef) (all : Bool) (hs : s.Calm) :
    (s.stopAt t b all).Calm := by
  cases all with
  | true =>
    have registry : (s.stopAt t b true).registry = s.registry :=
      (congrArg System.registry (System.suspendListed_rest (s.arrive t b)) :)
    intro u hu hr
    rw [registry] at hu
    have stopped : ((s.arrive t b).suspendListed.thread u).running = false := running_suspendListed hu
    rw [show s.stopAt t b true = (s.arrive t b).suspendListed from rfl, stopped] at hr
    cases hr
  | false =>
    intro u hu
    change (((s.arrive t b).mapThread t (·.setRunning false)).thread u).Calm
    by_cases ht : t = u
    · subst ht
      by_cases hl : t < s.threads.size
      · rw [System.thread_mapThread_self (by simpa [System.arrive] using hl)]
        intro hr
        cases hr
      · rw [System.thread_of_size_le (by simpa [System.arrive] using Nat.le_of_not_lt hl)]
        exact fun _ => rfl
    · rw [System.thread_mapThread_of_ne _ ht, System.arrive, System.thread_mapThread_of_ne _ ht]
      exact hs u hu

omit [Session σ] in
private theorem died_calms (s : System σ) (id : ThreadId) : Calms s (s.threadDied id) := by
  have struck (s : System σ) (t : ThreadRef) : Calms s { s with registry := s.registry.erase t } :=
    ⟨List.erase_subset, fun _ hu => hu⟩
  exact System.threadDied_within (fun _ _ => .of_eq rfl rfl) struck Calms.bury s id

omit [Session σ] in
private theorem disconnect_calms (s : System σ) : Calms s s.disconnect :=
  System.disconnect_within (fun _ => .of_eq rfl rfl) Calms.bury (fun _ => .of_eq rfl rfl) s

omit [Session σ] in
private theorem enlist_calm {s : System σ} {th : Thread} (hb : th.breakpoints = []) (hs : s.Calm) :
    (s.enlist th).Calm := by
  intro u hu
  rw [thread_enlist]
  split
  · exact fun _ => hb
  · rename_i hl
    rcases List.mem_append.mp hu with hu | hu
    · exact hs u hu
    · exact (hl (List.mem_singleton.mp hu)).elim

theorem Change.calm {s s' : System σ} (h : Change s s') (hs : s.Calm) : s'.Calm := by
  cases h with
  | aside h => exact (Calms.of_eq (congrArg Core.threads h) (congrArg Core.registry h)).calm hs
  | @refresh t remote session _ _ =>
    have rest := System.updateFrames_rest { s with session } t remote
    refine (Calms.mk ?_ fun u hu => ?_).calm hs
    · rw [(congrArg System.registry rest :)]
      exact List.Subset.refl _
    · have h := stance_updateFrames { s with session } t u remote
      have running := congrArg Thread.running h
      have breakpoints := congrArg Thread.breakpoints h
      intro hr
      exact breakpoints.trans (hu (running.symm.trans hr))
  | preserve t => exact ((Calms.mapThread s t (f := Thread.markStale) fun _ h => h).trans (.of_eq rfl rfl)).calm hs
  | pop t frame => exact ((Calms.mapThread s t (f := Thread.markStale) fun _ h => h).trans (.of_eq rfl rfl)).calm hs
  | run t => exact (Calms.startRunning s t).calm hs
  | stop t => exact (Calms.setRunning s t false).calm hs
  | bury t => exact (Calms.bury s t).calm hs
  | groupName t name => exact Calms.calm (.mapThread s t fun _ h => h) hs
  | @beginInvocation t call alive hi hn =>
    have marked : Calms s (s.mapThread t fun th => { th with invoking := true }) :=
      .mapThread s t fun _ h => h
    have rest := System.liftTimeout_rest
      ((s.mapThread t fun th => { th with invoking := true }).startRunning t) s.session
    exact ((marked.trans (.startRunning _ t)).trans
      (.of_eq (congrArg System.threads rest :) (congrArg System.registry rest :))).calm hs
  | @endInvocation n task =>
    let t := task.thread
    have marked : Calms (s.stopRunning t)
        ((s.stopRunning t).mapThread t fun th => { th with invoking := false }) :=
      .mapThread _ t fun _ h => h
    have rest := System.restoreTimeout_rest
      ((s.stopRunning t).mapThread t fun th => { th with invoking := false }) s.session
    exact (((Calms.setRunning s t false).trans marked).trans
      (.of_eq (congrArg System.threads rest :) (congrArg System.registry rest :))).calm hs
  | stopAt t b all => exact stopAt_calm t b all hs
  | uninstall b =>
    have left (s : System σ) (t : ThreadRef) : Calms s (s.leaveBreakpoint b t) :=
      .mapThread s t fun th h hr => by rw [h hr, List.filter_nil]
    have uninstalled : Calms s (s.uninstall b) := System.uninstall_within (fun _ _ => .of_eq rfl rfl) left s
    exact uninstalled.calm hs
  | enlist new fresh => exact enlist_calm fresh.breakpoints hs
  | died id => exact (died_calms s id).calm hs
  | disconnect => exact (disconnect_calms s).calm hs
  | release =>
    unfold System.release
    dsimp only
    split
    · exact hs
    · exact hs
  | renewStep hp hk hw h => exact ((leaveRequest_calms s _ _).trans (renewStep_calms _ _ _ _)).calm hs
  | abort t =>
    cases hp : (s.thread t).stepping with
    | none =>
      rw [abortStep_none hp]
      exact hs
    | some st =>
      rw [abortStep_some hp]
      exact Calms.calm ((Calms.mapThread s t (f := (·.setStepping none)) fun _ h => h).trans
        (deleteStepRequest_calms st.request _)) hs
  | _ => exact hs

omit [Session σ] in
theorem Evaluating.calm {s s' : System σ} (h : Evaluating s s') (hs : s.Calm) : s'.Calm := by
  cases h with
  | tasks => exact hs
  | mark t e => exact Calms.calm (.mapThread s t fun _ h => h) hs

omit [Session σ] in
theorem Watching.calm {s s' : System σ} (h : Watching s s') (hs : s.Calm) : s'.Calm := by
  cases h with
  | aside h => exact Calms.calm (.of_eq (congrArg Core.threads h) (congrArg Core.registry h)) hs
  | suspending t b => exact Calms.calm (.mapThread s t fun _ h => h) hs

theorem StepChange.calm {s s' : System σ} (h : StepChange s s') (hs : s.Calm) : s'.Calm := by
  cases h with
  | landing h =>
    cases h with
    | change h => exact h.calm hs
    | finish t h =>
      cases h with
      | finish hp => exact (stepEnd_calms t _ s).calm hs
      | giveUp hp h =>
        exact (((leaveRequest_calms s t _).trans (.of_eq rfl rfl)).trans (stepEnd_calms t none _)).calm hs
  | start h =>
    cases h with
    | @enter t stepping _ session alive hn hs' hf hw h =>
      have held : Calms s { s with session } := .of_eq rfl rfl
      have marked := held.trans (.mapThread _ t (f := (·.setStepping (some stepping))) fun _ h => h)
      exact ((marked.trans (.startRunning _ t)).trans (.of_eq rfl rfl)).calm hs
  | evaluating h => exact h.calm hs
  | watching h => exact h.calm hs

theorem calm_invariant (w : Surroundings σ) : Invariant w System.Calm where
  blank _ _ _ ht := by cases ht
  change hc hs := hc.calm hs
  machine _ hs := hs
  bus _ hs := hs

/-! ## What a veto undoes -/

variable {w : Surroundings σ} {s s' : System σ} {t u : ThreadRef} {b : BreakpointRef} {queued : Bool}

/-- After a veto everything runs. -/
private theorem vetoed_runs (h : Reachable w s) (hb : (s.breakpoint b).policy = .vm)
    (hv : suspendAtBreakpoint t b queued s = (false, s')) :
    s'.suspended = false ∧ ∀ u ∈ s.registry, (s'.thread u).running ∧
      (s'.thread u).breakpoints = [] := by
  rw [suspendAtBreakpoint_eq] at hv
  dsimp only at hv
  obtain ⟨hf, hs'⟩ := Prod.mk.inj hv
  rw [hf, if_neg Bool.false_ne_true] at hs'
  have alive : s.targetAlive := by
    cases ha : s.targetAlive with
    | true => rfl
    | false =>
      rw [ha] at hf
      cases hf
  have all : s.stopsAll b = true := by simp [System.stopsAll, hb, alive]
  rw [all, alive] at hs'
  subst hs'
  have registry : (s.stopAt t b true).registry = s.registry :=
    (congrArg System.registry (System.suspendListed_rest (s.arrive t b)) :)
  have size : (s.stopAt t b true).threads.size = s.threads.size :=
    ((Fades.arrive s t b).trans (.suspendListed _)).size
  have rest := System.resumeListed_rest ((s.stopAt t b true).judge t (s.breakpoint b) true).2
  refine ⟨(congrArg System.suspended rest :), fun u hu => ?_⟩
  have inRange := size.symm ▸ h.sound.inRange hu
  rw [← registry] at hu
  exact thread_resumeListed (s := ((s.stopAt t b true).judge t (s.breakpoint b) true).2) inRange hu

/-- A vetoed hit of a breakpoint that stops the machine is undone for the other threads and for the target
exactly if they all ran when it happened. -/
theorem vetoed_hit_undone_iff (h : Reachable w s) (hb : (s.breakpoint b).policy = .vm)
    (hv : suspendAtBreakpoint t b queued s = (false, s')) :
    ((∀ u ∈ s.registry, u ≠ t →
        (s'.thread u).isSuspended = (s.thread u).isSuspended ∧
        (s'.thread u).running = (s.thread u).running ∧
        (s'.thread u).breakpoints = (s.thread u).breakpoints) ∧
      s'.suspended = s.suspended) ↔
    s.suspended = false ∧ ∀ u ∈ s.registry, u ≠ t → (s.thread u).running := by
  obtain ⟨target, threads⟩ := vetoed_runs h hb hv
  have calm := (calm_invariant w).reachable h
  constructor
  · rintro ⟨same, held⟩
    refine ⟨held.symm.trans target, fun u hu hne => ?_⟩
    rw [← (same u hu hne).2.1]
    exact (threads u hu).1
  · rintro ⟨ran, running⟩
    refine ⟨fun u hu hne => ?_, target.trans ran.symm⟩
    obtain ⟨hr, hn⟩ := threads u hu
    have before := running u hu hne
    refine ⟨?_, hr.trans before.symm, hn.trans (calm u hu before).symm⟩
    rw [Thread.isSuspended, Thread.isSuspended, hr, before]
    rfl

/-- Two threads, of which the given ones were resumed, and a breakpoint that stops the machine and that a
listener objects to. -/
private def objected (resumed : List ThreadRef) : System (Faulty Machine) :=
  (sampleSystem [.addTask (sampleTask 1), .addTask (sampleTask 2)]).performAll
    (resumed.map .resume ++ [.install "com.example.Main" 10 .vm, .addListener (.fixed "a" .dontSuspend)])

private theorem objected_reachable (resumed : List ThreadRef) : Reachable scripted (objected resumed) := by
  have start : Reachable scripted (sampleSystem [.addTask (sampleTask 1), .addTask (sampleTask 2)]) :=
    sampleSystem_reachable (sampleMachine_starts (by simp [Scenario.MachineCommand.SparesSteps]))
      (by decide +kernel)
  exact start.performAll _

private theorem eq_of_fst {α β : Type} {p : α × β} {a : α} (h : p.1 = a) : p = (a, p.2) := by
  rw [← h]

/-- With both threads running before the hit, the other one runs after the veto as if nothing had been. -/
theorem vetoed_hit_of_running_threads_undone :
    let s' := (suspendAtBreakpoint 0 0 true (objected [0, 1])).2
    (s'.thread 1).isSuspended = ((objected [0, 1]).thread 1).isSuspended ∧
      s'.suspended = (objected [0, 1]).suspended := by
  have vetoed : (suspendAtBreakpoint 0 0 true (objected [0, 1])).1 = false := by decide +kernel
  have undone := (vetoed_hit_undone_iff (objected_reachable [0, 1]) (by decide +kernel)
    (eq_of_fst vetoed)).mpr ⟨by decide +kernel, by decide +kernel⟩
  exact ⟨(undone.1 1 (by decide +kernel) (by decide)).1, undone.2⟩

/-- A thread that was suspended before the hit runs after the veto. -/
theorem vetoed_hit_resumes_suspended_thread :
    Reachable scripted (objected [0]) ∧ 0 ∈ (objected [0]).registry ∧ 1 ∈ (objected [0]).registry ∧
      ((objected [0]).breakpoint 0).policy = .vm ∧
      (suspendAtBreakpoint 0 0 true (objected [0])).1 = false ∧
      ((objected [0]).thread 1).isSuspended ∧
      ¬ ((suspendAtBreakpoint 0 0 true (objected [0])).2.thread 1).isSuspended :=
  ⟨objected_reachable [0], by decide +kernel, by decide +kernel, by decide +kernel,
    by decide +kernel, by decide +kernel, by decide +kernel⟩

end Debugger
