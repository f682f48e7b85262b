import Debugger.Proofs.Within
import Debugger.Target.Dispatch

/-! # Which parts of a system an update touches

First what an update of one thread does to the threads; then, for each update of more than one step,
that the system is the same before and after apart from the parts named, and that it keeps to every relation its
steps keep to.
-/

namespace Debugger

variable {σ α β : Type}

/-- What every step of a sequence of updates leaves alone, the sequence leaves alone. -/
theorem foldl_keeps {f : σ → α → σ} {g : σ → β} (h : ∀ s a, g (f s a) = g s) (as : List α) (s : σ) :
    g (as.foldl f s) = g s := by
  induction as generalizing s with
  | nil => rfl
  | cons a as ih => exact (ih (f s a)).trans (h s a)

/-- An update of one entry leaves alone what it does not touch in the entry. -/
theorem map_modify (as : Array α) (n : Nat) {f : α → α} {g : α → β} (h : ∀ a, g (f a) = g a) :
    (as.modify n f).toList.map g = as.toList.map g := by
  refine List.ext_getElem? fun i => ?_
  simp only [List.getElem?_map, Array.getElem?_toList, Array.getElem?_modify]
  split
  · rw [Option.map_map]
    exact congrArg (Option.map · _) (funext h)
  · rfl

namespace System

/-! ## Threads -/

theorem thread_mapThread (s : System σ) (t u : ThreadRef) (f : Thread → Thread) :
    (s.mapThread t f).thread u =
      if t = u ∧ u < s.threads.size then f (s.thread u) else s.thread u := by
  rw [thread, thread, mapThread, Array.getElem?_modify]
  by_cases hu : u < s.threads.size
  · by_cases ht : t = u
    · simp [ht, hu]
    · simp [ht]
  · simp [hu]

theorem thread_mapThread_self {s : System σ} {t : ThreadRef} (h : t < s.threads.size)
    (f : Thread → Thread) : (s.mapThread t f).thread t = f (s.thread t) := by
  simp [thread_mapThread, h]

theorem thread_mapThread_of_ne (s : System σ) {t u : ThreadRef} (h : t ≠ u) (f : Thread → Thread) :
    (s.mapThread t f).thread u = s.thread u := by
  simp [thread_mapThread, h]

/-- What an update of a thread leaves alone, it leaves alone in every thread. -/
theorem mapThread_keeps {g : Thread → β} {f : Thread → Thread} (h : ∀ th, g (f th) = g th)
    (s : System σ) (t u : ThreadRef) : g ((s.mapThread t f).thread u) = g (s.thread u) := by
  rw [thread_mapThread]
  split
  · exact h _
  · rfl

@[simp] theorem size_mapThread (s : System σ) (t : ThreadRef) (f : Thread → Thread) :
    (s.mapThread t f).threads.size = s.threads.size := by
  simp [mapThread]

theorem thread_of_size_le {s : System σ} {t : ThreadRef} (h : s.threads.size ≤ t) :
    s.thread t = default := by
  rw [thread, Array.getElem?_eq_none h]
  rfl

theorem thread_congr {s s' : System σ} (h : s'.threads = s.threads) (t : ThreadRef) :
    s'.thread t = s.thread t := by
  rw [thread, thread, h]

/-- New frames are given to one thread, or nothing changes. -/
theorem threads_updateFrames (s : System σ) (t : ThreadRef) (remote : List RemoteFrame) :
    (s.updateFrames t remote).threads = s.threads ∨ ∃ hs,
      (s.updateFrames t remote).threads =
        (s.mapThread t fun th => { th with frames := hs, refresh := false }).threads := by
  cases hf : (s.thread t).frames with
  | nil =>
    cases remote with
    | nil =>
      left
      simp only [updateFrames, hf]
    | cons r rs =>
      simp only [updateFrames, hf]
      exact .inr ⟨_, rfl⟩
  | cons h hs =>
    simp only [updateFrames, hf]
    exact .inr ⟨_, rfl⟩

/-- Only a thread that exists has a step under way. -/
theorem lt_size_of_stepping {s : System σ} {t : ThreadRef} {stepping : Stepping}
    (h : (s.thread t).stepping = some stepping) : t < s.threads.size := by
  refine Nat.lt_of_not_le fun hle => ?_
  rw [thread_of_size_le hle] at h
  cases h

theorem lt_size_of_frames {s : System σ} {t : ThreadRef} (h : (s.thread t).frames ≠ []) :
    t < s.threads.size := by
  refine Nat.lt_of_not_le fun hle => h ?_
  rw [thread_of_size_le hle]
  rfl

theorem thread_startRunning (s : System σ) (t u : ThreadRef) :
    (s.startRunning t).thread u =
      (s.mapThread t fun th => (th.setRunning true).markStale).thread u := by
  change ((s.mapThread t (·.setRunning true)).mapThread t Thread.markStale).thread u = _
  simp only [thread_mapThread, size_mapThread]
  split <;> rfl

theorem startRunning_keeps {g : Thread → β}
    (h : ∀ th, g (th.setRunning true).markStale = g th) (s : System σ) (t u : ThreadRef) :
    g ((s.startRunning t).thread u) = g (s.thread u) := by
  rw [thread_startRunning]
  exact mapThread_keeps h s t u

theorem id_mapThread {f : Thread → Thread} (hf : ∀ th, (f th).id = th.id) (s : System σ)
    (t u : ThreadRef) : ((s.mapThread t f).thread u).id = (s.thread u).id :=
  mapThread_keeps (g := Thread.id) hf s t u

theorem element_mapThread {f : Thread → Thread} (h : ∀ th, (f th).id = th.id) (s : System σ) (t u : ThreadRef) :
    (s.mapThread t f).element u = s.element u := congrArg Element.thread (id_mapThread h s t u)

/-! ## Everything else -/

theorem bury_rest (s : System σ) (t : ThreadRef) :
    { s.bury t with threads := #[], bus := default } = { s with threads := #[], bus := default } := by
  rw [bury]
  split <;> rfl

theorem updateFrames_rest (s : System σ) (t : ThreadRef) (remote : List RemoteFrame) :
    { s.updateFrames t remote with threads := #[], frames := #[] } =
      { s with threads := #[], frames := #[] } := by
  cases hf : (s.thread t).frames with
  | nil => cases remote <;> simp only [updateFrames, hf] <;> rfl
  | cons h hs => simp only [updateFrames, hf]; rfl

theorem suspendListed_rest (s : System σ) :
    { s.suspendListed with threads := #[] } = { s with threads := #[], suspended := true } :=
  foldl_keeps (f := stopRunning) (g := fun s => { s with threads := #[] }) (fun _ _ => rfl) s.registry
    { s with suspended := true }

theorem resumeListed_rest (s : System σ) :
    { s.resumeListed with threads := #[], frames := #[] } =
      { s with threads := #[], frames := #[], suspended := false } :=
  foldl_keeps (f := startRunning) (g := fun s => { s with threads := #[], frames := #[] })
    (fun _ _ => rfl) s.registry { s with suspended := false }

theorem leaveBreakpoints_rest (s : System σ) (b : BreakpointRef) (ts : List ThreadRef) :
    { ts.foldl (·.leaveBreakpoint b) s with threads := #[] } = { s with threads := #[] } :=
  foldl_keeps (f := (leaveBreakpoint · b)) (g := fun s => { s with threads := #[] }) (fun _ _ => rfl)
    ts s

theorem buryAll_rest (s : System σ) (ts : List ThreadRef) :
    { ts.foldl bury s with threads := #[], bus := default } =
      { s with threads := #[], bus := default } :=
  foldl_keeps (f := bury) (g := fun s => { s with threads := #[], bus := default }) bury_rest ts s

theorem disconnect_rest (s : System σ) :
    { s.disconnect with threads := #[], bus := default, stepOwners := .empty, disconnected := true,
                        shutdown := true } =
      { s with threads := #[], bus := default, stepOwners := .empty, disconnected := true,
               shutdown := true } := by
  rw [disconnect]
  split
  · rfl
  · exact congrArg (fun s => { s with stepOwners := .empty, disconnected := true, shutdown := true })
      (buryAll_rest { s with disconnected := true } s.registry)

theorem threadDied_rest (s : System σ) (id : ThreadId) :
    { s.threadDied id with threads := #[], bus := default, stepOwners := .empty, registry := [] } =
      { s with threads := #[], bus := default, stepOwners := .empty, registry := [] } := by
  rw [threadDied]
  dsimp only
  split
  · rfl
  · exact congrArg (fun s => { s with stepOwners := .empty, registry := [] }) (bury_rest _ _)

/-! ## Step by step -/

section

variable {R : System σ → System σ → Prop} [IsPreorder (System σ) R]

/-- What every step of a sequence of updates keeps to, the sequence keeps to. -/
theorem foldl_within {f : System σ → α → System σ} (h : ∀ s a, R s (f s a)) (as : List α) (s : System σ) :
    R s (as.foldl f s) := by
  induction as generalizing s with
  | nil => exact refl_of R s
  | cons a as ih => exact trans_of R (h s a) (ih (f s a))

theorem bury_within {s : System σ} {t : ThreadRef} (mark : R s (s.mapThread t Thread.bury))
    (tell : ∀ s source, R s (s.fire source .terminate)) : R s (s.bury t) := by
  rw [bury]
  split
  · exact refl_of R s
  · exact trans_of R mark (tell _ _)

theorem suspendListed_within (suspend : ∀ s, R s { s with suspended := true }) (stop : ∀ s t, R s (s.stopRunning t))
    (s : System σ) : R s s.suspendListed := trans_of R (suspend s) (foldl_within stop s.registry _)

theorem disconnect_within (depart : ∀ s, R s { s with disconnected := true }) (bury : ∀ s t, R s (s.bury t))
    (conclude : ∀ s, R s ({ s with stepOwners := .empty, shutdown := true }.fire .target .terminate)) (s : System σ) :
    R s s.disconnect := by
  rw [disconnect]
  split
  · exact refl_of R s
  · exact trans_of R (trans_of R (depart s) (foldl_within bury s.registry _)) (conclude _)

theorem threadDied_within (disown : ∀ s owners, R s { s with stepOwners := owners })
    (strike : ∀ s t, R s { s with registry := s.registry.erase t }) (bury : ∀ s t, R s (s.bury t)) (s : System σ)
    (id : ThreadId) : R s (s.threadDied id) := by
  rw [threadDied]
  have disowned := disown s (s.stepOwners.keep fun _ owner => owner ≠ id)
  generalize ({ s with stepOwners := s.stepOwners.keep fun _ owner => owner ≠ id } : System σ) = s₁ at disowned ⊢
  split
  · exact disowned
  · exact trans_of R disowned (trans_of R (strike s₁ _) (bury _ _))

end

variable [Session σ]

theorem liftTimeout_rest (s : System σ) (m : σ) :
    { s.liftTimeout with session := m, activeInvocations := 0, savedTimeout := none } =
      { s with session := m, activeInvocations := 0, savedTimeout := none } := by
  rw [liftTimeout]
  dsimp only
  split <;> rfl

theorem restoreTimeout_rest (s : System σ) (m : σ) :
    { s.restoreTimeout with session := m, activeInvocations := 0, savedTimeout := none,
                            shutdown := false, dispatching := false } =
      { s with session := m, activeInvocations := 0, savedTimeout := none, shutdown := false,
               dispatching := false } := by
  rw [restoreTimeout]
  dsimp only
  split
  · split <;> rfl
  · rfl

end System

variable [Session σ]

/-- The machine is told, and the owner of the request is forgotten. -/
theorem deleteStepRequest_state (request : RequestId) (s : System σ) :
    (deleteStepRequest request s).2 =
      { s with
        stepOwners := if s.targetAlive then s.stepOwners.erase request else s.stepOwners
        session := stateAfter (Session.deleteEventRequest .step request) s.session } := by
  cases h : s.targetAlive with
  | true =>
    rw [deleteStepRequest, run_modify_bind, h]
    exact ask_state _ _
  | false =>
    rw [deleteStepRequest, run_modify_bind, h]
    exact ask_state _ _

theorem stepEnd_some (t : ThreadRef) (request : RequestId) (s : System σ) :
    (stepEnd t (some request) s).2 =
      let s := (deleteStepRequest request ((s.stopRunning t).mapThread t (·.setStepping none))).2
      s.queue (s.element t) (.suspend .stepEnd) := rfl

theorem stepEnd_none (t : ThreadRef) (s : System σ) :
    (stepEnd t none s).2 =
      let s := (s.stopRunning t).mapThread t (·.setStepping none)
      s.queue (s.element t) (.suspend .stepEnd) := rfl

theorem abortStep_none {t : ThreadRef} {s : System σ} (h : (s.thread t).stepping = none) :
    abortStep t s = ((), s) := by
  rw [abortStep, run_get_bind, h]
  rfl

theorem abortStep_some {t : ThreadRef} {s : System σ} {stepping : Stepping}
    (h : (s.thread t).stepping = some stepping) :
    abortStep t s = deleteStepRequest stepping.request (s.mapThread t (·.setStepping none)) := by
  rw [abortStep, run_get_bind, h]
  rfl

theorem abortStep_rest (t : ThreadRef) (s : System σ) (m : σ) :
    { (abortStep t s).2 with session := m, threads := #[], stepOwners := .empty } =
      { s with session := m, threads := #[], stepOwners := .empty } := by
  cases h : (s.thread t).stepping with
  | none => rw [abortStep_none h]
  | some stepping =>
    rw [abortStep_some h, deleteStepRequest_state]
    rfl

end Debugger
