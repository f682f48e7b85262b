import Debugger.Proofs.BreakpointHits

/-! # Suspended threads stay so

A thread that was suspended at a breakpoint has no step left.  No other event lets it run, except a hit
that a listener objects to, its own or one of a breakpoint that stops everything.
-/

namespace Debugger

/-- The thread keeps its number, and if it neither runs nor steps it does neither afterwards. -/
structure Thread.Lulls (th th' : Thread) : Prop where
  id : th'.id = th.id
  still : th.running = false → th.stepping = none → th'.running = false ∧ th'.stepping = none

theorem Thread.Lulls.of_eq {th th' : Thread} (h : th' = th) : th.Lulls th' := by
  rw [h]
  exact ⟨rfl, fun hr hs => ⟨hr, hs⟩⟩

variable {σ : Type}

/-- The same for a thread of the system. -/
structure System.Lulls (t : ThreadRef) (s s' : System σ) : Prop where
  size : s.threads.size ≤ s'.threads.size
  thread : t < s.threads.size → (s.thread t).Lulls (s'.thread t)

instance (t : ThreadRef) : IsPreorder (System σ) (System.Lulls t) where
  refl _ := ⟨Nat.le_refl _, fun _ => .of_eq rfl⟩
  trans _ _ _ h h' := by
    refine ⟨Nat.le_trans h.size h'.size, fun ht => ?_⟩
    have first := h.thread ht
    have second := h'.thread (Nat.lt_of_lt_of_le ht h.size)
    exact ⟨second.id.trans first.id, fun hr hs => second.still (first.still hr hs).1 (first.still hr hs).2⟩

/-- A thread that neither runs nor steps. -/
structure System.Halted (s : System σ) (t : ThreadRef) (id : ThreadId) : Prop where
  inRange : t < s.threads.size
  id : (s.thread t).id = id
  stopped : (s.thread t).running = false
  stepless : (s.thread t).stepping = none

open Debugger.System (Lulls)

namespace System.Lulls

variable {s s' s₁ : System σ} {t u : ThreadRef} {id : ThreadId}

theorem halted (h : Lulls t s s') (hs : s.Halted t id) : s'.Halted t id := by
  have thread := h.thread hs.inRange
  obtain ⟨stopped, stepless⟩ := thread.still hs.stopped hs.stepless
  exact ⟨Nat.lt_of_lt_of_le hs.inRange h.size, thread.id.trans hs.id, stopped, stepless⟩

theorem of_eq (h : s'.threads = s.threads) : Lulls t s s' :=
  ⟨Nat.le_of_eq (by rw [h]), fun _ => .of_eq (System.thread_congr h t)⟩

/-- Whatever touches no thread is left out. -/
theorem aside (h : Lulls t s s₁) (hs : s'.threads = s₁.threads) : Lulls t s s' :=
  trans_of (Lulls t) h (of_eq hs)

/-- An update of another thread, or one that makes nobody run or step. -/
theorem mapThread (s : System σ) {f : Thread → Thread} (h : u ≠ t ∨ ∀ th : Thread, th.Lulls (f th)) :
    Lulls t s (s.mapThread u f) := by
  refine ⟨Nat.le_of_eq (System.size_mapThread s u f).symm, fun _ => ?_⟩
  rw [System.thread_mapThread]
  split
  · rename_i hu
    exact (h.resolve_left fun hn => hn hu.1) (s.thread t)
  · exact .of_eq rfl

theorem stopRunning (s : System σ) (u : ThreadRef) : Lulls t s (s.stopRunning u) :=
  mapThread s (.inr fun _ => ⟨rfl, fun _ hs => ⟨rfl, hs⟩⟩)

theorem arrive (s : System σ) (u : ThreadRef) (b : BreakpointRef) : Lulls t s (s.arrive u b) :=
  mapThread s (.inr fun _ => ⟨rfl, fun hr hs => ⟨hr, hs⟩⟩)

theorem startRunning (s : System σ) (h : u ≠ t) : Lulls t s (s.startRunning u) := by
  have started : Lulls t s (s.mapThread u (·.setRunning true)) := mapThread s (.inl h)
  have marked := trans_of (Lulls t) started (mapThread _ (f := Thread.markStale) (.inl h))
  exact marked.aside rfl

theorem bury (s : System σ) (u : ThreadRef) : Lulls t s (s.bury u) :=
  bury_within (mapThread s (.inr fun _ => ⟨rfl, fun _ _ => ⟨rfl, rfl⟩⟩)) fun _ _ => .of_eq rfl

theorem suspendListed (s : System σ) : Lulls t s s.suspendListed :=
  suspendListed_within (fun _ => .of_eq rfl) stopRunning s

theorem stopAt (s : System σ) (u : ThreadRef) (b : BreakpointRef) (all : Bool) :
    Lulls t s (s.stopAt u b all) := stopAt_within (arrive s u b) suspendListed (stopRunning · u) all

theorem threadDied (s : System σ) (id : ThreadId) : Lulls t s (s.threadDied id) :=
  threadDied_within (fun _ _ => .of_eq rfl) (fun _ _ => .of_eq rfl) bury s id

theorem disconnect (s : System σ) : Lulls t s s.disconnect :=
  disconnect_within (fun _ => .of_eq rfl) bury (fun _ => .of_eq rfl) s

end System.Lulls

variable [Session σ] {s s' s₁ : System σ} {t u : ThreadRef} {id : ThreadId} {request : RequestId}
  {landing : Location} {b : BreakpointRef}

/-! ## Steps of other threads -/

private theorem deleteStepRequest_lulls (request : RequestId) (s : System σ) :
    Lulls t s (deleteStepRequest request s).2 := by
  rw [deleteStepRequest_state]
  exact .of_eq rfl

private theorem stepEnd_lulls (u : ThreadRef) (request : Option RequestId) (s : System σ) :
    Lulls t s (stepEnd u request s).2 := by
  have stopped : Lulls t s (s.stopRunning u) := .stopRunning s u
  have ended : Lulls t s ((s.stopRunning u).mapThread u (·.setStepping none)) :=
    trans_of (Lulls t) stopped
      (Lulls.mapThread _ (f := (·.setStepping none)) (.inr fun _ => ⟨rfl, fun hr _ => ⟨hr, rfl⟩⟩))
  cases request with
  | none => exact ended.aside rfl
  | some request =>
    rw [stepEnd_some]
    exact (trans_of (Lulls t) ended (deleteStepRequest_lulls request _)).aside rfl

private theorem abortStep_lulls (u : ThreadRef) (s : System σ) : Lulls t s (abortStep u s).2 := by
  cases hp : (s.thread u).stepping with
  | none =>
    rw [abortStep_none hp]
    exact refl_of (Lulls t) s
  | some st =>
    have ended : Lulls t s (s.mapThread u (·.setStepping none)) :=
      .mapThread s (.inr fun _ => ⟨rfl, fun hr _ => ⟨hr, rfl⟩⟩)
    rw [abortStep_some hp]
    exact trans_of (Lulls t) ended (deleteStepRequest_lulls st.request _)

private theorem runStep_lulls (u : ThreadRef) (forced : Bool) (s : System σ) :
    Lulls t s (stateAfter (runStep u forced) s) := by
  cases h : letRun (s.thread u).id forced s.session with
  | ok v m =>
    rw [stateAfter_of_ok (runStep_ok h)]
    exact .of_eq rfl
  | error e m =>
    rw [stateAfter_of_error (runStep_error h), System.stepFailed]
    have called : Lulls t s { s with session := m } := .of_eq rfl
    exact (trans_of (Lulls t) called (stepEnd_lulls u _ _)).aside rfl

private theorem leaveRequest_lulls (h : u ≠ t) (request : RequestId) (s : System σ) :
    Lulls t s (s.leaveRequest u request) :=
  trans_of (Lulls t) (deleteStepRequest_lulls request s) (Lulls.mapThread _ (.inl h))

omit [Session σ] in
private theorem renewStep_lulls (h : u ≠ t) (st : Stepping) (m : σ) (s : System σ) : Lulls t s (s.renewStep u st m) := by
  have stepping : Lulls t s (s.mapThread u (·.setStepping (some st))) := Lulls.mapThread _ (.inl h)
  exact stepping.aside rfl

/-- A landing concerns a thread whose step it ends or goes on with. -/
private theorem landStep_lulls (h : u = t → (s.thread t).stepping = none) :
    Lulls t s (landStep u request landing s).2 := by
  have called (m : σ) : Lulls t s { s with session := m } := .of_eq rfl
  have other {st : Stepping} (pending : (s.thread u).stepping = some st) : u ≠ t := by
    rintro rfl
    rw [h rfl] at pending
    cases pending
  have lands := landStep_lands u request landing s
  generalize (landStep u request landing s).2 = s' at lands
  cases lands with
  | stale => exact refl_of (Lulls t) s
  | @ended st m => exact trans_of (Lulls t) (called m) (stepEnd_lulls u _ _)
  | @abandoned st m m' wanted e _ pending =>
    have left := trans_of (Lulls t) (called m) (leaveRequest_lulls (other pending) request _)
    have refused : Lulls t s { { s with session := m }.leaveRequest u request with session := m' } := left.aside rfl
    exact trans_of (Lulls t) refused (stepEnd_lulls u none _)
  | @renewed st next m m' wanted _ pending =>
    have left := trans_of (Lulls t) (called m) (leaveRequest_lulls (other pending) request _)
    exact trans_of (Lulls t) left (renewStep_lulls (other pending) next m' _)
  | dropped goes =>
    obtain ⟨st, kind, next, m, pending, -, -, -, -, rfl, -⟩ := dropGoingOn_cases goes
    have left := leaveRequest_lulls (other pending) request s
    have renewed := trans_of (Lulls t) left (renewStep_lulls (other pending) { st with kind, request := next } m _)
    exact trans_of (Lulls t) renewed (runStep_lulls u _ _)

/-! ## Hits -/

/-- What it means that the thread of that number is listed now, if it was not before. -/
structure System.Added (s : System σ) (id : ThreadId) (t : ThreadRef) (s' : System σ) : Prop where
  found : s'.find? id = some t
  breakpoints : s'.breakpoints = s.breakpoints
  lulls (u : ThreadRef) : Lulls u s s'
  listed {u : ThreadRef} : s.find? id = some u → u = t ∧ s' = s

omit [Session σ] in
private theorem find?_enlist {th : Thread} (new : s.find? th.id = none) :
    (s.enlist th).find? th.id = some s.threads.size := by
  have last : (s.enlist th).thread s.threads.size = th := by rw [thread_enlist, if_pos rfl]
  rw [System.find?, show (s.enlist th).registry = s.registry ++ [s.threads.size] from rfl, List.find?_append]
  cases hf : s.registry.find? fun t => decide (((s.enlist th).thread t).id = th.id) with
  | none => simp [last]
  | some t =>
    refine congrArg some (by_contra fun ht => ?_)
    have same : ((s.enlist th).thread t).id = th.id :=
      of_decide_eq_true (List.find?_some (p := fun t => decide (((s.enlist th).thread t).id = th.id)) hf)
    rw [thread_enlist, if_neg ht] at same
    exact List.find?_eq_none.mp new t (List.mem_of_find?_eq_some hf) (decide_eq_true same)

theorem addThread_added (id : ThreadId) (s : System σ) :
    ∃ t s', addThread id s = (t, s') ∧ s.Added id t s' := by
  cases h : s.find? id with
  | some t =>
    refine ⟨t, s, addThread_listed h, h, rfl, fun u => refl_of (Lulls u) s, fun hu => ⟨?_, rfl⟩⟩
    exact (Option.some.inj (h.symm.trans hu)).symm
  | none =>
    obtain ⟨m, th, -, rfl, new, added⟩ := addThread_new h
    refine ⟨_, _, added, find?_enlist (s := { s with session := m }) h, rfl, fun u => ⟨?_, fun hu => ?_⟩,
      fun hu => ?_⟩
    · exact Nat.le_trans (Nat.le_succ _) (Nat.le_of_eq (Array.size_push _).symm)
    · refine .of_eq ?_
      rw [thread_enlist, if_neg (Nat.ne_of_lt hu)]
      rfl
    · rw [h] at hu
      cases hu

omit [Session σ] in
/-- Threads are found by the list and by their numbers. -/
theorem System.find?_congr (registry : s'.registry = s.registry)
    (ids : ∀ t, (s'.thread t).id = (s.thread t).id) : s'.find? = s.find? := by
  funext id
  simp only [System.find?, registry, ids]

private theorem abortStep_stepless (u : ThreadRef) (s : System σ) :
    (abortStep u s).2.find? = s.find? ∧ ((abortStep u s).2.thread u).stepping = none := by
  cases hp : (s.thread u).stepping with
  | none =>
    rw [abortStep_none hp]
    exact ⟨rfl, hp⟩
  | some st =>
    have struck := System.thread_mapThread_self (System.lt_size_of_stepping hp) (·.setStepping none)
    rw [abortStep_some hp, deleteStepRequest_state]
    refine ⟨System.find?_congr rfl fun t => ?_, congrArg Thread.stepping struck⟩
    exact System.id_mapThread (f := (·.setStepping none)) (fun _ => by rfl) s u t

/-- A thread that stays suspended at a breakpoint has no step left. -/
private theorem suspendAtBreakpoint_stays (h : (suspendAtBreakpoint u b true s).1 = true) :
    (suspendAtBreakpoint u b true s).2.find? = s.find? ∧
      ((suspendAtBreakpoint u b true s).2.thread u).stepping = none := by
  rw [suspendAtBreakpoint_eq] at h ⊢
  have stopped : Fades s (s.stopAt u b (s.stopsAll b)) := by
    cases s.stopsAll b with
    | true => exact (Fades.arrive s u b).trans (.suspendListed _)
    | false => exact (Fades.arrive s u b).trans (.stopRunning _ u)
  generalize s.stopAt u b (s.stopsAll b) = s₁ at h stopped ⊢
  have asked : Fades s₁ (s₁.judge u (s.breakpoint b) s.targetAlive).2 := by
    cases s.targetAlive <;> exact .of_eq rfl rfl
  dsimp only at h ⊢
  generalize s₁.judge u (s.breakpoint b) s.targetAlive = r at h asked ⊢
  obtain ⟨stays, s₂⟩ := r
  obtain rfl : stays = true := h
  have told : Fades s₂ (if s.stopsAll b then s₂.publish true .target (.suspend .breakpoint) else s₂) := by
    split <;> exact .of_eq rfl rfl
  have same := (stopped.trans asked).trans told
  have known := System.find?_congr same.registry fun t => (same.threads t).id
  obtain ⟨found, stepless⟩ :=
    abortStep_stepless u (if s.stopsAll b then s₂.publish true .target (.suspend .breakpoint) else s₂)
  exact ⟨found.trans known, stepless⟩

/-- The hit leaves its thread suspended. -/
structure System.StopsAt (s : System σ) (request : RequestId) (id : ThreadId) (t : ThreadRef) : Prop where
  stays : (handleBreakpoint request id s).1 = .staySuspended
  found : (handleBreakpoint request id s).2.find? id = some t
  suspended : ((handleBreakpoint request id s).2.thread t).isSuspended

theorem System.StopsAt.halted (h : s.StopsAt request id t) :
    (handleBreakpoint request id s).2.Halted t id := by
  obtain ⟨stays, found, suspended⟩ := h
  have stepless : ((handleBreakpoint request id s).2.thread t).stepping = none := by
    cases installed : s.installed.find? request with
    | none =>
      rw [handleBreakpoint_unknown installed] at stays
      cases stays
    | some b =>
      obtain ⟨u, s₁, added, new⟩ := addThread_added id (s.countHit b)
      have eq := handleBreakpoint_eq installed added
      by_cases honors : (s₁.thread u).honorsBreakpoints
      · rw [if_pos honors] at eq
        rw [eq] at stays found ⊢
        dsimp only at stays found ⊢
        have stopped : (suspendAtBreakpoint u b true s₁).1 = true := by
          by_contra run
          rw [if_neg run] at stays
          cases stays
        obtain ⟨same, none⟩ := suspendAtBreakpoint_stays stopped
        rw [same, new.found] at found
        cases found
        exact none
      · rw [eq, if_neg honors] at stays
        cases stays
  obtain ⟨stopped, live⟩ := Bool.and_eq_true_iff.mp suspended
  refine ⟨?_, System.id_of_find? found, (Bool.not_eq_true' _).mp stopped, stepless⟩
  refine Nat.lt_of_not_le fun beyond => ?_
  rw [System.thread_of_size_le beyond] at live
  cases live

/-! ## Later events -/

/-- A listener objects to the hit, which lets the thread of that number run. -/
def System.overrules (s : System σ) (id : ThreadId) : VmEvent → Bool
  | .breakpoint request thread _ =>
    (handleBreakpoint request thread s).1 = .resume && (s.installed.find? request).any fun b =>
      (thread = id || (s.breakpoint b).policy = .vm) &&
        (s.find? thread).all fun t => (s.thread t).honorsBreakpoints
  | _ => false

/-- Nobody objects to such a hit when its turn comes. -/
def System.noneOverrules (s : System σ) (id : ThreadId) : List VmEvent → Bool
  | [] => true
  | e :: es => !s.overrules id e && (handleEvent e s).2.noneOverrules id es

/-- A hit makes no other thread run, and none at all if its own stays suspended. -/
private theorem suspendAtBreakpoint_lulls
    (h : (suspendAtBreakpoint u b true s).1 = true ∨ u ≠ t ∧ (s.breakpoint b).policy ≠ .vm) :
    Lulls t s (suspendAtBreakpoint u b true s).2 := by
  rw [suspendAtBreakpoint_eq] at h ⊢
  have stopped : Lulls t s (s.stopAt u b (s.stopsAll b)) := .stopAt s u b _
  have all : s.stopsAll b = true → (s.breakpoint b).policy = .vm := fun ha =>
    of_decide_eq_true (Bool.and_eq_true_iff.mp ha).1
  generalize s.stopAt u b (s.stopsAll b) = s₁ at h stopped ⊢
  have asked : Lulls t s₁ (s₁.judge u (s.breakpoint b) s.targetAlive).2 := by
    cases s.targetAlive <;> exact .of_eq rfl
  dsimp only at h ⊢
  generalize s₁.judge u (s.breakpoint b) s.targetAlive = r at h asked ⊢
  obtain ⟨stays, s₂⟩ := r
  refine trans_of (Lulls t) (trans_of (Lulls t) stopped asked) ?_
  cases stays with
  | true =>
    have told : Lulls t s₂ (if s.stopsAll b then s₂.publish true .target (.suspend .breakpoint) else s₂) := by
      split <;> exact .of_eq rfl
    exact (trans_of (Lulls t) told (abortStep_lulls u _)).aside rfl
  | false =>
    obtain ⟨other, policy⟩ := h.resolve_left Bool.false_ne_true
    rw [show s.stopsAll b = false from Bool.eq_false_iff.mpr fun ha => policy (all ha)]
    exact .startRunning s₂ other

private theorem handleBreakpoint_lulls (hid : (s.thread t).id = id) (ht : t < s.threads.size)
    {thread : ThreadId} (calm : s.overrules id (.breakpoint request thread landing) = false) :
    Lulls t s (handleBreakpoint request thread s).2 := by
  cases installed : s.installed.find? request with
  | none =>
    rw [handleBreakpoint_unknown installed]
    exact refl_of (Lulls t) s
  | some b =>
    obtain ⟨u, s₁, added, new⟩ := addThread_added thread (s.countHit b)
    have counted : Lulls t s (s.countHit b) := .of_eq rfl
    have listed := trans_of (Lulls t) counted (new.lulls t)
    have eq := handleBreakpoint_eq installed added
    by_cases honors : (s₁.thread u).honorsBreakpoints
    · rw [if_pos honors] at eq
      rw [System.overrules, eq, installed] at calm
      rw [eq]
      refine trans_of (Lulls t) listed (suspendAtBreakpoint_lulls ?_)
      cases hv : (suspendAtBreakpoint u b true s₁).1 with
      | true => exact .inl rfl
      | false =>
        have minds : (s.find? thread).all fun t => (s.thread t).honorsBreakpoints := by
          cases hf : s.find? thread with
          | none => rfl
          | some v =>
            obtain ⟨rfl, rfl⟩ := new.listed hf
            exact honors
        have policy : (s₁.breakpoint b).policy = (s.breakpoint b).policy := by
          rw [System.breakpoint, new.breakpoints]
          exact policy_scene (scene_countHit s b) b
        have apart : ¬ (thread = id ∨ (s.breakpoint b).policy = .vm) := by
          simpa [hv, minds] using calm
        refine .inr ⟨?_, fun hp => apart (.inr (policy.symm.trans hp))⟩
        rintro rfl
        exact apart (.inl (((System.id_of_find? new.found).symm.trans (listed.thread ht).id).trans hid))
    · rw [eq, if_neg honors]
      exact listed

/-- An event that does not overrule the stop of a thread lets the thread rest. -/
theorem handleEvent_lulls (h : s.Halted t id) {e : VmEvent} (calm : s.overrules id e = false) :
    Lulls t s (handleEvent e s).2 := by
  cases e with
  | step request thread landing =>
    rw [handleEvent, handleStep, run_get_bind]
    cases (s.stepOwners.find? request).bind s.find? with
    | none => exact refl_of (Lulls t) s
    | some u => exact landStep_lulls fun _ => h.stepless
  | breakpoint request thread landing => exact handleBreakpoint_lulls h.id h.inRange calm
  | threadStart thread =>
    obtain ⟨u, s₁, added, new⟩ := addThread_added thread s
    rw [handleEvent, run_bind added]
    exact new.lulls t
  | threadDeath thread => exact .threadDied s thread
  | vmDeath => exact .disconnect s
  | disconnected => exact .disconnect s

theorem handleEvents_halted {es : List VmEvent} (h : s.Halted t id) (calm : s.noneOverrules id es) :
    (handleEvents es s).2.Halted t id := by
  induction es generalizing s with
  | nil => exact h
  | cons e es ih =>
    obtain ⟨first, later⟩ := Bool.and_eq_true_iff.mp calm
    rw [handleEvents_cons]
    exact ih ((handleEvent_lulls h ((Bool.not_eq_true' _).mp first)).halted h) later

end Debugger
