import Debugger.Proofs.Landing
import Debugger.Proofs.Verdicts

/-! # Nothing is resumed while events are handled

To handle an event the debugger asks the machine about threads and their groups, counts frames, and makes
and deletes step requests.  None of this moves a thread of the machine.  The one exception is a step that
drops frames: it lets its thread run as soon as it goes on.
-/

namespace Debugger

/-! ## Calls that move nothing -/

/-- The call resumes a thread, or everything. -/
def CallKind.isResume : CallKind → Bool
  | resumeThread | resumeVm => true
  | _ => false

namespace Machine

/-- The threads, what was reported of them, and the resumes that were asked for. -/
def motion (m : Machine) : List Task × Channel EventSet × List ThreadId × Nat :=
  (m.tasks, m.events, m.resumes, m.vmResumes)

/-- No thread was moved. -/
def Unmoved (m m' : Machine) : Prop := m'.motion = m.motion

instance : IsPreorder Machine Unmoved where
  refl _ := rfl
  trans _ _ _ h h' := h'.trans h

end Machine

namespace Faulty

/-- The resumes that were sent: those that reached the machine, and those that failed. -/
def resumesSent (f : Faulty Machine) : List ThreadId × Nat × List (CallKind × SessionError) :=
  (f.inner.resumes, f.inner.vmResumes, f.failures.filter (·.1.isResume))

/-- No thread was moved, and no resume was sent. -/
structure Unmoved (f f' : Faulty Machine) : Prop where
  inner : f.inner.Unmoved f'.inner
  refused : f'.failures.filter (·.1.isResume) = f.failures.filter (·.1.isResume)

instance : IsPreorder (Faulty Machine) Unmoved where
  refl _ := ⟨rfl, rfl⟩
  trans _ _ _ h h' := ⟨h'.inner.trans h.inner, h'.refused.trans h.refused⟩

variable {α : Type}

theorem Unmoved.parts {f f' : Faulty Machine} (h : f.Unmoved f') :
    f'.inner.tasks = f.inner.tasks ∧ f'.inner.events = f.inner.events ∧ f'.resumesSent = f.resumesSent := by
  obtain ⟨tasks, events, resumes, vmResumes⟩ : f'.inner.tasks = f.inner.tasks ∧
      f'.inner.events = f.inner.events ∧ f'.inner.resumes = f.inner.resumes ∧
      f'.inner.vmResumes = f.inner.vmResumes := by
    simpa only [Machine.Unmoved, Machine.motion, Prod.mk.injEq] using h.inner
  refine ⟨tasks, events, ?_⟩
  rw [resumesSent, resumes, vmResumes, h.refused]
  rfl

private theorem guarded_unmoved {kind : CallKind} {call : Call Machine α} (hk : kind.isResume = false)
    (h : Within Machine.Unmoved call) : Within Unmoved (guarded kind call) := by
  intro f
  rcases guarded_cases kind call f with ⟨a, f', hc, hi, hf⟩ | ⟨e, f', hc, hi, hf⟩
  · rw [stateAfter_of_ok hc]
    have inner := h f.inner
    rw [stateAfter_of_ok hi] at inner
    exact ⟨inner, by rw [hf]⟩
  · rw [stateAfter_of_error hc]
    refine ⟨?_, ?_⟩
    · rcases hi with hi | hi
      · rw [hi]
        exact refl_of Machine.Unmoved f.inner
      · have inner := h f.inner
        rwa [stateAfter_of_error hi] at inner
    · rw [hf, List.filter_append, List.filter_cons_of_neg (by simp [hk])]
      exact List.append_nil _

theorem threadGroup_unmoved (t : ThreadId) :
    Within Unmoved (Session.threadGroup t : Call (Faulty Machine) _) :=
  guarded_unmoved rfl (Machine.threadGroup_within t)

theorem groupName_unmoved (g : GroupId) :
    Within Unmoved (Session.groupName g : Call (Faulty Machine) _) :=
  guarded_unmoved rfl (.bind (Machine.findGroup_within g) fun _ => .pure _)

theorem groupParent_unmoved (g : GroupId) :
    Within Unmoved (Session.groupParent g : Call (Faulty Machine) _) :=
  guarded_unmoved rfl (.bind (Machine.findGroup_within g) fun _ => .pure _)

theorem threadIsSuspended_unmoved (t : ThreadId) :
    Within Unmoved (Session.threadIsSuspended t : Call (Faulty Machine) _) :=
  guarded_unmoved rfl (.bind (Machine.find_within t) fun _ => .pure _)

theorem frameCount_unmoved (t : ThreadId) :
    Within Unmoved (Session.frameCount t : Call (Faulty Machine) _) :=
  guarded_unmoved rfl (.bind (Machine.findSuspended_within t) fun _ => .pure _)

theorem createStepRequest_unmoved (r : StepRequest) :
    Within Unmoved (Session.createStepRequest r : Call (Faulty Machine) _) :=
  guarded_unmoved rfl fun m => stateAfter_of_ok (Machine.createStepRequest_eq r m) ▸ rfl

theorem deleteStepRequest_unmoved (request : RequestId) :
    Within Unmoved (Session.deleteEventRequest .step request : Call (Faulty Machine) _) :=
  guarded_unmoved rfl fun m => stateAfter_of_ok (Machine.deleteStepRequest_eq request m) ▸ rfl

theorem isSystemThread_unmoved (t : ThreadId) : Within Unmoved (isSystemThread t : Call (Faulty Machine) _) :=
  isSystemThread_within (threadGroup_unmoved t) groupName_unmoved groupParent_unmoved

theorem countFrames_unmoved (st : Stepping) (t : ThreadId) :
    Within Unmoved (st.countFrames t : Call (Faulty Machine) _) := by
  rw [Stepping.countFrames]
  split
  · exact .map _ (frameCount_unmoved t)
  · exact .pure _

end Faulty

/-! ## Handling that moves nothing -/

/-- The machine and what there is to do are as before, apart from requests. -/
structure System.Unresumed (s s' : System (Faulty Machine)) : Prop where
  session : s.session.Unmoved s'.session
  ready : s'.ready = s.ready
  reader : s'.reader = s.reader

namespace System.Unresumed

instance : IsPreorder (System (Faulty Machine)) System.Unresumed where
  refl _ := ⟨refl_of _ _, rfl, rfl⟩
  trans _ _ _ h h' :=
    ⟨trans_of Faulty.Unmoved h.session h'.session, h'.ready.trans h.ready, h'.reader.trans h.reader⟩

variable {s s' : System (Faulty Machine)}

theorem of_eq (session : s'.session = s.session) (ready : s'.ready = s.ready) (reader : s'.reader = s.reader) :
    s.Unresumed s' :=
  ⟨session ▸ refl_of Faulty.Unmoved s.session, ready, reader⟩

theorem called {m : Faulty Machine} (h : s.session.Unmoved m) : s.Unresumed { s with session := m } := ⟨h, rfl, rfl⟩

/-- What the debugger does on its own then resumes nothing. -/
theorem aside {s₁ : System (Faulty Machine)} (h : s.Unresumed s₁) (session : s'.session = s₁.session)
    (ready : s'.ready = s₁.ready) (reader : s'.reader = s₁.reader) : s.Unresumed s' :=
  trans_of System.Unresumed h (of_eq session ready reader)

end System.Unresumed

open Debugger.System (Unresumed)

private theorem asked_unresumed {α : Type} {call : Call (Faulty Machine) α} (h : Within Faulty.Unmoved call) :
    Debug.Within Unresumed (ask call) :=
  .ask fun s => .called (h s.session)

private theorem deleteStepRequest_unresumed (request : RequestId) :
    Debug.Within Unresumed (deleteStepRequest request : Debug (Faulty Machine) _) := by
  intro s
  rw [deleteStepRequest_state]
  exact ⟨Faulty.deleteStepRequest_unmoved request s.session, rfl, rfl⟩

private theorem stepEnd_unresumed (t : ThreadRef) (request : Option RequestId) :
    Debug.Within Unresumed (stepEnd t request : Debug (Faulty Machine) _) := by
  intro s
  cases request with
  | none => exact .of_eq rfl rfl rfl
  | some request =>
    rw [stepEnd_some]
    have ended : s.Unresumed ((s.stopRunning t).mapThread t (·.setStepping none)) := .of_eq rfl rfl rfl
    exact (trans_of Unresumed ended (deleteStepRequest_unresumed request _)).aside rfl rfl rfl

private theorem abortStep_unresumed (t : ThreadRef) :
    Debug.Within Unresumed (abortStep t : Debug (Faulty Machine) _) := by
  intro s
  cases hp : (s.thread t).stepping with
  | none =>
    rw [abortStep_none hp]
    exact refl_of Unresumed s
  | some st =>
    rw [abortStep_some hp]
    have ended : s.Unresumed (s.mapThread t (·.setStepping none)) := .of_eq rfl rfl rfl
    exact trans_of Unresumed ended (deleteStepRequest_unresumed st.request _)

private theorem addThread_unresumed (id : ThreadId) :
    Debug.Within Unresumed (addThread id : Debug (Faulty Machine) _) :=
  .get_bind fun s => by
    cases s.find? id with
    | some t => exact refl_of Unresumed s
    | none =>
      have created : Debug.Within Unresumed (createThread id : Debug (Faulty Machine) _) :=
        .bind (asked_unresumed (Faulty.isSystemThread_unmoved id)) fun _ =>
          .bind (asked_unresumed (Faulty.threadIsSuspended_unmoved id)) fun _ =>
            .modifyGet fun _ => .of_eq rfl rfl rfl
      refine Debug.Within.bind created (fun t => ?_) s
      exact .bind (.modify fun _ => .of_eq rfl rfl rfl) fun _ => .pure _

private theorem suspendListed_unresumed (s : System (Faulty Machine)) : s.Unresumed s.suspendListed := by
  have rest := s.suspendListed_rest
  exact .of_eq (congrArg System.session rest :) (congrArg System.ready rest :) (congrArg System.reader rest :)

private theorem resumeListed_unresumed (s : System (Faulty Machine)) : s.Unresumed s.resumeListed := by
  have rest := s.resumeListed_rest
  exact .of_eq (congrArg System.session rest :) (congrArg System.ready rest :) (congrArg System.reader rest :)

private theorem suspendAtBreakpoint_unresumed (t : ThreadRef) (b : BreakpointRef) :
    Debug.Within Unresumed (suspendAtBreakpoint t b true : Debug (Faulty Machine) _) := by
  intro s
  have stop : s.Unresumed (s.stopAt t b (s.stopsAll b)) := by
    cases s.stopsAll b with
    | true =>
      have arrived : s.Unresumed (s.arrive t b) := .of_eq rfl rfl rfl
      exact trans_of Unresumed arrived (suspendListed_unresumed (s.arrive t b))
    | false => exact .of_eq rfl rfl rfl
  rw [suspendAtBreakpoint_eq]
  generalize s.stopAt t b (s.stopsAll b) = s₁ at stop
  have asked : s₁.Unresumed (s₁.judge t (s.breakpoint b) s.targetAlive).2 := by
    cases s.targetAlive <;> exact .of_eq rfl rfl rfl
  dsimp only
  generalize s₁.judge t (s.breakpoint b) s.targetAlive = r at asked
  obtain ⟨stays, s₂⟩ := r
  refine trans_of Unresumed (trans_of Unresumed stop asked) ?_
  cases stays with
  | true =>
    have told : s₂.Unresumed
        (if s.stopsAll b then s₂.publish true .target (.suspend .breakpoint) else s₂) := by
      split <;> exact .of_eq rfl rfl rfl
    exact (trans_of Unresumed told (abortStep_unresumed t _)).aside rfl rfl rfl
  | false =>
    cases s.stopsAll b with
    | true => exact resumeListed_unresumed s₂
    | false => exact .of_eq rfl rfl rfl

private theorem handleBreakpoint_unresumed (request : RequestId) (id : ThreadId) :
    Debug.Within Unresumed (handleBreakpoint request id : Debug (Faulty Machine) _) :=
  .get_bind fun s => by
    cases s.installed.find? request with
    | none => exact refl_of Unresumed s
    | some b =>
      refine Debug.Within.bind (.modify fun _ => .of_eq rfl rfl rfl) (fun _ => ?_) s
      refine .bind (addThread_unresumed id) fun t => .get_bind fun s => ?_
      split
      · refine Debug.Within.bind (suspendAtBreakpoint_unresumed t b) (fun stays => ?_) s
        split
        · exact .pure _
        · exact .pure _
      · exact refl_of Unresumed s

private theorem leaveRequest_unresumed (t : ThreadRef) (request : RequestId) (s : System (Faulty Machine)) :
    s.Unresumed (s.leaveRequest t request) :=
  (deleteStepRequest_unresumed request s).aside rfl rfl rfl

/-! ## Steps that drop frames -/

namespace System

variable {σ : Type}

/-- From the landing a step of the thread that drops frames goes on. -/
def dropsFrom (s : System σ) (t : ThreadRef) (request : RequestId) (landing : Location) : Bool :=
  (s.thread t).stepping.any fun st =>
    st.request = request && st.kind.runsAtOnce && (st.land landing none).2 = .continue

/-- The event is a landing from which a step that drops frames goes on. -/
def dropsOn (s : System σ) : VmEvent → Bool
  | .step request _ landing =>
    ((s.stepOwners.find? request).bind s.find?).any (s.dropsFrom · request landing)
  | _ => false

/-- No event is such a landing when its turn comes. -/
def noneDropsOn [Session σ] (s : System σ) : List VmEvent → Bool
  | [] => true
  | e :: es => !s.dropsOn e && (handleEvent e s).2.noneDropsOn es

end System

/-- A landing resumes nothing, but for the frame drop that goes on from it. -/
private theorem landStep_unresumed {t : ThreadRef} {request : RequestId} {landing : Location}
    {s : System (Faulty Machine)} (still : s.dropsFrom t request landing = false) :
    s.Unresumed (landStep t request landing s).2 := by
  have called {st : Stepping} {m : Faulty Machine}
      (counted : stateAfter (st.countFrames (s.thread t).id) s.session = m) : s.Unresumed { s with session := m } :=
    .called (counted ▸ Faulty.countFrames_unmoved st (s.thread t).id s.session)
  have lands := landStep_lands t request landing s
  generalize (landStep t request landing s).2 = s' at lands
  cases lands with
  | stale => exact refl_of Unresumed s
  | ended _ _ _ counted => exact trans_of Unresumed (called counted) (stepEnd_unresumed t _ _)
  | @abandoned st m m' wanted e _ _ _ counted refused =>
    have left := trans_of Unresumed (called counted) (leaveRequest_unresumed t request _)
    have created := Faulty.createStepRequest_unmoved wanted ({ s with session := m }.leaveRequest t request).session
    rw [stateAfter_of_error refused] at created
    exact trans_of Unresumed (trans_of Unresumed left (.called created)) (stepEnd_unresumed t none _)
  | @renewed st next m m' wanted _ _ _ counted _ _ made =>
    have left := trans_of Unresumed (called counted) (leaveRequest_unresumed t request _)
    have created := Faulty.createStepRequest_unmoved wanted ({ s with session := m }.leaveRequest t request).session
    rw [stateAfter_of_ok made] at created
    exact (trans_of Unresumed left (Unresumed.called created)).aside rfl rfl rfl
  | dropped goes =>
    obtain ⟨st, kind, next, m, pending, same, atOnce, judged, -⟩ := dropGoingOn_cases goes
    rw [System.dropsFrom, pending] at still
    simp [same, atOnce, judged] at still

/-- No event resumes anything, but for the frame drops that go on. -/
theorem handleEvent_unresumed {e : VmEvent} {s : System (Faulty Machine)} (still : s.dropsOn e = false) :
    s.Unresumed (handleEvent e s).2 := by
  cases e with
  | step request id landing =>
    rw [handleEvent, handleStep, run_get_bind]
    rw [System.dropsOn] at still
    cases ho : (s.stepOwners.find? request).bind s.find? with
    | none => exact refl_of Unresumed s
    | some t =>
      rw [ho] at still
      exact landStep_unresumed still
  | breakpoint request id landing => exact handleBreakpoint_unresumed request id s
  | threadStart id => exact Debug.Within.bind (addThread_unresumed id) (fun _ => .pure _) s
  | threadDeath id =>
    have rest := s.threadDied_rest id
    exact .of_eq (congrArg System.session rest :) (congrArg System.ready rest :) (congrArg System.reader rest :)
  | vmDeath =>
    have rest := s.disconnect_rest
    exact .of_eq (congrArg System.session rest :) (congrArg System.ready rest :) (congrArg System.reader rest :)
  | disconnected =>
    have rest := s.disconnect_rest
    exact .of_eq (congrArg System.session rest :) (congrArg System.ready rest :) (congrArg System.reader rest :)

theorem handleEvents_unresumed {es : List VmEvent} {s : System (Faulty Machine)}
    (still : s.noneDropsOn es) : s.Unresumed (handleEvents es s).2 := by
  induction es generalizing s with
  | nil => exact refl_of Unresumed s
  | cons e es ih =>
    obtain ⟨first, later⟩ := Bool.and_eq_true_iff.mp still
    rw [handleEvents_cons]
    exact trans_of Unresumed (handleEvent_unresumed ((Bool.not_eq_true' _).mp first)) (ih later)

theorem System.noneDropsOn_append {σ : Type} [Session σ] (es es' : List VmEvent) (s : System σ) :
    s.noneDropsOn (es ++ es') = (s.noneDropsOn es && (handleEvents es s).2.noneDropsOn es') := by
  induction es generalizing s with
  | nil => rfl
  | cons e es ih => rw [List.cons_append, noneDropsOn, noneDropsOn, ih, handleEvents_cons, Bool.and_assoc]

end Debugger
