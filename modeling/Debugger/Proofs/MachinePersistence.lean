import Debugger.Proofs.MachineResumes
import Debugger.Proofs.PendingStep

/-! # What a machine keeps

Whatever is done to a machine, the channel on which it reports holds as many sets as at the start, and no
thread is taken out of it.  So a debugger that has read everything gets the next set that the machine
reports, and a thread with a frame that was ever shown is one of the machine's.
-/

namespace Debugger

open Scenario

namespace Machine

/-- The channel holds as much as before, and there are the same threads and perhaps more. -/
structure Lasts (m m' : Machine) : Prop where
  capacity : m'.events.capacity = m.events.capacity
  threads : m.tasks.map (·.id) <+: m'.tasks.map (·.id)

instance : IsPreorder Machine Lasts where
  refl _ := ⟨rfl, List.prefix_refl _⟩
  trans _ _ _ h h' := ⟨h'.capacity.trans h.capacity, h.threads.trans h'.threads⟩

variable {m m' : Machine}

/-- The threads may be in another state, but they are the same ones. -/
private theorem Lasts.of_eq (capacity : m'.events.capacity = m.events.capacity) (tasks : m'.tasks = m.tasks) :
    m.Lasts m' :=
  ⟨capacity, tasks ▸ List.prefix_refl _⟩

private theorem ids_updateTask {f : Task → Task} (hf : ∀ t, (f t).id = t.id) (thread : ThreadId) (ts : List Task) :
    (updateTask thread f ts).map (·.id) = ts.map (·.id) := by
  induction ts with
  | nil => rfl
  | cons t ts ih =>
    rw [updateTask]
    split
    · rw [List.map_cons, List.map_cons, hf]
    · rw [List.map_cons, List.map_cons, ih]

private theorem mapTask_lasts {f : Task → Task} (m : Machine) (thread : ThreadId) (hf : ∀ t, (f t).id = t.id) :
    m.Lasts (m.mapTask thread f) :=
  ⟨rfl, (ids_updateTask hf thread m.tasks) ▸ List.prefix_refl _⟩

private theorem mapTasks_lasts {f : Task → Task} (m : Machine) (hf : ∀ t, (f t).id = t.id) :
    m.Lasts (m.mapTasks f) := by
  refine ⟨rfl, ?_⟩
  rw [mapTasks, List.map_map]
  exact (List.map_congr_left fun t _ => hf t) ▸ List.prefix_refl _

private theorem completeStep_lasts (m : Machine) (thread : ThreadId) : m.Lasts (m.completeStep thread).1 := by
  have stopped (stack : List RemoteFrame) :
      m.Lasts (m.mapTask thread fun t => { t with suspended := true, frames := stack }) :=
    mapTask_lasts m thread fun _ => by rfl
  unfold completeStep
  split
  · exact .of_eq rfl rfl
  · dsimp only
    split
    · exact .of_eq rfl rfl
    · generalize Option.getD _ _ = stack
      cases stack with
      | nil => exact ⟨rfl, (stopped []).threads⟩
      | cons top below =>
        dsimp only
        split
        · exact ⟨rfl, (stopped (top :: below)).threads⟩
        · exact ⟨rfl, (stopped (top :: below)).threads⟩

private theorem goOn_lasts (m : Machine) (thread : ThreadId) : m.Lasts (m.goOn thread) := by
  have runs : m.Lasts (m.mapTask thread (·.setSuspended false)) := mapTask_lasts m thread fun _ => by rfl
  unfold goOn
  dsimp only
  split
  · exact runs
  · have kept := trans_of Lasts runs (completeStep_lasts (m.mapTask thread (·.setSuspended false)) thread)
    generalize (m.mapTask thread (·.setSuspended false)).completeStep thread = r at kept ⊢
    obtain ⟨m', _ | e⟩ := r
    · exact kept
    · exact ⟨kept.capacity, kept.threads⟩

private theorem resumeThread_lasts (thread : ThreadId) : Within Lasts (resumeThread thread) := fun m => by
  have answer := resumeThread_eq thread m
  dsimp only at answer
  split at answer
  · rw [stateAfter_of_error answer]
    exact .of_eq rfl rfl
  · rw [stateAfter_of_error answer]
    exact .of_eq rfl rfl
  · rw [stateAfter_of_ok answer]
    have kept := goOn_lasts { m with resumes := m.resumes ++ [thread] } thread
    exact ⟨kept.capacity, kept.threads⟩

theorem lasts_exchange (h : Exchange m m') : m.Lasts m' := by
  have suspended {α : Type} (t : ThreadId) (f : Machine → Task → α) : Within Lasts (do
      let task ← findSuspended t
      return f (← get) task : Call Machine α) :=
    .bind (findSuspended_within t) fun _ => .get_bind fun m => refl_of Lasts m
  cases h with
  | allThreads => exact .of_eq rfl rfl
  | threadName t => exact Within.bind (find_within t) (fun _ => .pure _) m
  | suspendThread t => exact suspendThread_within (fun m => mapTask_lasts m t fun _ => by rfl) m
  | resumeThread t => exact resumeThread_lasts t m
  | threadIsSuspended t => exact Within.bind (find_within t) (fun _ => .pure _) m
  | frames t => exact Within.bind (findSuspended_within t) (fun _ => .pure _) m
  | frameCount t => exact Within.bind (findSuspended_within t) (fun _ => .pure _) m
  | threadGroup t => exact threadGroup_within t m
  | groupName g => exact Within.bind (findGroup_within g) (fun _ => .pure _) m
  | groupParent g => exact Within.bind (findGroup_within g) (fun _ => .pure _) m
  | threadPriority t => exact Within.bind (find_within t) (fun _ => .pure _) m
  | ownedMonitors t => exact suspended t (fun m _ => (m.monitors.find? t).getD []) m
  | contendedMonitor t => exact Within.bind (findSuspended_within t) (fun _ => .pure _) m
  | accept call => exact accept_within (fun _ _ => .of_eq rfl rfl) m
  | invoke call => exact invoke_within (fun _ _ => .of_eq rfl rfl) (fun _ _ => .of_eq rfl rfl) call m
  | forceReturn t => exact Within.bind (findSuspended_within t) (fun _ => .modify fun _ => .of_eq rfl rfl) m
  | frameVariable t frame name => exact suspended t (fun m _ => m.locals.find? (frame.id, name)) m
  | suspendVm => exact ⟨rfl, (mapTasks_lasts m fun _ => by rfl).threads⟩
  | resumeVm => exact ⟨rfl, (mapTasks_lasts m fun _ => by rfl).threads⟩
  | exitVm code => exact .of_eq rfl rfl
  | deleteBreakpoint r => exact .of_eq rfl rfl
  | stepRefused h => cases h
  | breakpointRefused h => cases h

theorem popFrames_lasts (thread : ThreadId) (frame : FrameId) : Within Lasts (popFrames thread frame) :=
  popFrames_within (fun _ _ => .of_eq rfl rfl)
    (fun m _ _ => ⟨rfl, (mapTask_lasts m thread fun _ => by rfl).threads⟩) frame

/-- Whatever a session is asked, the machine lasts. -/
private theorem make_lasts (c : SessionCall) : Within Lasts (c.make (σ := Machine)) := by
  have exchange {α : Type} {call : Call Machine α} (f : α → Doc)
      (h : ∀ m, Exchange m (stateAfter call m)) : Within Lasts (f <$> call) :=
    .map f fun m => lasts_exchange (h m)
  cases c with
  | allThreads => exact exchange _ .allThreads
  | threadName t => exact exchange _ (.threadName t)
  | suspendThread t => exact exchange _ (.suspendThread t)
  | resumeThread t => exact exchange _ (.resumeThread t)
  | threadIsSuspended t => exact exchange _ (.threadIsSuspended t)
  | frames t => exact exchange _ (.frames t)
  | frameCount t => exact exchange _ (.frameCount t)
  | threadGroup t => exact exchange _ (.threadGroup t)
  | groupName g => exact exchange _ (.groupName g)
  | groupParent g => exact exchange _ (.groupParent g)
  | threadPriority t => exact exchange _ (.threadPriority t)
  | ownedMonitors t => exact exchange _ (.ownedMonitors t)
  | contendedMonitor t => exact exchange _ (.contendedMonitor t)
  | createStepRequest r => exact .map _ fun _ => .of_eq rfl rfl
  | createBreakpointRequest r => exact .map _ fun _ => .of_eq rfl rfl
  | deleteEventRequest kind r => exact .map _ fun _ => .of_eq rfl rfl
  | invoke i =>
    refine .bind (fun m => lasts_exchange (.accept i m)) fun _ => ?_
    exact .bind (fun m => lasts_exchange (.invoke i m)) fun _ => .pure _
  | canPopFrames => exact fun _ => .of_eq rfl rfl
  | popFrames t f => exact .map _ (popFrames_lasts t f)
  | forceReturn t => exact exchange _ (.forceReturn t)
  | frameVariable t f name => exact exchange _ (.frameVariable t f name)
  | requestTimeout => exact fun _ => .of_eq rfl rfl
  | setRequestTimeout ms => exact fun _ => .of_eq rfl rfl
  | suspendVm => exact exchange _ .suspendVm
  | resumeVm => exact exchange _ .resumeVm
  | exitVm code => exact exchange _ (.exitVm code)

private theorem completeDeferred_lasts (m : Machine) (thread : ThreadId) :
    m.Lasts (m.completeDeferred thread).1 := by
  have kept := completeStep_lasts (m.undefer thread) thread
  unfold completeDeferred
  generalize (m.undefer thread).completeStep thread = r at kept ⊢
  obtain ⟨m', _ | e⟩ := r
  · exact ⟨kept.capacity, kept.threads⟩
  · exact ⟨kept.capacity, kept.threads⟩

private theorem completeDeferredAt_lasts (m : Machine) (thread : ThreadId) (request : RequestId)
    (stepFirst : Bool) : m.Lasts (m.completeDeferredAt thread request stepFirst).1 := by
  have kept := completeStep_lasts (m.undefer thread) thread
  unfold completeDeferredAt
  generalize (m.undefer thread).completeStep thread = r at kept ⊢
  obtain ⟨m', _ | e⟩ := r
  · exact ⟨kept.capacity, kept.threads⟩
  · cases e <;> exact ⟨kept.capacity, kept.threads⟩

private theorem hit_lasts (m : Machine) (thread : ThreadId) (request : RequestId) :
    m.Lasts (m.hit thread request).1 := by
  have all : m.Lasts (if m.stopsAll request then m.mapTasks (·.setSuspended true) else m) := by
    split
    · exact mapTasks_lasts m fun _ => by rfl
    · exact refl_of Lasts m
  unfold hit
  dsimp only
  generalize (if m.stopsAll request then m.mapTasks (·.setSuspended true) else m) = m₁ at all ⊢
  have stopped := trans_of Lasts all (mapTask_lasts (f := (·.setSuspended true)) m₁ thread fun _ => by rfl)
  split
  · exact all
  · split
    · exact stopped
    · exact ⟨stopped.capacity, stopped.threads⟩

private theorem apply_lasts (m : Machine) (c : MachineCommand) : m.Lasts (c.apply m).2 := by
  cases c with
  | addTask t => exact ⟨rfl, by simp [MachineCommand.apply, addTask]⟩
  | setFrames t fs => exact mapTask_lasts m t fun _ => by rfl
  | call c =>
    have h := make_lasts c m
    unfold MachineCommand.apply stateAfter at *
    cases hc : c.make m <;> simp only [hc] at h ⊢ <;> exact h
  | complete t => exact completeDeferred_lasts m t
  | completeAt t request stepFirst => exact completeDeferredAt_lasts m t request stepFirst
  | hit t request => exact hit_lasts m t request
  | emit sets =>
    have kept := foldl_keeps (f := emit) (g := fun m => (m.events.capacity, m.tasks)) (fun _ _ => rfl) sets m
    exact .of_eq (congrArg Prod.fst kept) (congrArg Prod.snd kept)
  | release =>
    unfold MachineCommand.apply
    dsimp only
    split <;> exact .of_eq rfl rfl
  | _ => exact .of_eq rfl rfl

end Machine

namespace Faulty

/-- The machine inside lasts. -/
def Lasts (f f' : Faulty Machine) : Prop := f.inner.Lasts f'.inner

variable {f f' : Faulty Machine}

instance : IsPreorder (Faulty Machine) Lasts where
  refl f := refl_of Machine.Lasts f.inner
  trans _ _ _ h h' := trans_of Machine.Lasts h h'

private theorem Lifts.lasts {R : Machine → Machine → Prop} (hR : ∀ {m m'}, R m m' → m.Lasts m')
    (h : Lifts R f f') : f.Lasts f' := by
  rcases h.inner with same | inner
  · rw [Lasts, same]
    exact refl_of Machine.Lasts f.inner
  · exact hR inner

private theorem lasts_spares (h : Relation.ReflTransGen Spares f f') : f.Lasts f' := by
  induction h with
  | refl => exact refl_of Lasts f
  | @tail b c _ hc ih =>
    refine trans_of Lasts ih ?_
    cases hc with
    | exchange h => exact (lifts_exchange h).lasts Machine.lasts_exchange
    | setRequestTimeout ms => exact show b.inner.Lasts (Session.setRequestTimeout ms b).inner from .of_eq rfl rfl
    | popFrames t frame => exact (optional_lifts (Machine.popFrames_lasts t frame) b).lasts id
    | @breakpoint _ r request h =>
      have made : Within (Lifts Machine.Lasts) (Session.createBreakpointRequest r : Call (Faulty Machine) _) :=
        guarded_lifts fun _ => .of_eq rfl rfl
      exact stateAfter_of_ok h ▸ (made b).lasts id

private theorem applyFaulty_lasts (f : Faulty Machine) (c : MachineCommand) : f.Lasts (c.applyFaulty f).2 := by
  have inside := Machine.apply_lasts f.inner c
  cases c with
  | fault kind es => exact (Machine.Lasts.of_eq rfl rfl :)
  | _ => exact inside

end Faulty

variable {s s' : System (Faulty Machine)}

private theorem BookChange.lasts (h : BookChange s s') : s.session.Lasts s'.session := by
  cases h with
  | fades h => exact Faulty.lasts_spares h.session
  | enlist => exact refl_of Faulty.Lasts _
  | died id => exact Faulty.lasts_spares (Fades.threadDied s id).session
  | disconnect => exact Faulty.lasts_spares (Fades.disconnect s).session
  | @drop t st hp =>
    have deleted : Within (Faulty.Lifts Machine.Lasts)
        (Session.deleteEventRequest .step st.request : Call (Faulty Machine) _) :=
      Faulty.guarded_lifts fun _ => .of_eq rfl rfl
    rw [session_dropStep]
    exact (deleted s.session).lasts id
  | @take t new wanted session ht hn hl hw h =>
    have made : Within (Faulty.Lifts Machine.Lasts)
        (Session.createStepRequest wanted : Call (Faulty Machine) _) := Faulty.guarded_lifts fun _ => .of_eq rfl rfl
    exact stateAfter_of_ok h ▸ (made s.session).lasts id

/-- Whatever happens, the machine of a debugger lasts. -/
theorem Happens.lasts (h : Happens scripted s s') (sound : s.Sound) : s.session.Lasts s'.session := by
  cases h with
  | change h =>
    have path := h.books sound
    clear h sound
    induction path with
    | refl => exact refl_of Faulty.Lasts _
    | tail _ hc ih => exact trans_of Faulty.Lasts ih hc.lasts
  | machine h =>
    obtain ⟨c, -, rfl⟩ := h
    exact s.session.applyFaulty_lasts c
  | bus bus => exact refl_of Faulty.Lasts _

/-- The machine's channel has room for what it reports next. -/
def System.Roomy (s : System (Faulty Machine)) : Prop := 0 < s.session.inner.events.capacity

private theorem Happens.roomy (h : Happens scripted s s') (sound : s.Sound) (roomy : s.Roomy) : s'.Roomy :=
  Nat.lt_of_lt_of_eq roomy (h.lasts sound).capacity.symm

private theorem roomy_invariant : Invariant scripted fun s => s.Sound ∧ s.Roomy where
  blank {m} settings start := by
    refine ⟨sound_blank m settings, ?_⟩
    obtain ⟨bare, cs, -, rfl⟩ := start
    have same : ((cs.foldl (fun f c => (c.applyFaulty f).2)
        ({ inner := {}, bare } : Faulty Machine)).inner.events.capacity) = ({} : Machine).events.capacity :=
      foldl_keeps (g := fun f : Faulty Machine => f.inner.events.capacity)
        (fun f c => (f.applyFaulty_lasts c).capacity) cs { inner := {}, bare }
    have room : 0 < ({} : Machine).events.capacity :=
      Nat.pos_of_isPowerOfTwo (Nat.isPowerOfTwo_nextPowerOfTwo _)
    exact Nat.lt_of_lt_of_eq room same.symm
  change h hs := ⟨(sound_invariant scripted).change h hs.1, (Happens.change h).roomy hs.1 hs.2⟩
  machine h hs := ⟨(sound_invariant scripted).machine h hs.1, (Happens.machine h).roomy hs.1 hs.2⟩
  bus bus hs := ⟨(sound_invariant scripted).bus bus hs.1, hs.2⟩

theorem Occurs.roomy (h : Occurs scripted s) : s.Roomy := (roomy_invariant.occurs h).2

/-! ## The threads of a machine -/

namespace Machine

/-- The thread is one of the machine's. -/
def Has (m : Machine) (thread : ThreadId) : Prop := ∃ task, m.task? thread = some task

theorem has_iff {m : Machine} {thread : ThreadId} : m.Has thread ↔ thread ∈ m.tasks.map (·.id) := by
  rw [Has, ← Option.isSome_iff_exists, task?, List.find?_isSome]
  simp

theorem Lasts.has {m m' : Machine} {thread : ThreadId} (h : m.Lasts m') (has : m.Has thread) : m'.Has thread :=
  has_iff.mpr (h.threads.subset (has_iff.mp has))

end Machine

end Debugger
