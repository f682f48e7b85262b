import Debugger.Proofs.FrameCache
import Debugger.Proofs.MachineResumes

/-! # Threads that nothing happens to

A thread is a bystander of what happens in another one.  Of the machine, a call on behalf of one thread
suspends and resumes no other; of the debugger, an update of one thread leaves the others alone, and their
frames, because no frame is known of two threads.
-/

namespace Debugger

/-! ## The machine -/

/-- A call that suspends and resumes no thread but `t`. -/
inductive Dealing {σ : Type} [Session σ] (t : ThreadId) : σ → σ → Prop
  | inquiry {s s'} (h : Inquiry t s s') : Dealing t s s'
  | suspendThread (s) : Dealing t s (stateAfter (Session.suspendThread t) s)
  | resumeThread (s) : Dealing t s (stateAfter (Session.resumeThread t) s)
  | forceReturn (s) : Dealing t s (stateAfter (Session.forceReturn t) s)
  | popFrames (frame s) : Dealing t s (stateAfter (Session.popFrames t frame) s)
  | createStepRequest (r s) : Dealing t s (stateAfter (Session.createStepRequest r) s)
  | deleteStepRequest (r s) : Dealing t s (stateAfter (Session.deleteEventRequest .step r) s)
  | accept (call s) : Dealing t s (stateAfter (Session.accept call) s)
  | invoke (call s) : Dealing t s (stateAfter (Session.invoke call) s)
  | setRequestTimeout (ms s) : Dealing t s (Session.setRequestTimeout ms s)

namespace Machine

variable {a b : ThreadId} {m m' : Machine}

/-- The thread is suspended in the machine, or not, as before. -/
def Keeps (b : ThreadId) (m m' : Machine) : Prop := m'.isSuspended b = m.isSuspended b

instance : IsPreorder Machine (Keeps b) where
  refl _ := rfl
  trans _ _ _ h h' := h'.trans h

private theorem any_updateTask (hab : a ≠ b) {f : Task → Task} (hf : ∀ t, (f t).id = t.id) (ts : List Task) :
    ((updateTask a f ts).any fun t => t.id = b && t.suspended) = ts.any fun t => t.id = b && t.suspended := by
  induction ts with
  | nil => rfl
  | cons t ts ih =>
    rw [updateTask]
    split
    · rename_i ht
      have hb : t.id ≠ b := ht ▸ hab
      simp only [List.any_cons, hf, hb, decide_false, Bool.false_and]
    · simp only [List.any_cons, ih]

theorem mapTask_keeps (hab : a ≠ b) {f : Task → Task} (hf : ∀ t, (f t).id = t.id) (m : Machine) :
    m.Keeps b (m.mapTask a f) := any_updateTask hab hf m.tasks

theorem completeStep_keeps (hab : a ≠ b) (m : Machine) : m.Keeps b (m.completeStep a).1 := by
  unfold completeStep
  split
  · exact refl_of (Keeps b) m
  · dsimp only
    split
    · exact refl_of (Keeps b) m
    · split
      · exact mapTask_keeps hab (fun _ => by rfl) m
      · dsimp only
        split
        · exact mapTask_keeps hab (fun _ => by rfl) m
        · exact mapTask_keeps hab (fun _ => by rfl) m

/-- A thread that goes on may complete a step, which stops it again. -/
private theorem goOn_keeps (hab : a ≠ b) (m : Machine) : m.Keeps b (m.goOn a) := by
  have running : m.Keeps b (m.mapTask a (·.setSuspended false)) := mapTask_keeps hab (fun _ => by rfl) m
  unfold goOn
  dsimp only
  split
  · exact running
  · refine trans_of (Keeps b) running ?_
    have completed := completeStep_keeps hab (m.mapTask a (·.setSuspended false))
    generalize (m.mapTask a (·.setSuspended false)).completeStep a = r at completed ⊢
    obtain ⟨m', _ | e⟩ := r
    · exact completed
    · exact completed

private theorem resumeThread_keeps (hab : a ≠ b) : Within (Keeps b) (resumeThread a) := fun m => by
  have answer := resumeThread_eq a m
  dsimp only at answer
  split at answer
  · rw [stateAfter_of_error answer]
    exact refl_of (Keeps b) m
  · rw [stateAfter_of_error answer]
    exact refl_of (Keeps b) m
  · rw [stateAfter_of_ok answer]
    exact goOn_keeps hab { m with resumes := m.resumes ++ [a] }

private theorem forceReturn_keeps : Within (Keeps b) (forceReturn a) :=
  .bind (findSuspended_within a) fun _ => .modify fun _ => rfl

/-- A question changes nothing. -/
private theorem inquiry_keeps (h : Inquiry a m m') : m.Keeps b m' := by
  cases h with
  | threadName => exact Within.bind (find_within a) (fun _ => .pure _) m
  | threadIsSuspended => exact Within.bind (find_within a) (fun _ => .pure _) m
  | frames => exact Within.bind (findSuspended_within a) (fun _ => .pure _) m
  | frameCount => exact Within.bind (findSuspended_within a) (fun _ => .pure _) m
  | threadGroup => exact threadGroup_within a m
  | groupName g => exact Within.bind (findGroup_within g) (fun _ => .pure _) m
  | groupParent g => exact Within.bind (findGroup_within g) (fun _ => .pure _) m
  | threadPriority => exact Within.bind (find_within a) (fun _ => .pure _) m
  | ownedMonitors =>
    exact Within.bind (findSuspended_within a) (fun _ => .get_bind fun m => refl_of (Keeps b) m) m
  | contendedMonitor => exact Within.bind (findSuspended_within a) (fun _ => .pure _) m
  | frameVariable frame name =>
    exact Within.bind (findSuspended_within a) (fun _ => .get_bind fun m => refl_of (Keeps b) m) m

theorem dealing_keeps (hab : a ≠ b) (h : Dealing a m m') : m.Keeps b m' := by
  cases h with
  | inquiry h => exact inquiry_keeps h
  | suspendThread => exact suspendThread_within (mapTask_keeps hab fun _ => by rfl) m
  | resumeThread => exact resumeThread_keeps hab m
  | forceReturn => exact forceReturn_keeps m
  | popFrames frame =>
    have cut (m : Machine) (below : List RemoteFrame) :
        m.Keeps b (m.mapTask a fun t => { t with frames := below }) := mapTask_keeps hab (fun _ => by rfl) m
    exact popFrames_within (fun m _ => refl_of (Keeps b) m) (fun m below _ => cut m below) frame m
  | createStepRequest r => exact refl_of (Keeps b) m
  | deleteStepRequest r => exact refl_of (Keeps b) m
  | accept call => exact accept_within (fun m _ => refl_of (Keeps b) m) m
  | invoke call => exact invoke_within (fun m _ => refl_of (Keeps b) m) (fun m _ => refl_of (Keeps b) m) call m
  | setRequestTimeout ms => exact refl_of (Keeps b) m

end Machine

namespace Faulty

/-- A call through the schedule deals with a thread as a call of the inner session does, if at all. -/
theorem lifts_dealing {σ : Type} [Session σ] {t : ThreadId} {f f' : Faulty σ} (h : Dealing t f f') :
    Lifts (Dealing t) f f' := by
  cases h with
  | inquiry h =>
    cases h with
    | threadName => exact guarded_lifts (fun s => .inquiry (.threadName s)) f
    | threadIsSuspended => exact guarded_lifts (fun s => .inquiry (.threadIsSuspended s)) f
    | frames => exact guarded_lifts (fun s => .inquiry (.frames s)) f
    | frameCount => exact guarded_lifts (fun s => .inquiry (.frameCount s)) f
    | threadGroup => exact guarded_lifts (fun s => .inquiry (.threadGroup s)) f
    | groupName g => exact guarded_lifts (fun s => .inquiry (.groupName g s)) f
    | groupParent g => exact guarded_lifts (fun s => .inquiry (.groupParent g s)) f
    | threadPriority => exact guarded_lifts (fun s => .inquiry (.threadPriority s)) f
    | ownedMonitors => exact optional_lifts (fun s => .inquiry (.ownedMonitors s)) f
    | contendedMonitor => exact optional_lifts (fun s => .inquiry (.contendedMonitor s)) f
    | frameVariable r name => exact guarded_lifts (fun s => .inquiry (.frameVariable r name s)) f
  | suspendThread => exact guarded_lifts .suspendThread f
  | resumeThread => exact guarded_lifts .resumeThread f
  | forceReturn => exact optional_lifts .forceReturn f
  | popFrames frame => exact optional_lifts (.popFrames frame) f
  | createStepRequest r => exact guarded_lifts (.createStepRequest r) f
  | deleteStepRequest r => exact guarded_lifts (.deleteStepRequest r) f
  | accept call => exact guarded_lifts (.accept call) f
  | invoke call => exact noted_lifts (.invoke call) f
  | setRequestTimeout ms => exact ⟨.inr (.setRequestTimeout ms f.inner), id, List.prefix_refl _⟩

/-- The thread is suspended in the machine, or not, as before, and the record of failures only grows. -/
structure Keeps (b : ThreadId) (f f' : Faulty Machine) : Prop where
  inner : f.inner.Keeps b f'.inner
  failures : f.failures <+: f'.failures

variable {a b : ThreadId} {f f' : Faulty Machine}

instance : IsPreorder (Faulty Machine) (Keeps b) where
  refl _ := ⟨refl_of _ _, List.prefix_refl _⟩
  trans _ _ _ h h' := ⟨trans_of _ h.inner h'.inner, h.failures.trans h'.failures⟩

theorem dealing_keeps (hab : a ≠ b) (h : Dealing a f f') : f.Keeps b f' := by
  have lifts := lifts_dealing h
  refine ⟨?_, lifts.failures⟩
  rcases lifts.inner with same | inner
  · rw [same]
    exact refl_of _ _
  · exact Machine.dealing_keeps hab inner

end Faulty

/-! ## The debugger -/

/-- The part of the core that a bystander can notice. -/
def Core.sight {σ : Type} (c : Core σ) : Core σ :=
  { c with disconnected := false, released := false, activeInvocations := 0, savedTimeout := none,
           invocations := #[], evaluations := #[] }

/-- The thread object `u`, of the number `b`, exists, the frames that are known of threads are in order, and
no queued event is about the thread. -/
structure System.Bystander {σ : Type} (s : System σ) (u : ThreadRef) (b : ThreadId) : Prop where
  id : (s.thread u).id = b
  inRange : u < s.threads.size
  tidy : s.Tidy
  unspoken : ∀ e ∈ s.bus.queued, e.source ≠ .thread b

/-- Updates that leave threads and frames alone. -/
theorem System.Bystander.carry {σ : Type} {s s' : System σ} {u : ThreadRef} {b : ThreadId} (hs : s.Bystander u b)
    (threads : s'.threads = s.threads) (frames : s'.frames = s.frames)
    (unspoken : ∀ e ∈ s'.bus.queued, e.source ≠ .thread b) : s'.Bystander u b where
  id := by
    rw [System.thread_congr threads]
    exact hs.id
  inRange := threads ▸ hs.inRange
  tidy := hs.tidy.carry frames fun v => .inl (congrArg Thread.cache (System.thread_congr threads v))
  unspoken := unspoken

/-- The thread is what it was, in the debugger and in the machine, its frames stand for what they stood for,
it is listed if it was, the target is suspended if it was, and no event about the thread was published. -/
structure Untouched (u : ThreadRef) (b : ThreadId) (s s' : System (Faulty Machine)) : Prop where
  thread : s'.thread u = s.thread u
  frames : ∀ h ∈ (s.thread u).frames, s'.frames[h]? = s.frames[h]?
  held : s'.session.inner.isSuspended b = s.session.inner.isSuspended b
  listed : u ∈ s.registry → u ∈ s'.registry
  suspended : s'.suspended = s.suspended
  told : ∃ es, s'.bus.published = s.bus.published ++ es ∧ ∀ e ∈ es, e.source ≠ .thread b

/-- The same, and the thread remains a bystander: no other thread takes its number, it comes to own no
request, and breakpoints stop what they stopped. -/
structure Overlooks (u : ThreadRef) (b : ThreadId) (s s' : System (Faulty Machine)) : Prop extends
    Untouched u b s s' where
  bystander : s'.Bystander u b
  ids {t : ThreadRef} (h : (s.thread t).id ≠ b) : (s'.thread t).id ≠ b
  owners {r : RequestId} (h : (r, b) ∈ s'.stepOwners.entries) : (r, b) ∈ s.stepOwners.entries
  installed : s'.installed = s.installed
  policies (x : BreakpointRef) : (s'.breakpoint x).policy = (s.breakpoint x).policy
  failures : s.session.failures <+: s'.session.failures

/-- What happens is no affair of the thread. -/
def Aloof (u : ThreadRef) (b : ThreadId) (s s' : System (Faulty Machine)) : Prop :=
  s.Bystander u b → Overlooks u b s s'

/-- What happens in the thread `t`, if it has another number, is no affair of the thread. -/
def Beside (t u : ThreadRef) (b : ThreadId) (s s' : System (Faulty Machine)) : Prop :=
  (s.thread t).id ≠ b → Aloof u b s s'

section

variable {t u : ThreadRef} {b : ThreadId} {s s₁ s' : System (Faulty Machine)}

theorem Overlooks.refl (hs : s.Bystander u b) : Overlooks u b s s where
  thread := rfl
  frames _ _ := rfl
  held := rfl
  listed h := h
  suspended := rfl
  told := ⟨[], (List.append_nil _).symm, fun _ h => (List.not_mem_nil h).elim⟩
  bystander := hs
  ids h := h
  owners h := h
  installed := rfl
  policies _ := rfl
  failures := List.prefix_refl _

theorem Overlooks.trans (h : Overlooks u b s s₁) (h' : Overlooks u b s₁ s') : Overlooks u b s s' where
  thread := h'.thread.trans h.thread
  frames f hf := (h'.frames f (h.thread.symm ▸ hf)).trans (h.frames f hf)
  held := h'.held.trans h.held
  listed hu := h'.listed (h.listed hu)
  suspended := h'.suspended.trans h.suspended
  told := by
    obtain ⟨es, published, others⟩ := h.told
    obtain ⟨es', published', others'⟩ := h'.told
    refine ⟨es ++ es', ?_, fun e he => (List.mem_append.mp he).elim (others e) (others' e)⟩
    rw [published', published, List.append_assoc]
  bystander := h'.bystander
  ids ht := h'.ids (h.ids ht)
  owners hr := h.owners (h'.owners hr)
  installed := h'.installed.trans h.installed
  policies x := (h'.policies x).trans (h.policies x)
  failures := h.failures.trans h'.failures

instance : IsPreorder (System (Faulty Machine)) (Aloof u b) where
  refl _ := Overlooks.refl
  trans _ _ _ h h' hs := (h hs).trans (h' (h hs).bystander)

instance : IsPreorder (System (Faulty Machine)) (Beside t u b) where
  refl _ _ := Overlooks.refl
  trans _ _ _ h h' ht hs := (h ht hs).trans (h' ((h ht hs).ids ht) (h ht hs).bystander)

theorem Aloof.beside (h : Aloof u b s s') : Beside t u b s s' := fun _ => h

namespace Aloof

/-- Tasks, counters and settings are nothing to a bystander. -/
theorem of_sight (h : s'.core.sight = s.core.sight) : Aloof u b s s' := fun hs => by
  have threads : s'.threads = s.threads := congrArg Core.threads h
  have frames : s'.frames = s.frames := congrArg Core.frames h
  have bus : s'.bus = s.bus := congrArg Core.bus h
  have session : s'.session = s.session := congrArg Core.session h
  have registry : s'.registry = s.registry := congrArg Core.registry h
  have owners : s'.stepOwners = s.stepOwners := congrArg Core.stepOwners h
  have breakpoints : s'.breakpoints = s.breakpoints := congrArg Core.breakpoints h
  have same (v : ThreadRef) : s'.thread v = s.thread v := System.thread_congr threads v
  exact
    { thread := same u
      frames := fun f _ => by rw [frames]
      held := by rw [session]
      listed := fun hu => registry ▸ hu
      suspended := congrArg Core.suspended h
      told := ⟨[], by rw [bus, List.append_nil], fun _ he => (List.not_mem_nil he).elim⟩
      bystander := hs.carry threads frames (bus ▸ hs.unspoken)
      ids := fun {v} hv => same v ▸ hv
      owners := fun hr => owners ▸ hr
      installed := congrArg Core.installed h
      policies := fun x => by rw [System.breakpoint, System.breakpoint, breakpoints]
      failures := session ▸ List.prefix_refl _ }

theorem core (h : s'.core = s.core) : Aloof u b s s' := of_sight (congrArg Core.sight h)

/-- What is nothing to a bystander is left out. -/
theorem aside (h : Aloof u b s s₁) (hs : s'.core.sight = s₁.core.sight) : Aloof u b s s' :=
  trans_of (Aloof u b) h (of_sight hs)

theorem wake (h : Aloof u b s s₁) (task : TaskId) : Aloof u b s (s₁.wake task) :=
  trans_of (Aloof u b) h (core (core_wake s₁ task))

theorem called {m : Faulty Machine} (h : s.session.Keeps b m) : Aloof u b s { s with session := m } := fun hs =>
  { Overlooks.refl hs with
    held := h.inner
    failures := h.failures
    bystander := hs.carry (rfl) (rfl) hs.unspoken }

theorem fire {source : Element} (a : Announcement) (h : source ≠ .thread b) : Aloof u b s (s.fire source a) :=
  fun hs =>
    { Overlooks.refl hs with
      told := ⟨[a.event source], Bus.published_fire _ _, fun e he => by
        rw [List.mem_singleton.mp he]
        cases a <;> exact h⟩
      bystander := hs.carry (rfl) (rfl) hs.unspoken }

theorem queue {source : Element} (a : Announcement) (h : source ≠ .thread b) : Aloof u b s (s.queue source a) :=
  fun hs =>
    { Overlooks.refl hs with
      bystander := hs.carry (rfl) (rfl) fun e he => by
        rcases List.mem_append.mp he with he | he
        · exact hs.unspoken e he
        · rw [List.mem_singleton.mp he]
          cases a <;> exact h }

theorem flush (s : System (Faulty Machine)) : Aloof u b s s.flush := fun hs =>
  { Overlooks.refl hs with
    told := ⟨s.bus.queued, Bus.published_flush _, hs.unspoken⟩
    bystander := hs.carry (rfl) (rfl) fun e he => by
      rw [System.flush, Bus.queued_flush] at he
      exact (List.not_mem_nil he).elim }

theorem ownersKept {owners : Table RequestId ThreadId}
    (h : ∀ r, (r, b) ∈ owners.entries → (r, b) ∈ s.stepOwners.entries) :
    Aloof u b s { s with stepOwners := owners } := fun hs =>
  { Overlooks.refl hs with
    owners := fun {r} => h r
    bystander := hs.carry (rfl) (rfl) hs.unspoken }

theorem enlist {th : Thread} (h : th.id ≠ b) (fresh : th.frames = []) : Aloof u b s (s.enlist th) := fun hs => by
  have old : (s.enlist th).thread u = s.thread u := by rw [thread_enlist, if_neg (Nat.ne_of_lt hs.inRange)]
  exact
    { Overlooks.refl hs with
      thread := old
      listed := fun hu => List.mem_append_left _ hu
      told := ⟨_, Bus.published_fire _ _, fun e he => by
        rw [List.mem_singleton.mp he]
        exact fun same => h (Element.thread.inj same)⟩
      bystander :=
        { id := (congrArg Thread.id old).trans hs.id
          inRange := Nat.lt_of_lt_of_le hs.inRange (by simp [System.enlist, System.fire])
          tidy := hs.tidy.carry (rfl) fun v => by
            rw [thread_enlist]
            split
            · exact .inr fresh
            · exact .inl (rfl)
          unspoken := hs.unspoken }
      ids := fun {v} hv => by
        rw [thread_enlist]
        split
        · exact h
        · exact hv }

end Aloof

namespace Beside

theorem of_sight (h : s'.core.sight = s.core.sight) : Beside t u b s s' := Aloof.beside (.of_sight h)

theorem aside (h : Beside t u b s s₁) (hs : s'.core.sight = s₁.core.sight) : Beside t u b s s' :=
  trans_of (Beside t u b) h (of_sight hs)

/-- An update of the thread that leaves its frames alone or gives them up. -/
theorem mapThread (s : System (Faulty Machine)) {f : Thread → Thread} (hid : ∀ th, (f th).id = th.id)
    (cache : ∀ th, (f th).cache = th.cache ∨ (f th).frames = []) : Beside t u b s (s.mapThread t f) :=
  fun ht hs => by
    have hne : t ≠ u := by
      rintro rfl
      exact ht hs.id
    have same : (s.mapThread t f).thread u = s.thread u := System.thread_mapThread_of_ne s hne f
    exact
      { Overlooks.refl hs with
        thread := same
        bystander :=
          { id := (congrArg Thread.id same).trans hs.id
            inRange := by
              rw [System.size_mapThread]
              exact hs.inRange
            tidy := hs.tidy.carry rfl fun v => by
              rw [System.thread_mapThread]
              split
              · exact cache _
              · exact .inl rfl
            unspoken := hs.unspoken }
        ids := fun hv => by rwa [System.id_mapThread hid] }

/-- An update of the thread that is no concern of its frames. -/
theorem mapAside (s : System (Faulty Machine)) {f : Thread → Thread}
    (h : ∀ th, ((f th).id, (f th).cache) = (th.id, th.cache)) : Beside t u b s (s.mapThread t f) :=
  mapThread s (fun th => congrArg Prod.fst (h th)) fun th => .inl (congrArg Prod.snd (h th))

theorem stopRunning (s : System (Faulty Machine)) : Beside t u b s (s.stopRunning t) := mapAside s fun _ => rfl

theorem setStepping (s : System (Faulty Machine)) (st : Option Stepping) :
    Beside t u b s (s.mapThread t (·.setStepping st)) := mapAside s fun _ => rfl

theorem preserveFrames (s : System (Faulty Machine)) : Beside t u b s (s.preserveFrames t) := fun ht hs => by
  have hne : u ≠ t := by
    rintro rfl
    exact ht hs.id
  have others (v : ThreadRef) (hv : v ≠ t) : (s.preserveFrames t).thread v = s.thread v :=
    System.thread_mapThread_of_ne s hv.symm Thread.markStale
  exact
    { Overlooks.refl hs with
      thread := others u hne
      frames := fun f hf => by
        have unknown : f ∉ (s.thread t).frames := fun hft => hne (hs.tidy.apart hf hft)
        rw [System.preserveFrames, FrameStore.get?_unbindAll, if_neg unknown]
      bystander :=
        { id := (congrArg Thread.id (others u hne)).trans hs.id
          inRange := Nat.lt_of_lt_of_eq hs.inRange (System.size_mapThread s t Thread.markStale).symm
          tidy := hs.tidy.unbinds rfl (System.mapThread_keeps (g := Thread.frames) (fun _ => by rfl) s t t) others
          unspoken := hs.unspoken }
      ids := fun {v} hv => by
        rwa [show ((s.preserveFrames t).thread v).id = (s.thread v).id from
          System.id_mapThread (fun _ => by rfl) s t v] }

theorem startRunning (s : System (Faulty Machine)) : Beside t u b s (s.startRunning t) :=
  trans_of (Beside t u b) (mapAside s (f := (·.setRunning true)) fun _ => rfl) (preserveFrames _)

theorem fire (s : System (Faulty Machine)) (a : Announcement) : Beside t u b s (s.fire (s.element t) a) :=
  fun ht => Aloof.fire a fun same => ht (Element.thread.inj same)

theorem queue (s : System (Faulty Machine)) (a : Announcement) : Beside t u b s (s.queue (s.element t) a) :=
  fun ht => Aloof.queue a fun same => ht (Element.thread.inj same)

theorem bury (s : System (Faulty Machine)) : Beside t u b s (s.bury t) := by
  rw [System.bury]
  split
  · exact refl_of (Beside t u b) s
  · intro ht
    have buried := mapThread (t := t) (u := u) (b := b) s (f := Thread.bury) (fun _ => rfl) (fun _ => .inr rfl) ht
    exact trans_of (Aloof u b) buried (Aloof.fire _ fun same => ht (Element.thread.inj same))

theorem dealing {m : Faulty Machine} (h : Dealing (s.thread t).id s.session m) :
    Beside t u b s { s with session := m } := fun ht => Aloof.called (Faulty.dealing_keeps ht h)

/-- A look at the thread's stack binds frames of its own or new ones. -/
theorem updateFrames (hs : (s.thread t).isSuspended) (remote : List RemoteFrame) :
    Beside t u b s (s.updateFrames t remote) := fun ht hb => by
  have hne : u ≠ t := by
    rintro rfl
    exact ht hb.id
  rcases s.updateFrames_eq t remote with ⟨-, -, same⟩ | eq
  · rw [same]
    exact Overlooks.refl hb
  rcases hb.tidy.looked (System.lt_size_of_suspended hs) remote with ⟨-, -, same⟩ | looked
  · rw [same]
    exact Overlooks.refl hb
  have size : (s.updateFrames t remote).threads.size = s.threads.size := by rw [eq, System.size_mapThread]
  rw [eq] at looked size ⊢
  exact
    { Overlooks.refl hb with
      thread := looked.others hne
      frames := fun f hf => hb.tidy.unseen looked hne hf
      bystander :=
        { id := (congrArg Thread.id (looked.others hne)).trans hb.id
          inRange := size ▸ hb.inRange
          tidy := hb.tidy.looks looked
          unspoken := hb.unspoken }
      ids := fun hv => by
        rw [System.id_mapThread fun _ => by rfl]
        exact hv }

end Beside

end

end Debugger
