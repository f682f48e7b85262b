import Debugger.Proofs.Bookkeeping
import Debugger.Proofs.FrameMerge

/-! # The frames that are known of threads

The frames that a thread knows are its own, and once they have to be looked up again they stand for
nothing.  As far as frames are concerned only five things ever happen: the known frames are left alone, a
thread is heard of, the frames of a thread are unbound before its stack changes, a stack is looked at, and
a pending step goes on.
-/

namespace Debugger

namespace FrameStore

variable (store : FrameStore) (hs : List FrameRef) (g : FrameRef)

@[simp] theorem size_unbindAll : (store.unbindAll hs).size = store.size := by
  induction hs generalizing store with
  | nil => rfl
  | cons h hs ih => exact (ih _).trans (Array.size_modify)

theorem get?_unbindAll :
    (store.unbindAll hs)[g]? = if g ∈ hs then store[g]?.map Frame.unbind else store[g]? := by
  induction hs generalizing store with
  | nil => rfl
  | cons h hs ih =>
    change (FrameStore.unbindAll (store.modify h Frame.unbind) hs)[g]? = _
    rw [ih, Array.getElem?_modify]
    by_cases hg : h = g
    · subst hg
      simp only [if_true, Option.map_map, List.mem_cons_self]
      split <;> rfl
    · simp only [hg, if_false, List.mem_cons, Ne.symm hg, false_or]

@[simp] theorem remote_unbindAll :
    (store.unbindAll hs).remote g = if g ∈ hs then none else store.remote g := by
  rw [remote, get?_unbindAll]
  split
  · rw [Option.bind_map]
    cases store[g]? <;> rfl
  · rfl

@[simp] theorem lastMethod_unbindAll : (store.unbindAll hs).lastMethod g = store.lastMethod g := by
  rw [lastMethod, get?_unbindAll]
  split
  · rw [Option.bind_map]
    rfl
  · rfl

end FrameStore

/-- The known frames of a thread, and whether they have to be looked up again. -/
def Thread.cache (th : Thread) : List FrameRef × Bool := (th.frames, th.refresh)

theorem Thread.frames_of_cache {th th' : Thread} (h : th'.cache = th.cache) : th'.frames = th.frames :=
  congrArg Prod.fst h

theorem Thread.refresh_of_cache {th th' : Thread} (h : th'.cache = th.cache) :
    th'.refresh = th.refresh :=
  congrArg Prod.snd h

/-- The known frames of a thread stay, and it runs no more than before, or it dies with them. -/
inductive Thread.Rests (th th' : Thread) : Prop
  | stays (cache : th'.cache = th.cache) (suspended : th.isSuspended → th'.isSuspended)
    (dead : th.terminated → th'.terminated)
  | dies (frames : th'.frames = []) (refresh : th'.refresh = true) (dead : th'.terminated)

theorem Thread.Rests.rfl {th : Thread} : th.Rests th := .stays (Eq.refl _) (fun h => h) fun h => h

theorem Thread.Rests.trans {a b c : Thread} (h : a.Rests b) (h' : b.Rests c) : a.Rests c := by
  cases h' with
  | dies frames refresh dead => exact .dies frames refresh dead
  | stays cache suspended dead =>
    obtain ⟨frames, refresh⟩ := Prod.mk.inj cache
    cases h with
    | stays cache' suspended' dead' =>
      exact .stays (cache.trans cache') (suspended ∘ suspended') (dead ∘ dead')
    | dies frames' refresh' dead' => exact .dies (frames.trans frames') (refresh.trans refresh') (dead dead')

theorem Thread.rests_setRunning (th : Thread) : th.Rests (th.setRunning false) :=
  .stays rfl (fun h => by
    simp only [isSuspended, Bool.and_eq_true] at h ⊢
    exact ⟨rfl, h.2⟩) fun h => h

theorem Thread.rests_bury (th : Thread) : th.Rests th.bury := .dies rfl rfl rfl

variable {σ : Type}

/-- The known frames of every thread are left alone, or given up with the thread. -/
structure Leaves (s s' : System σ) : Prop where
  frames : s'.frames = s.frames
  threads (u : ThreadRef) : (s.thread u).Rests (s'.thread u)

namespace Leaves

variable {a b c s s' : System σ}

theorem trans (h : Leaves a b) (h' : Leaves b c) : Leaves a c :=
  ⟨h'.frames.trans h.frames, fun u => (h.threads u).trans (h'.threads u)⟩

theorem of_eq (threads : s'.threads = s.threads) (frames : s'.frames = s.frames) : Leaves s s' where
  frames := frames
  threads u := by
    rw [System.thread_congr threads]
    exact .rfl

instance : IsPreorder (System σ) Leaves where
  refl _ := of_eq rfl rfl
  trans _ _ _ h h' := h.trans h'

theorem mapThread (s : System σ) (t : ThreadRef) {f : Thread → Thread} (h : ∀ th : Thread, th.Rests (f th)) :
    Leaves s (s.mapThread t f) where
  frames := rfl
  threads u := by
    rw [System.thread_mapThread]
    split
    · exact h _
    · exact .rfl

/-- An update of a thread that does not concern its frames. -/
theorem mapAside (s : System σ) (t : ThreadRef) {f : Thread → Thread}
    (h : ∀ th : Thread, ((f th).cache, (f th).running, (f th).terminated) =
      (th.cache, th.running, th.terminated)) : Leaves s (s.mapThread t f) :=
  mapThread s t fun th => by
    obtain ⟨cache, h⟩ := Prod.mk.inj (h th)
    obtain ⟨running, terminated⟩ := Prod.mk.inj h
    refine .stays cache (fun hs => ?_) fun hd => terminated.trans hd
    rwa [Thread.isSuspended, running, terminated]

theorem stopRunning (s : System σ) (t : ThreadRef) : Leaves s (s.stopRunning t) :=
  mapThread s t Thread.rests_setRunning

theorem bury (s : System σ) (t : ThreadRef) : Leaves s (s.bury t) :=
  System.bury_within (mapThread s t Thread.rests_bury) fun _ _ => .of_eq rfl rfl

theorem suspendListed (s : System σ) : Leaves s s.suspendListed :=
  System.suspendListed_within (fun _ => .of_eq rfl rfl) stopRunning s

theorem arrive (s : System σ) (t : ThreadRef) (b : BreakpointRef) : Leaves s (s.arrive t b) :=
  mapAside s t fun _ => rfl

theorem stopAt (s : System σ) (t : ThreadRef) (b : BreakpointRef) (all : Bool) :
    Leaves s (s.stopAt t b all) := System.stopAt_within (arrive s t b) suspendListed (stopRunning · t) all

theorem uninstall (s : System σ) (b : BreakpointRef) : Leaves s (s.uninstall b) := by
  have left (s : System σ) (t : ThreadRef) : Leaves s (s.leaveBreakpoint b t) := mapAside s t fun _ => rfl
  exact System.uninstall_within (fun _ _ => .of_eq rfl rfl) left s

theorem died (s : System σ) (id : ThreadId) : Leaves s (s.threadDied id) :=
  System.threadDied_within (fun _ _ => .of_eq rfl rfl) (fun _ _ => .of_eq rfl rfl) bury s id

theorem disconnect (s : System σ) : Leaves s s.disconnect :=
  System.disconnect_within (fun _ => .of_eq rfl rfl) bury (fun _ => .of_eq rfl rfl) s

end Leaves

/-! ## What can happen to frames -/

variable [Session σ]

/-- The changes by what they do to the known frames. -/
inductive FrameChange : System σ → System σ → Prop
  | leaves {s s' : System σ} (h : Leaves s s') : FrameChange s s'
  | enlists {s : System σ} {th : Thread} (fresh : th.IsNew) : FrameChange s (s.enlist th)
  /-- The stack of a thread may change from now on. -/
  | unbinds {s s' : System σ} {t : ThreadRef}
    (frames : s'.frames = s.frames.unbindAll (s.thread t).frames)
    (known : (s'.thread t).frames = (s.thread t).frames) (stale : (s'.thread t).refresh = true)
    (others : ∀ u, u ≠ t → s'.thread u = s.thread u) : FrameChange s s'
  | looks {s : System σ} {t : ThreadRef} {remote : List RemoteFrame} {session : σ}
    (hs : (s.thread t).isSuspended)
    (h : Session.frames (s.thread t).id s.session = .ok remote session) :
    FrameChange s ({ s with session }.updateFrames t remote)
  | goesOn {s : System σ} {t : ThreadRef} {old : Stepping} (new : Stepping) (session : σ)
    (hp : (s.thread t).stepping = some old) :
    FrameChange s ((s.leaveRequest t old.request).renewStep t new session)

variable {s s' : System σ}

/-- The frames of a thread are unbound after some update that is no concern of frames. -/
private theorem preserve_unbinds {t : ThreadRef} (marked : System σ) (frames : marked.frames = s.frames)
    (known : (marked.thread t).frames = (s.thread t).frames)
    (others : ∀ u, u ≠ t → marked.thread u = s.thread u)
    (threads : s'.threads = (marked.preserveFrames t).threads)
    (stored : s'.frames = (marked.preserveFrames t).frames) : FrameChange s s' := by
  refine .unbinds (t := t) ?_ ?_ ?_ fun u hu => ?_
  · rw [stored, ← known, ← frames]
    rfl
  · rw [System.thread_congr threads, ← known]
    exact System.mapThread_keeps (g := Thread.frames) (fun _ => by rfl) marked t t
  · rw [System.thread_congr threads]
    change ((marked.mapThread t Thread.markStale).thread t).refresh = true
    rw [System.thread_mapThread]
    split
    · rfl
    · rename_i hl
      rw [System.thread_of_size_le (Nat.le_of_not_lt fun h => hl ⟨rfl, h⟩)]
      rfl
  · rw [System.thread_congr threads]
    exact (System.thread_mapThread_of_ne marked hu.symm Thread.markStale).trans (others u hu)

/-- A thread starts to run after some update of it that is no concern of its frames. -/
private theorem start_unbinds {t : ThreadRef} (held : System σ) (frames : held.frames = s.frames)
    (same : held.threads = s.threads) {f : Thread → Thread} (h : ∀ th : Thread, (f th).frames = th.frames)
    (threads : s'.threads = ((held.mapThread t f).startRunning t).threads)
    (stored : s'.frames = ((held.mapThread t f).startRunning t).frames) : FrameChange s s' := by
  refine preserve_unbinds ((held.mapThread t f).mapThread t (·.setRunning true)) frames ?_
    (fun u hu => ?_) threads stored
  · rw [System.mapThread_keeps (g := Thread.frames) (fun _ => by rfl),
      System.mapThread_keeps (g := Thread.frames) h, System.thread_congr same]
  · rw [System.thread_mapThread_of_ne _ hu.symm, System.thread_mapThread_of_ne _ hu.symm,
      System.thread_congr same]

theorem Change.frameChange (h : Change s s') : FrameChange s s' := by
  have same {s' : System σ} (threads : s'.threads = s.threads) (frames : s'.frames = s.frames) :
      FrameChange s s' := .leaves (.of_eq threads frames)
  cases h with
  | aside h => exact same (congrArg Core.threads h) (congrArg Core.frames h)
  | refresh hs h => exact .looks hs h
  | preserve t => exact preserve_unbinds s rfl rfl (fun _ _ => rfl) rfl rfl
  | pop t frame => exact preserve_unbinds (t := t) s rfl rfl (fun _ _ => rfl) rfl rfl
  | run t =>
    exact preserve_unbinds (s.mapThread t (·.setRunning true)) rfl
      (System.mapThread_keeps (g := Thread.frames) (fun _ => by rfl) s t t)
      (fun _ hu => System.thread_mapThread_of_ne s hu.symm _) rfl rfl
  | stop t => exact .leaves (.stopRunning s t)
  | bury t => exact .leaves (.bury s t)
  | groupName t name => exact .leaves (.mapAside s t fun _ => rfl)
  | @beginInvocation t call alive hi hs =>
    have threads (s : System σ) : s.liftTimeout.threads = s.threads :=
      (congrArg System.threads (System.liftTimeout_rest s s.session) :)
    have frames (s : System σ) : s.liftTimeout.frames = s.frames :=
      (congrArg System.frames (System.liftTimeout_rest s s.session) :)
    exact start_unbinds s rfl rfl (f := fun th => { th with invoking := true }) (fun _ => rfl) (threads _) (frames _)
  | @endInvocation n task =>
    let t := task.thread
    have rest := System.restoreTimeout_rest
      ((s.stopRunning t).mapThread t fun th => { th with invoking := false }) s.session
    have marked : Leaves (s.stopRunning t)
        ((s.stopRunning t).mapThread t fun th => { th with invoking := false }) :=
      .mapAside _ t fun _ => rfl
    exact .leaves (((Leaves.stopRunning s t).trans marked).trans
      (.of_eq (congrArg System.threads rest :) (congrArg System.frames rest :)))
  | stopAt t b all => exact .leaves (.stopAt s t b all)
  | uninstall b => exact .leaves (.uninstall s b)
  | enlist new fresh => exact .enlists fresh
  | died id => exact .leaves (.died s id)
  | disconnect => exact .leaves (.disconnect s)
  | release =>
    unfold System.release
    dsimp only
    split
    · exact same rfl rfl
    · exact same rfl rfl
  | renewStep hp hk hw h => exact .goesOn _ _ hp
  | abort t =>
    cases hp : (s.thread t).stepping with
    | none =>
      rw [abortStep_none hp]
      exact same rfl rfl
    | some st =>
      rw [abortStep_some hp, deleteStepRequest_state]
      exact .leaves ((Leaves.mapAside s t (f := (·.setStepping none)) fun _ => rfl).trans (.of_eq rfl rfl))
  | _ => exact same rfl rfl

theorem Evaluating.frameChange (h : Evaluating s s') : FrameChange s s' := by
  cases h with
  | tasks => exact .leaves (.of_eq rfl rfl)
  | mark t e => exact .leaves (.mapAside s t fun _ => rfl)

theorem Watching.frameChange (h : Watching s s') : FrameChange s s' := by
  cases h with
  | aside h => exact .leaves (.of_eq (congrArg Core.threads h) (congrArg Core.frames h))
  | suspending t b => exact .leaves (.mapAside s t fun _ => rfl)

omit [Session σ] in
/-- A thread that runs on and is stopped at once is left alone. -/
private theorem leaves_runStop (s : System σ) (t : ThreadRef) :
    Leaves s (((s.mapThread t (·.setRunning true)).stopRunning t).mapThread t (·.setStepping none)) where
  frames := rfl
  threads u := by
    simp only [System.stopRunning, System.thread_mapThread, System.size_mapThread]
    split
    · exact .stays rfl (fun h => by
        simp only [Thread.isSuspended, Bool.and_eq_true] at h ⊢
        exact ⟨rfl, h.2⟩) fun h => h
    · exact .rfl

theorem StepChange.frameChange (h : StepChange s s') : FrameChange s s' := by
  cases h with
  | landing h =>
    cases h with
    | change h => exact h.frameChange
    | finish t h =>
      cases h with
      | @finish stepping hp =>
        have stopped : Leaves s ((s.stopRunning t).mapThread t (·.setStepping none)) :=
          (Leaves.stopRunning s t).trans (.mapAside _ t fun _ => rfl)
        rw [stepEnd_some, deleteStepRequest_state]
        exact .leaves (stopped.trans (.of_eq rfl rfl))
      | giveUp hp h =>
        rw [stepEnd_none, System.leaveRequest, deleteStepRequest_state]
        exact .leaves ((leaves_runStop s t).trans (.of_eq rfl rfl))
  | start h =>
    cases h with
    | @enter t stepping _ session alive hn hs' hf hw h =>
      have threads : (s.enterStep t stepping session).threads =
        (({ s with session }.mapThread t (·.setStepping (some stepping))).startRunning t).threads := rfl
      have frames : (s.enterStep t stepping session).frames =
        (({ s with session }.mapThread t (·.setStepping (some stepping))).startRunning t).frames := rfl
      exact start_unbinds { s with session } rfl rfl (f := (·.setStepping (some stepping))) (fun _ => rfl) threads
        frames
  | evaluating h => exact h.frameChange
  | watching h => exact h.frameChange

section

variable {u v : ThreadRef} {request : RequestId} {new : Stepping} {session : σ}

theorem frames_goesOn : ((s.leaveRequest u request).renewStep u new session).frames = s.frames := by
  rw [System.leaveRequest, deleteStepRequest_state]
  rfl

theorem thread_goesOn_of_ne (hv : v ≠ u) :
    ((s.leaveRequest u request).renewStep u new session).thread v = s.thread v := by
  rw [System.leaveRequest, deleteStepRequest_state]
  exact (System.thread_mapThread_of_ne _ hv.symm _).trans (System.thread_mapThread_of_ne _ hv.symm _)

theorem cache_goesOn (v : ThreadRef) :
    (((s.leaveRequest u request).renewStep u new session).thread v).cache = (s.thread v).cache := by
  rw [System.leaveRequest, deleteStepRequest_state]
  exact (System.mapThread_keeps (g := Thread.cache) (fun _ => by rfl) _ u v).trans
    (System.mapThread_keeps (g := Thread.cache) (fun _ => by rfl) _ u v)

theorem running_goesOn (hu : u < s.threads.size) :
    (((s.leaveRequest u request).renewStep u new session).thread u).running := by
  rw [System.leaveRequest, deleteStepRequest_state]
  refine (System.mapThread_keeps (g := Thread.running) (fun _ => by rfl) _ u u).trans ?_
  exact congrArg Thread.running (System.thread_mapThread_self hu (·.setRunning true))

end

/-! ## The known frames are in order -/

/-- Each known frame exists and is known at one place of one thread, and those that have to be looked up
again stand for nothing.  A frame that stands for something last ran its method. -/
structure System.Tidy (s : System σ) : Prop where
  inRange {t : ThreadRef} {h : FrameRef} (hh : h ∈ (s.thread t).frames) : h < s.frames.size
  apart {t u : ThreadRef} {h : FrameRef} (ht : h ∈ (s.thread t).frames) (hu : h ∈ (s.thread u).frames) :
    t = u
  nodup (t : ThreadRef) : (s.thread t).frames.Nodup
  stale {t : ThreadRef} {h : FrameRef} (hr : (s.thread t).refresh) (hh : h ∈ (s.thread t).frames) :
    s.frames.remote h = none
  coherent : s.frames.Coherent

omit [Session σ] in
/-- Only a thread that exists is suspended. -/
theorem System.lt_size_of_suspended {t : ThreadRef} (hs : (s.thread t).isSuspended) :
    t < s.threads.size := by
  refine Nat.lt_of_not_le fun hle => ?_
  rw [thread_of_size_le hle] at hs
  cases hs

omit [Session σ] in
/-- A look either finds no stack where none is known, or gives the thread the merged frames. -/
theorem System.updateFrames_eq (s : System σ) (t : ThreadRef) (remote : List RemoteFrame) :
    (remote = [] ∧ (s.thread t).frames = [] ∧ s.updateFrames t remote = s) ∨
    s.updateFrames t remote =
      { s with frames := (s.frames.merge (s.thread t).id (s.thread t).frames remote).2 }.mapThread t
        fun th => { th with
          frames := (s.frames.merge (s.thread t).id (s.thread t).frames remote).1, refresh := false } := by
  cases hf : (s.thread t).frames with
  | nil =>
    cases remote with
    | nil => exact .inl ⟨rfl, rfl, by simp only [updateFrames, hf]⟩
    | cons r rs =>
      refine .inr ?_
      simp only [updateFrames, hf, FrameStore.bindFresh_eq]
  | cons h hs =>
    refine .inr ?_
    simp only [updateFrames, hf]

/-- What a look at a stack makes of a thread that exists. -/
structure System.Looked (s s' : System σ) (t : ThreadRef) (remote : List RemoteFrame) : Prop where
  fits : FrameStore.Fits s.frames s'.frames (s.thread t).frames (s'.thread t).frames remote
  refresh : (s'.thread t).refresh = false
  others {u : ThreadRef} (hu : u ≠ t) : s'.thread u = s.thread u

namespace System.Tidy

omit [Session σ]

variable {t : ThreadRef}

theorem looked (hs : s.Tidy) (ht : t < s.threads.size) (remote : List RemoteFrame) :
    (remote = [] ∧ (s.thread t).frames = [] ∧ s.updateFrames t remote = s) ∨
    s.Looked (s.updateFrames t remote) t remote := by
  refine (s.updateFrames_eq t remote).imp_right fun eq => ?_
  have fits := FrameStore.merge_fits (s.thread t).id remote (hs.nodup t) fun h hh => hs.inRange hh
  rw [eq]
  generalize s.frames.merge (s.thread t).id (s.thread t).frames remote = merged at fits
  have thread := thread_mapThread_self (s := { s with frames := merged.2 }) ht
    fun th => { th with frames := merged.1, refresh := false }
  refine ⟨?_, by rw [thread], fun hu => thread_mapThread_of_ne _ hu.symm _⟩
  rw [thread]
  exact fits

/-- Frames that are left alone, or given up, stay in order. -/
theorem carry (hs : s.Tidy) (frames : s'.frames = s.frames)
    (caches : ∀ u, (s'.thread u).cache = (s.thread u).cache ∨ (s'.thread u).frames = []) : s'.Tidy := by
  have known {u : ThreadRef} {h : FrameRef} (hh : h ∈ (s'.thread u).frames) :
      (s'.thread u).refresh = (s.thread u).refresh ∧ h ∈ (s.thread u).frames := by
    rcases caches u with cache | gone
    · rw [Thread.frames_of_cache cache] at hh
      exact ⟨Thread.refresh_of_cache cache, hh⟩
    · rw [gone] at hh
      cases hh
  refine ⟨fun hh => frames ▸ hs.inRange (known hh).2, fun ht hu => hs.apart (known ht).2 (known hu).2,
    fun u => ?_, fun hr hh => ?_, frames ▸ hs.coherent⟩
  · rcases caches u with cache | gone
    · rw [Thread.frames_of_cache cache]
      exact hs.nodup u
    · rw [gone]
      exact List.nodup_nil
  · obtain ⟨refresh, hh⟩ := known hh
    rw [frames]
    exact hs.stale (refresh ▸ hr) hh

theorem leaves (hs : s.Tidy) (h : Leaves s s') : s'.Tidy := by
  refine hs.carry h.frames fun u => ?_
  cases h.threads u with
  | stays cache => exact .inl cache
  | dies frames => exact .inr frames

/-- The frames of one thread are unbound. -/
theorem unbinds (hs : s.Tidy) (frames : s'.frames = s.frames.unbindAll (s.thread t).frames)
    (kept : (s'.thread t).frames = (s.thread t).frames)
    (others : ∀ u, u ≠ t → s'.thread u = s.thread u) : s'.Tidy := by
  have known (u : ThreadRef) : (s'.thread u).frames = (s.thread u).frames := by
    by_cases hu : u = t
    · exact hu ▸ kept
    · rw [others u hu]
  refine ⟨fun {u h} hh => ?_, fun {u v h} hu hv => ?_, fun u => known u ▸ hs.nodup u,
    fun {u h} hr hh => ?_, fun g r hb => ?_⟩
  · rw [known] at hh
    rw [frames, FrameStore.size_unbindAll]
    exact hs.inRange hh
  · rw [known] at hu hv
    exact hs.apart hu hv
  · rw [known] at hh
    rw [frames, FrameStore.remote_unbindAll]
    by_cases hu : u = t
    · rw [if_pos (hu ▸ hh)]
    · rw [others u hu] at hr
      rw [hs.stale hr hh, ite_self]
  · rw [frames, FrameStore.remote_unbindAll] at hb
    rw [frames, FrameStore.lastMethod_unbindAll]
    split at hb
    · cases hb
    · exact hs.coherent g r hb

/-- A frame of another thread is none that the look has bound. -/
theorem unseen (hs : s.Tidy) {remote : List RemoteFrame} (h : s.Looked s' t remote) {u : ThreadRef}
    {g : FrameRef} (hu : u ≠ t) (hg : g ∈ (s.thread u).frames) : s'.frames[g]? = s.frames[g]? := by
  refine h.fits.others (hs.inRange hg) fun ht => ?_
  rcases h.fits.origin ht with ht | hl
  · exact hu (hs.apart hg ht)
  · exact Nat.not_lt_of_le hl (hs.inRange hg)

theorem looks (hs : s.Tidy) {remote : List RemoteFrame} (h : s.Looked s' t remote) : s'.Tidy := by
  have known {u : ThreadRef} {g : FrameRef} (hg : g ∈ (s'.thread u).frames) :
      g ∈ (s.thread u).frames ∨ u = t ∧ s.frames.size ≤ g := by
    by_cases hu : u = t
    · subst hu
      exact (h.fits.origin hg).imp_right fun hl => ⟨rfl, hl⟩
    · rw [h.others hu] at hg
      exact .inl hg
  refine ⟨fun {u g} hg => ?_, fun {t' u g} ht hu => ?_, fun u => ?_, fun {u g} hr hg => ?_,
    h.fits.coherent hs.coherent⟩
  · rcases known hg with hk | ⟨rfl, -⟩
    · exact Nat.lt_of_lt_of_le (hs.inRange hk) h.fits.size
    · exact h.fits.inRange hg
  · rcases known ht with ht | ⟨rfl, hl⟩
    · rcases known hu with hu | ⟨rfl, hl⟩
      · exact hs.apart ht hu
      · exact (Nat.not_lt_of_le hl (hs.inRange ht)).elim
    · rcases known hu with hu | ⟨rfl, -⟩
      · exact (Nat.not_lt_of_le hl (hs.inRange hu)).elim
      · rfl
  · by_cases hu : u = t
    · subst hu
      exact h.fits.nodup
    · rw [h.others hu]
      exact hs.nodup u
  · by_cases hu : u = t
    · subst hu
      rw [h.refresh] at hr
      cases hr
    · rw [h.others hu] at hr hg
      rw [FrameStore.remote, hs.unseen h hu hg]
      exact hs.stale hr hg

end System.Tidy

theorem FrameChange.tidy (h : FrameChange s s') (hs : s.Tidy) : s'.Tidy := by
  cases h with
  | leaves h => exact hs.leaves h
  | enlists fresh =>
    refine hs.carry rfl fun u => ?_
    rw [thread_enlist]
    split
    · exact .inr fresh.frames
    · exact .inl rfl
  | unbinds frames known stale others => exact hs.unbinds frames known others
  | @looks t remote session suspended h =>
    have asked : { s with session }.Tidy := hs.carry rfl fun _ => .inl rfl
    rcases asked.looked (System.lt_size_of_suspended suspended) remote with ⟨-, -, same⟩ | looked
    · exact same.symm ▸ asked
    · exact asked.looks looked
  | goesOn new session hp => exact hs.carry frames_goesOn fun u => .inl (cache_goesOn u)

/-- A frame remembers its last method for good, unless it is bound anew for the same one. -/
theorem FrameChange.methods (h : FrameChange s s') (hs : s.Tidy) {f : FrameRef} (hf : f < s.frames.size) :
    f < s'.frames.size ∧ s'.frames.lastMethod f = s.frames.lastMethod f := by
  cases h with
  | leaves h => exact ⟨h.frames ▸ hf, by rw [h.frames]⟩
  | enlists fresh => exact ⟨hf, rfl⟩
  | unbinds frames =>
    rw [frames, FrameStore.size_unbindAll, FrameStore.lastMethod_unbindAll]
    exact ⟨hf, rfl⟩
  | @looks t remote session suspended h =>
    have asked : { s with session }.Tidy := hs.carry rfl fun _ => .inl rfl
    rcases asked.looked (System.lt_size_of_suspended suspended) remote with ⟨-, -, same⟩ | looked
    · rw [same]
      exact ⟨hf, rfl⟩
    · exact ⟨Nat.lt_of_lt_of_le hf looked.fits.size, looked.fits.methods hf⟩
  | @goesOn t old new session hp =>
    have frames : ((s.leaveRequest t old.request).renewStep t new session).frames = s.frames := frames_goesOn
    rw [frames]
    exact ⟨hf, rfl⟩

theorem tidy_invariant (w : Surroundings σ) : Invariant w System.Tidy where
  blank _ _ := ⟨fun h => (List.not_mem_nil h).elim, fun h => (List.not_mem_nil h).elim,
    fun _ => List.nodup_nil, fun _ h => (List.not_mem_nil h).elim, fun _ _ h => by cases h⟩
  change hc hs := hc.frameChange.tidy hs
  machine _ hs := hs.carry rfl fun _ => .inl rfl
  bus _ hs := hs.carry rfl fun _ => .inl rfl

theorem Occurs.tidy {w : Surroundings σ} (h : Occurs w s) : s.Tidy := (tidy_invariant w).occurs h

end Debugger
