import Debugger.Proofs.FrameCache
import Debugger.Proofs.MachineSurroundings

/-! # Who may still hold a valid frame

A client keeps the frames that it was given for as long as it likes.  Such a frame stands for something
only while its thread is suspended and knows it, unless one of three things happened meanwhile: the
thread died while its frames were known, a client had the stack read again although its frames were known
and another frame took the place, or a pending step went on although everything had been suspended.
-/

namespace Debugger

open Scenario

variable {σ : Type} [Session σ] {w : Surroundings σ} {s s' s₁ s₂ : System σ} {t : ThreadRef} {f : FrameRef}

/-- The frame is given to a client that asks for the thread's stack. -/
inductive HandsOut (t : ThreadRef) (f : FrameRef) (s s' : System σ) : Prop
  | known {frames : List FrameRef} (h : stackFrames t s = .ok frames s') (hf : f ∈ frames)
  | read {frames : List FrameRef} (h : newStackFrames t s = .ok frames s') (hf : f ∈ frames)
  | top (h : topFrame t s = .ok (some f) s')

/-- A frame that stands for something is left as it is although its place is given up. -/
inductive Lapse (t : ThreadRef) (f : FrameRef) : System σ → System σ → Prop
  /-- The thread dies while it is suspended. -/
  | died {s s' : System σ} (valid : (s.frames.remote f).isSome) (kept : s'.frames = s.frames)
    (hs : (s.thread t).isSuspended) (dead : (s'.thread t).terminated) : Lapse t f s s'
  /-- The stack is read again, and the frame is not among the known ones any more. -/
  | dropped {s : System σ} {session : σ} {remote : List RemoteFrame}
    (valid : (s.frames.remote f).isSome) (known : f ∈ (s.thread t).frames)
    (gone : f ∉ (({ s with session }.updateFrames t remote).thread t).frames) :
    Lapse t f s ({ s with session }.updateFrames t remote)
  /-- The pending step goes on while the thread is suspended. -/
  | wentOn {s : System σ} {old new : Stepping} {session : σ} (valid : (s.frames.remote f).isSome)
    (hs : (s.thread t).isSuspended) (hp : (s.thread t).stepping = some old) :
    Lapse t f s ((s.leaveRequest t old.request).renewStep t new session)

theorem HandsOut.of_answer (frames : List FrameRef) (h : (stackFrames t).run' s = some frames)
    (hf : f ∈ frames) : HandsOut t f s ((Operation.frames t).perform s) := by
  rw [Operation.perform]
  cases hs : stackFrames t s with
  | ok shown s' =>
    have answer : some shown = some frames := (run'_of_ok hs).symm.trans h
    rw [stateAfter_of_ok hs]
    exact .known hs (Option.some.inj answer ▸ hf)
  | error e s' =>
    cases (run'_of_error hs).symm.trans h

/-- The frame is the thread's own, and stands for something only if the suspended thread knows it. -/
structure System.Owns (s : System σ) (t : ThreadRef) (f : FrameRef) : Prop where
  inRange : f < s.frames.size
  own {u : ThreadRef} (hu : f ∈ (s.thread u).frames) : u = t
  current : (s.frames.remote f).isSome → (s.thread t).isSuspended ∧ f ∈ (s.thread t).frames

omit [Session σ] in
/-- What becomes of the thread decides, if no other thread comes by the frame. -/
theorem System.Owns.carry (ho : s.Owns t f) (size : s.frames.size ≤ s'.frames.size)
    (others : ∀ u, f ∈ (s'.thread u).frames → f ∈ (s.thread u).frames)
    (current : (s'.frames.remote f).isSome → (s'.thread t).isSuspended ∧ f ∈ (s'.thread t).frames) :
    s'.Owns t f where
  inRange := Nat.lt_of_lt_of_le ho.inRange size
  own hu := ho.own (others _ hu)
  current := current

/-- A thread that rests keeps its frames, or dies with them. -/
theorem System.Owns.rests (ho : s.Owns t f) (valid : (s.frames.remote f).isSome)
    (kept : s'.frames = s.frames) (h : (s.thread t).Rests (s'.thread t)) (hl : ¬ Lapse t f s s') :
    (s'.thread t).isSuspended ∧ f ∈ (s'.thread t).frames := by
  obtain ⟨hs, known⟩ := ho.current valid
  cases h with
  | stays cache suspended => exact ⟨suspended hs, (Thread.frames_of_cache cache).symm ▸ known⟩
  | dies _ _ dead => exact (hl (.died valid kept hs dead)).elim

omit [Session σ] in
theorem Thread.Rests.known {th th' : Thread} (h : th.Rests th') (hf : f ∈ th'.frames) : f ∈ th.frames := by
  cases h with
  | stays cache => exact Thread.frames_of_cache cache ▸ hf
  | dies gone =>
    rw [gone] at hf
    cases hf

/-- After a lapse the frame still stands for something although its thread is not suspended or does not
know it. -/
theorem Lapse.leaves_behind (h : Lapse t f s s') (tidy : s.Tidy) :
    (s'.frames.remote f).isSome ∧ ¬ ((s'.thread t).isSuspended ∧ f ∈ (s'.thread t).frames) := by
  cases h with
  | died valid kept hs dead =>
    refine ⟨kept ▸ valid, fun current => ?_⟩
    have suspended := current.1
    simp [Thread.isSuspended, dead] at suspended
  | @dropped session remote valid known gone =>
    have asked : { s with session }.Tidy := tidy.carry rfl fun _ => .inl rfl
    refine ⟨?_, fun current => gone current.2⟩
    rcases asked.looked (System.lt_size_of_frames (List.ne_nil_of_mem known)) remote
      with ⟨-, -, same⟩ | looked
    · rw [same]
      exact valid
    · rw [FrameStore.remote, looked.fits.others (tidy.inRange known) gone]
      exact valid
  | wentOn valid hs hp =>
    refine ⟨(frames_goesOn (s := s)).symm ▸ valid, fun current => ?_⟩
    have suspended := current.1
    simp [Thread.isSuspended, running_goesOn (System.lt_size_of_suspended hs)] at suspended

omit [Session σ] in
/-- A frame that is unbound stands for nothing, and the other threads keep theirs. -/
theorem System.Owns.unbound {u : ThreadRef} (ho : s.Owns t f)
    (frames : s'.frames = s.frames.unbindAll (s.thread u).frames)
    (kept : (s'.thread u).frames = (s.thread u).frames)
    (others : ∀ v, v ≠ u → s'.thread v = s.thread v) : s'.Owns t f := by
  have size : s'.frames.size = s.frames.size := by rw [frames, FrameStore.size_unbindAll]
  have known (v : ThreadRef) : (s'.thread v).frames = (s.thread v).frames := by
    by_cases hv : v = u
    · exact hv ▸ kept
    · rw [others v hv]
  refine ho.carry (Nat.le_of_eq size.symm) (fun v hf => known v ▸ hf) fun valid => ?_
  rw [frames, FrameStore.remote_unbindAll] at valid
  split at valid
  · cases valid
  · rename_i unknown
    obtain ⟨hs, hf⟩ := ho.current valid
    have other : t ≠ u := by
      rintro rfl
      exact unknown hf
    rw [others t other]
    exact ⟨hs, hf⟩

/-- The stack of a suspended thread is read, and the frame finds a place in it or is dropped. -/
theorem System.Owns.looks {u : ThreadRef} {remote : List RemoteFrame} {session : σ} (ho : s.Owns t f)
    (tidy : s.Tidy) (suspended : (s.thread u).isSuspended)
    (hl : ¬ Lapse t f s ({ s with session }.updateFrames u remote)) :
    ({ s with session }.updateFrames u remote).Owns t f := by
  have asked : { s with session }.Tidy := tidy.carry rfl fun _ => .inl rfl
  rcases asked.looked (System.lt_size_of_suspended suspended) remote with ⟨-, -, same⟩ | looked
  · rw [same]
    exact ⟨ho.inRange, ho.own, ho.current⟩
  have old {v : ThreadRef} (hf : f ∈ (({ s with session }.updateFrames u remote).thread v).frames) :
      f ∈ (s.thread v).frames := by
    by_cases hv : v = u
    · subst hv
      exact (looked.fits.origin hf).resolve_right (Nat.not_le_of_lt ho.inRange)
    · rwa [looked.others hv] at hf
  refine ho.carry looked.fits.size (fun v => old) fun valid => ?_
  by_cases hf : f ∈ (({ s with session }.updateFrames u remote).thread u).frames
  · -- The frame has a place in the stack that was read.
    obtain rfl := ho.own (old hf)
    refine ⟨?_, hf⟩
    have stance := congrArg Thread.isSuspended (stance_updateFrames { s with session } u u remote)
    exact stance.trans suspended
  · have same : ({ s with session }.updateFrames u remote).frames.remote f = s.frames.remote f :=
      congrArg (fun frame? : Option Frame => frame?.bind Frame.remote) (looked.fits.others ho.inRange hf)
    rw [same] at valid
    obtain ⟨hs, known⟩ := ho.current valid
    by_cases hu : t = u
    · subst hu
      exact (hl (.dropped valid known hf)).elim
    · rw [looked.others hu]
      exact ⟨hs, known⟩

/-- Nothing but a lapse leaves a frame behind that stands for something. -/
theorem FrameChange.owns (h : FrameChange s s') (tidy : s.Tidy) (ho : s.Owns t f)
    (hl : ¬ Lapse t f s s') : s'.Owns t f := by
  cases h with
  | leaves h =>
    refine ho.carry (Nat.le_of_eq (congrArg Array.size h.frames.symm)) (fun u => (h.threads u).known)
      fun valid => ?_
    rw [h.frames] at valid
    exact ho.rests valid h.frames (h.threads t) hl
  | @enlists th fresh =>
    refine ho.carry (Nat.le_refl _) (fun u hf => ?_) fun valid => ?_
    · rw [thread_enlist] at hf
      split at hf
      · rw [fresh.frames] at hf
        cases hf
      · exact hf
    · obtain ⟨hs, known⟩ := ho.current valid
      rw [thread_enlist, if_neg (Nat.ne_of_lt (System.lt_size_of_suspended hs))]
      exact ⟨hs, known⟩
  | unbinds frames kept _ others => exact ho.unbound frames kept others
  | looks suspended => exact ho.looks tidy suspended hl
  | @goesOn u old new session hp =>
    have frames : ((s.leaveRequest u old.request).renewStep u new session).frames = s.frames :=
      frames_goesOn
    have known (v : ThreadRef) : (((s.leaveRequest u old.request).renewStep u new session).thread v).frames =
        (s.thread v).frames := Thread.frames_of_cache (cache_goesOn v)
    refine ho.carry (Nat.le_of_eq (congrArg Array.size frames.symm)) (fun v hf => known v ▸ hf)
      fun valid => ?_
    rw [frames] at valid
    obtain ⟨hs, hf⟩ := ho.current valid
    by_cases hu : t = u
    · subst hu
      exact (hl (.wentOn valid hs hp)).elim
    · rw [thread_goesOn_of_ne hu]
      exact ⟨hs, hf⟩

/-- The same of whatever happens. -/
theorem Happens.owns (h : Happens w s s') (tidy : s.Tidy) (ho : s.Owns t f) (hl : ¬ Lapse t f s s') :
    s'.Owns t f := by
  cases h with
  | change h => exact h.frameChange.owns tidy ho hl
  | machine h => exact ⟨ho.inRange, ho.own, ho.current⟩
  | bus bus => exact ⟨ho.inRange, ho.own, ho.current⟩

/-! ## From the moment at which a frame is handed out -/

/-- A frame that is handed out is one that the suspended thread knows. -/
theorem HandsOut.known_then (out : HandsOut t f s s') :
    (s'.thread t).isSuspended ∧ f ∈ (s'.thread t).frames ∧ IdlePath s s' := by
  have given {force : Bool} {frames : List FrameRef} (h : computeFrames t force s = .ok frames s')
      (hf : f ∈ frames) : (s'.thread t).isSuspended ∧ f ∈ (s'.thread t).frames ∧ IdlePath s s' := by
    have path := computeFrames_idle t force s
    rw [stateAfter_of_ok h] at path
    obtain ⟨hs, known⟩ := computeFrames_ok h (List.ne_nil_of_mem hf)
    exact ⟨(path.isSuspended t).trans hs, known.symm ▸ hf, path⟩
  cases out with
  | known h hf => exact given h hf
  | read h hf => exact given h hf
  | top h =>
    obtain ⟨frames, s₁, h, hp⟩ := bind_ok h
    cases hh : frames.head? with
    | none =>
      rw [hh] at hp
      cases hp
    | some g =>
      rw [hh] at hp
      cases hp
      exact given h (List.mem_of_head? hh)

/-- A frame that was handed out for a thread is valid only while the thread is suspended and knows it,
unless there was a lapse. -/
theorem valid_frame_is_current (reachable : Reachable w s) (out : HandsOut t f s s₁)
    (course : Relation.ReflTransGen (fun a b => Happens w a b ∧ ¬ Lapse t f a b) s₁ s₂)
    (valid : (s₂.frames.remote f).isSome) :
    (s₂.thread t).isSuspended ∧ f ∈ (s₂.thread t).frames := by
  obtain ⟨hs, known, path⟩ := out.known_then
  have occurs : Occurs w s₁ := reachable.occurs.course path.path.stepPath.course
  have start : s₁.Owns t f :=
    ⟨occurs.tidy.inRange known, fun hu => occurs.tidy.apart hu known, fun _ => ⟨hs, known⟩⟩
  have owns : Occurs w s₂ ∧ s₂.Owns t f := by
    clear valid
    induction course with
    | refl => exact ⟨occurs, start⟩
    | tail _ hc ih => exact ⟨ih.1.course (.single hc.1), hc.1.owns ih.1.tidy ih.2 hc.2⟩
  exact owns.2.current valid

/-- The sample program with a suspended thread, whose stack a client has seen. -/
private def seen : System (Faulty Machine) := (Operation.frames 0).perform (sampleSystem [.addTask (sampleTask 1)])

private theorem sample_reachable : Reachable scripted (sampleSystem [.addTask (sampleTask 1)]) :=
  sampleSystem_reachable (sampleMachine_starts (by simp [MachineCommand.SparesSteps])) (by decide +kernel)

private theorem seen_handsOut : HandsOut 0 0 (sampleSystem [.addTask (sampleTask 1)]) seen :=
  .of_answer [0, 1] (by decide +kernel) List.mem_cons_self

/-- The top frame of the thread is valid, and is one of the frames known of it. -/
theorem shown_frame_is_current : (seen.thread 0).isSuspended ∧ 0 ∈ (seen.thread 0).frames :=
  valid_frame_is_current sample_reachable seen_handsOut .refl (by decide +kernel)

/-- The machine reports that the suspended thread died. -/
private def mourned : System (Faulty Machine) :=
  (settle 2 { seen with
    session := ((MachineCommand.emit [.single (.threadDeath 1)]).applyFaulty seen.session).2 }).2

/-- The frame of a thread that died is as valid as before. -/
theorem frame_of_dead_thread_stays_valid :
    HandsOut 0 0 (sampleSystem [.addTask (sampleTask 1)]) seen ∧ Reachable scripted mourned ∧
      mourned.isSettled ∧ (mourned.frames.remote 0).isSome ∧
      (mourned.thread 0).terminated ∧ (mourned.thread 0).frames = [] := by
  have reached : Reachable scripted seen := sample_reachable.move (.operation _)
  have told := reached.move (.machine ⟨.emit [.single (.threadDeath 1)], trivial, rfl⟩)
  exact ⟨seen_handsOut, told.settle 2, by decide +kernel, by decide +kernel, by decide +kernel,
    by decide +kernel⟩

end Debugger
