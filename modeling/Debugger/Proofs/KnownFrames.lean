import Debugger.Proofs.MachinePersistence
import Debugger.Proofs.FrameAnswers

/-! # What is known of a thread that can step

A thread of which frames are known is one of the machine's, and unless its stack has to be looked at again
each of its known frames stands for a frame of the machine.  So a thread that can step has a stack to show, and
the next look shows it again.
-/

namespace Debugger

/-- Only of a thread that it has does a machine show the stack. -/
private theorem Faulty.has_of_frames {f f' : Faulty Machine} {thread : ThreadId} {stack : List RemoteFrame}
    (h : Session.frames thread f = .ok stack f') : f.inner.Has thread := by
  rcases guarded_cases .frames (Session.frames thread) f with ⟨a, f₁, -, hc, -⟩ | ⟨e, f₁, he, -, -⟩
  · obtain ⟨task, m, hf, -⟩ := bind_ok hc
    exact ⟨task, (Machine.findSuspended_ok hf).1⟩
  · cases he.symm.trans h

/-- A thread of which frames are known is one of the machine's. -/
def System.Met (s : System (Faulty Machine)) (t : ThreadRef) : Prop :=
  (s.thread t).frames ≠ [] → s.session.inner.Has (s.thread t).id

section

variable {s s' : System (Faulty Machine)} {t : ThreadRef}

/-- A thread keeps its number. -/
private theorem BookChange.id (h : BookChange s s') (ht : t < s.threads.size) :
    (s'.thread t).id = (s.thread t).id := by
  have kept {f : Thread → Thread} (h : ∀ th, (f th).id = th.id) (u : ThreadRef) :
      ((s.mapThread u f).thread t).id = (s.thread t).id := System.mapThread_keeps (g := Thread.id) h s u t
  cases h with
  | fades h => exact (h.threads t).id
  | enlist new hn => rw [thread_enlist, if_neg (Nat.ne_of_lt ht)]
  | died id => exact ((Fades.threadDied s id).threads t).id
  | disconnect => exact ((Fades.disconnect s).threads t).id
  | drop hp =>
    rw [thread_dropStep]
    exact kept (f := (·.setStepping none)) (fun _ => rfl) _
  | @take u new _ m => exact kept (f := (·.setStepping (some new))) (fun _ => rfl) u

private theorem Happens.id (h : Happens scripted s s') (sound : s.Sound) (ht : t < s.threads.size) :
    (s'.thread t).id = (s.thread t).id := by
  cases h with
  | change h =>
    have path := h.books sound
    clear h sound
    induction path with
    | refl => rfl
    | tail path hc ih => exact (hc.id (BookPath.remains path ht).1).trans ih
  | machine => rfl
  | bus => rfl

/-- Frames become known by a look at the machine's stack alone. -/
private theorem Happens.met (h : Happens scripted s s') (sound : s.Sound) (tidy : s.Tidy) (met : s.Met t) :
    s'.Met t := by
  have lasts := h.lasts sound
  have before (known : (s.thread t).frames ≠ []) : s'.session.inner.Has (s'.thread t).id := by
    rw [h.id sound (System.lt_size_of_frames known)]
    exact lasts.has (met known)
  intro known
  cases h.turn (t := t) tidy with
  | rests rests =>
    cases rests with
    | stays cache => exact before (Thread.frames_of_cache cache ▸ known)
    | dies frames => exact (known frames).elim
  | unbinds _ kept => exact before (kept ▸ known)
  | looks hs shown =>
    rw [h.id sound (System.lt_size_of_suspended hs)]
    exact lasts.has (Faulty.has_of_frames shown)
  | goesOn goes =>
    obtain ⟨-, old, new, session, -, rfl⟩ := goes
    rw [Thread.frames_of_cache (cache_goesOn t)] at known
    exact before known

private theorem met_invariant (t : ThreadRef) : Invariant scripted fun s => s.Sound ∧ s.Tidy ∧ s.Met t where
  blank {m} settings start := by
    refine ⟨sound_blank m settings, (tidy_invariant scripted).blank settings start, fun known => (known ?_).elim⟩
    rw [System.thread_of_size_le (Nat.zero_le _)]
    rfl
  change h hs := ⟨(sound_invariant scripted).change h hs.1, (tidy_invariant scripted).change h hs.2.1,
    (Happens.change h).met hs.1 hs.2.1 hs.2.2⟩
  machine h hs := ⟨(sound_invariant scripted).machine h hs.1, (tidy_invariant scripted).machine h hs.2.1,
    (Happens.machine h).met hs.1 hs.2.1 hs.2.2⟩
  bus bus hs := ⟨(sound_invariant scripted).bus bus hs.1, (tidy_invariant scripted).bus bus hs.2.1, hs.2.2⟩

theorem Occurs.met (h : Occurs scripted s) (t : ThreadRef) : s.Met t := ((met_invariant t).occurs h).2.2

end

section

variable {σ : Type} [Session σ] {w : Surroundings σ} {s s' : System σ} {t : ThreadRef}

omit [Session σ] in
/-- Unless the stack of the thread has to be looked at again, each known frame stands for one of the machine's. -/
def System.Bound (s : System σ) (t : ThreadRef) : Prop :=
  (s.thread t).refresh = false → ∀ f ∈ (s.thread t).frames, (s.frames.remote f).isSome

private theorem Happens.bound (h : Happens w s s') (tidy : s.Tidy) (bound : s.Bound t) : s'.Bound t := by
  intro fresh f known
  cases h.turn (t := t) tidy with
  | rests rests remote =>
    cases rests with
    | stays cache =>
      rw [Thread.frames_of_cache cache] at known
      rw [remote f known]
      exact bound ((Thread.refresh_of_cache cache).symm.trans fresh) f known
    | dies _ stale => cases stale.symm.trans fresh
  | unbinds stale => cases stale.symm.trans fresh
  | @looks remote session hs shown =>
    have asked : { s with session }.Tidy := tidy.carry rfl fun _ => .inl rfl
    rcases asked.looked (System.lt_size_of_suspended hs) remote with ⟨-, none, same⟩ | looked
    · rw [same, none] at known
      cases known
    · obtain ⟨r, -, stands⟩ := List.mem_map.mp (looked.fits.bound ▸ List.mem_map_of_mem known)
      rw [← stands]
      rfl
  | goesOn goes =>
    obtain ⟨before, old, new, session, -, rfl⟩ := goes
    rw [Thread.frames_of_cache (cache_goesOn t)] at known
    rw [frames_goesOn]
    exact bound before f known

private theorem bound_invariant (w : Surroundings σ) (t : ThreadRef) : Invariant w fun s => s.Tidy ∧ s.Bound t where
  blank {m} settings start := by
    refine ⟨(tidy_invariant w).blank settings start, fun _ f known => ?_⟩
    rw [System.thread_of_size_le (Nat.zero_le _)] at known
    cases known
  change h hs := ⟨(tidy_invariant w).change h hs.1, (Happens.change h : Happens w _ _).bound hs.1 hs.2⟩
  machine h hs := ⟨(tidy_invariant w).machine h hs.1, (Happens.machine h).bound hs.1 hs.2⟩
  bus bus hs := ⟨(tidy_invariant w).bus bus hs.1, hs.2⟩

theorem Occurs.bound (h : Occurs w s) (t : ThreadRef) : s.Bound t := ((bound_invariant w t).occurs h).2

/-! ## The stack that is shown -/

/-- The stack that a client is shown. -/
def System.shownStack (s : System σ) (t : ThreadRef) : List RemoteFrame :=
  match stackFrames t s with
  | .ok frames s' => frames.filterMap s'.frames.remote
  | .error _ _ => []

theorem stackFrames_known (hs : (s.thread t).isSuspended) (fresh : (s.thread t).refresh = false) :
    stackFrames t s = .ok (s.thread t).frames s := by
  rw [stackFrames, computeFrames, act_get_bind]
  simp only [hs, fresh]
  rfl

/-- What was shown is known from then on. -/
private theorem fresh_of_shown {frames : List FrameRef} (tidy : s.Tidy) (hs : (s.thread t).isSuspended)
    (shown : stackFrames t s = .ok frames s') (some_shown : frames ≠ []) :
    (s'.thread t).frames = frames ∧ (s'.thread t).refresh = false := by
  obtain ⟨rfl, ⟨fresh, rfl⟩ | ⟨remote, m, -, rfl⟩⟩ := computeFrames_shown shown hs
  · exact ⟨rfl, fresh⟩
  · have asked : { s with session := m }.Tidy := tidy.carry rfl fun _ => .inl rfl
    rcases asked.looked (System.lt_size_of_suspended hs) remote with ⟨-, none, same⟩ | looked
    · rw [same] at some_shown
      exact (some_shown none).elim
    · exact ⟨rfl, looked.refresh⟩

/-- The thread can step, as a look at its stack showed. -/
structure System.Poised (s : System σ) (t : ThreadRef) (frames : List FrameRef) (s' : System σ) : Prop where
  suspended : (s.thread t).isSuspended
  stepping : (s.thread t).stepping = none
  shown : stackFrames t s = .ok frames s'
  answer : canStep t s = (true, s')
  stacked : frames ≠ []

theorem canStep_poised (can : (canStep t s).1) : ∃ frames s', s.Poised t frames s' := by
  rcases answer : canStep t s with ⟨b, s'⟩
  rw [answer] at can
  obtain rfl : b = true := can
  have answer' := answer
  rw [canStep, run_get_bind] at answer
  split at answer
  · cases answer
  · rename_i ready
    simp only [Bool.or_eq_true, Bool.not_eq_true', not_or, Bool.not_eq_false, Option.isSome_iff_ne_none,
      ne_eq, not_not] at ready
    split at answer
    · cases answer
    · cases shown : stackFrames t s with
      | error e s₁ =>
        rw [run_bind (attempt_error shown)] at answer
        cases answer
      | ok frames s₁ =>
        rw [run_bind (attempt_ok shown)] at answer
        obtain ⟨some_shown, rfl⟩ := Prod.mk.inj answer
        refine ⟨frames, s₁, ready.1, ready.2, shown, answer', ?_⟩
        rintro rfl
        cases some_shown

namespace System.Poised

variable {frames : List FrameRef}

/-- No code is being replaced in the target. -/
theorem ready (h : s.Poised t frames s') : (s.targetAlive && s.replacingCode) = false := by
  refine eq_false_of_ne_true fun replacing => ?_
  have answer := h.answer
  rw [canStep, run_get_bind] at answer
  simp only [h.suspended, h.stepping, replacing] at answer
  cases answer

theorem of_shown (suspended : (s.thread t).isSuspended) (stepping : (s.thread t).stepping = none)
    (ready : (s.targetAlive && s.replacingCode) = false) (shown : stackFrames t s = .ok frames s')
    (stacked : frames ≠ []) : s.Poised t frames s' := by
  refine ⟨suspended, stepping, shown, ?_, stacked⟩
  rw [canStep, run_get_bind]
  simp only [suspended, stepping, ready]
  refine (run_bind (attempt_ok shown)).trans ?_
  obtain ⟨frame, others, rfl⟩ := List.exists_cons_of_ne_nil stacked
  rfl

/-- What is done in a thread if it can step is done. -/
theorem goesAhead (h : s.Poised t frames s') (op : Client σ Unit) :
    stateAfter (do if ← act (canStep t) then op) s = stateAfter op s' := by
  have asked : (act (canStep t) : Client σ Bool) s = .ok true s' := by simp only [act, h.answer]
  exact stateAfter_bind_ok asked

/-- The next look shows the same. -/
theorem again (h : s.Poised t frames s') (tidy : s.Tidy) : stackFrames t s' = .ok frames s' := by
  obtain ⟨rfl, fresh⟩ := fresh_of_shown tidy h.suspended h.shown h.stacked
  have idle := stackFrames_idle t s
  rw [stateAfter_of_ok h.shown] at idle
  exact stackFrames_known ((idle.isSuspended t).trans h.suspended) fresh

theorem occurs (h : s.Poised t frames s') (occurs : Occurs w s) : Occurs w s' := by
  have looked := stackFrames_idle t s
  rw [stateAfter_of_ok h.shown] at looked
  exact occurs.course looked.path.stepPath.course

theorem nodup (h : s.Poised t frames s') (occurs : Occurs w s) : frames.Nodup := by
  obtain ⟨rfl, -⟩ := fresh_of_shown occurs.tidy h.suspended h.shown h.stacked
  exact (h.occurs occurs).tidy.nodup t

/-- Each frame that is shown stands for one of the stack. -/
theorem bound (h : s.Poised t frames s') (occurs : Occurs w s) :
    frames.map s'.frames.remote = (s.shownStack t).map some := by
  obtain ⟨rfl, fresh⟩ := fresh_of_shown occurs.tidy h.suspended h.shown h.stacked
  rw [shownStack, h.shown]
  dsimp only
  have bound := (h.occurs occurs).bound t fresh
  generalize (s'.thread t).frames = known at bound
  clear h fresh
  induction known with
  | nil => rfl
  | cons f fs ih =>
    obtain ⟨r, stands⟩ := Option.isSome_iff_exists.mp (bound f List.mem_cons_self)
    rw [List.map_cons, List.filterMap_cons, stands, List.map_cons, ih fun g hg => bound g (List.mem_cons_of_mem f hg)]

/-- There is a frame to step from. -/
theorem shows (h : s.Poised t frames s') (occurs : Occurs w s) :
    ∃ top below, s.shownStack t = top :: below := by
  refine List.exists_cons_of_ne_nil fun none => h.stacked ?_
  have bound := h.bound occurs
  rwa [none, List.map_nil, List.map_eq_nil_iff] at bound

/-- The thread is one of the machine's. -/
theorem has {s s' : System (Faulty Machine)} (h : s.Poised t frames s') (occurs : Occurs scripted s) :
    s'.session.inner.Has (s.thread t).id := by
  obtain ⟨rfl, -⟩ := fresh_of_shown occurs.tidy h.suspended h.shown h.stacked
  have looked : IdlePath s s' := stateAfter_of_ok h.shown ▸ stackFrames_idle t s
  exact looked.id t ▸ (h.occurs occurs).met t h.stacked

end System.Poised

end

end Debugger
