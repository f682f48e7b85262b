import Debugger.Proofs.FrameCache
import Debugger.Proofs.MachineResumes
import Debugger.Proofs.MachineSurroundings

/-! # What a client is shown of a stack

A thread that starts to run unbinds the frames that are known of it, so they are looked up again before
anybody sees them.  The one exception is a pending step that goes on while the thread is suspended and its
frames are known.  Without it a client is shown the machine's stack, as long as the machine changes the
stacks of running threads only and those of which the debugger pops frames.
-/

namespace Debugger

open Scenario

section

variable {σ : Type} [Session σ] {w : Surroundings σ} {s s' : System σ} {t : ThreadRef}

/-- The pending step of a thread goes on while its frames are known. -/
def GoesOnKnown (t : ThreadRef) (s s' : System σ) : Prop :=
  (s.thread t).refresh = false ∧ ∃ old new session, (s.thread t).stepping = some old ∧
    s' = (s.leaveRequest t old.request).renewStep t new session

/-- What a change means for the frames of one thread. -/
inductive Turn (t : ThreadRef) (s : System σ) : System σ → Prop
  | rests {s' : System σ} (h : (s.thread t).Rests (s'.thread t))
    (remote : ∀ f ∈ (s.thread t).frames, s'.frames.remote f = s.frames.remote f) : Turn t s s'
  | unbinds {s' : System σ} (stale : (s'.thread t).refresh = true)
    (kept : (s'.thread t).frames = (s.thread t).frames) : Turn t s s'
  | looks {remote : List RemoteFrame} {session : σ} (hs : (s.thread t).isSuspended)
    (h : Session.frames (s.thread t).id s.session = .ok remote session) :
    Turn t s ({ s with session }.updateFrames t remote)
  | goesOn {s' : System σ} (h : GoesOnKnown t s s') : Turn t s s'

theorem FrameChange.turn (h : FrameChange s s') (tidy : s.Tidy) : Turn t s s' := by
  cases h with
  | leaves h => exact .rests (h.threads t) fun f _ => by rw [h.frames]
  | @enlists th fresh =>
    by_cases ht : t = s.threads.size
    · have new : (s.enlist th).thread t = th := by rw [thread_enlist, if_pos ht]
      have none : (s.thread t).frames = [] := by rw [System.thread_of_size_le (Nat.le_of_eq ht.symm)]; rfl
      exact .unbinds (new.symm ▸ fresh.refresh) (by rw [new, none, fresh.frames])
    · have same : (s.enlist th).thread t = s.thread t := by rw [thread_enlist, if_neg ht]
      exact .rests (same ▸ .rfl) fun f _ => rfl
  | @unbinds _ u frames kept stale others =>
    by_cases ht : t = u
    · exact .unbinds (ht ▸ stale) (ht ▸ kept)
    · refine .rests (others t ht ▸ .rfl) fun f known => ?_
      rw [frames, FrameStore.remote_unbindAll, if_neg fun theirs => ht (tidy.apart known theirs)]
  | @looks u remote session suspended h =>
    by_cases ht : t = u
    · subst ht
      exact .looks suspended h
    have asked : { s with session }.Tidy := tidy.carry rfl fun _ => .inl rfl
    rcases asked.looked (System.lt_size_of_suspended suspended) remote with ⟨-, -, same⟩ | looked
    · rw [same]
      exact .rests .rfl fun f _ => rfl
    · refine .rests (looked.others ht ▸ .rfl) fun f known => ?_
      have theirs : f ∉ (({ s with session }.updateFrames u remote).thread u).frames := by
        intro hm
        rcases looked.fits.origin hm with old | new
        · exact ht (tidy.apart known old)
        · exact Nat.not_lt_of_le new (tidy.inRange known)
      rw [FrameStore.remote, looked.fits.others (tidy.inRange known) theirs]
      rfl
  | @goesOn u old new session hp =>
    by_cases ht : t = u
    · subst ht
      have cache : (((s.leaveRequest t old.request).renewStep t new session).thread t).cache =
          (s.thread t).cache := cache_goesOn t
      cases hr : (s.thread t).refresh with
      | true => exact .unbinds ((Thread.refresh_of_cache cache).trans hr) (Thread.frames_of_cache cache)
      | false => exact .goesOn ⟨hr, old, new, session, hp, rfl⟩
    · have same : ((s.leaveRequest u old.request).renewStep u new session).thread t = s.thread t :=
        thread_goesOn_of_ne ht
      exact .rests (same ▸ .rfl) fun f _ => by rw [frames_goesOn]

theorem Happens.turn (h : Happens w s s') (tidy : s.Tidy) : Turn t s s' := by
  cases h with
  | change h => exact h.frameChange.turn tidy
  | machine h => exact .rests .rfl fun f _ => rfl
  | bus bus => exact .rests .rfl fun f _ => rfl

/-! ## A thread that runs -/

/-- No known frame of the thread stands for anything, and its stack has to be looked at again. -/
def System.Unbound (s : System σ) (t : ThreadRef) : Prop :=
  (s.thread t).refresh ∧ ∀ f ∈ (s.thread t).frames, s.frames.remote f = none

/-- The stack of the thread need not be looked at again only while the thread is suspended. -/
def System.KnownSuspended (s : System σ) (t : ThreadRef) : Prop :=
  (s.thread t).refresh = false → (s.thread t).isSuspended

theorem Turn.knownSuspended (h : Turn t s s') (hk : s.KnownSuspended t) (hg : ¬ GoesOnKnown t s s') :
    s'.KnownSuspended t := by
  intro hr
  cases h with
  | rests h =>
    cases h with
    | stays cache suspended => exact suspended (hk ((Thread.refresh_of_cache cache).symm.trans hr))
    | dies _ refresh =>
      rw [refresh] at hr
      cases hr
  | unbinds stale =>
    rw [stale] at hr
    cases hr
  | @looks remote session hs h =>
    exact (congrArg Thread.isSuspended (stance_updateFrames { s with session } t t remote)).trans hs
  | goesOn h => exact (hg h).elim

omit [Session σ] in
theorem System.KnownSuspended.unbound (hk : s.KnownSuspended t) (tidy : s.Tidy)
    (hr : (s.thread t).running) : s.Unbound t := by
  have stale : (s.thread t).refresh = true := eq_true_of_ne_false fun known => by
    have suspended := hk known
    simp [Thread.isSuspended, hr] at suspended
  exact ⟨stale, fun f hf => tidy.stale stale hf⟩

end

/-! ## The stack of the machine -/

namespace Machine

/-- A stack that the machine shows is the present one. -/
theorem frames_ok {m m' : Machine} {thread : ThreadId} {stack : List RemoteFrame}
    (h : Session.frames thread m = .ok stack m') : stack = m.framesOf thread ∧ m' = m := by
  obtain ⟨task, m₁, hf, h⟩ := bind_ok h
  cases h
  obtain ⟨found, rfl⟩ := findSuspended_ok hf
  rw [framesOf, found]
  exact ⟨rfl, rfl⟩

end Machine

theorem Faulty.frames_ok {f f' : Faulty Machine} {thread : ThreadId} {stack : List RemoteFrame}
    (h : Session.frames thread f = .ok stack f') :
    stack = f.inner.framesOf thread ∧ f'.inner = f.inner := by
  have same := (fault_state .frames f).1
  change guarded .frames (Session.frames thread) f = _ at h
  cases hf : fault .frames f with
  | error e f₁ =>
    rw [guarded_fault hf] at h
    cases h
  | ok u f₁ =>
    rw [stateAfter_of_ok hf] at same
    cases hm : Session.frames thread f₁.inner with
    | ok shown m =>
      rw [guarded_ok hf hm] at h
      cases h
      obtain ⟨rfl, rfl⟩ := Machine.frames_ok hm
      rw [same]
      exact ⟨rfl, rfl⟩
    | error e m =>
      rw [guarded_error hf hm] at h
      cases h

variable {w : Surroundings (Faulty Machine)} {s s' : System (Faulty Machine)} {t : ThreadRef}

/-- The machine's stack of the thread. -/
def System.stackOf (s : System (Faulty Machine)) (t : ThreadRef) : List RemoteFrame :=
  s.session.inner.framesOf (s.thread t).id

/-- While the thread is suspended the machine leaves its stack alone, unless it is asked to pop frames. -/
def Undisturbed (t : ThreadRef) (s s' : System (Faulty Machine)) : Prop :=
  (s.thread t).isSuspended → s'.stackOf t = s.stackOf t ∨ ∃ frame, s' = s.popFrames t frame

theorem refresh_popFrames (s : System (Faulty Machine)) (t : ThreadRef) (frame : FrameId) :
    ((s.popFrames t frame).thread t).refresh := by
  change ((s.mapThread t Thread.markStale).thread t).refresh = true
  rw [System.thread_mapThread]
  split
  · rfl
  · rename_i hl
    rw [System.thread_of_size_le (Nat.le_of_not_lt fun h => hl ⟨rfl, h⟩)]
    rfl

theorem Undisturbed.stackOf (h : Undisturbed t s s') (hs : (s.thread t).isSuspended)
    (hr : (s'.thread t).refresh = false) : s'.stackOf t = s.stackOf t := by
  rcases h hs with same | ⟨frame, rfl⟩
  · exact same
  · rw [refresh_popFrames] at hr
    cases hr

/-- A look at a stack shows it as it is. -/
theorem shown_of_look {remote : List RemoteFrame} {m : Faulty Machine} (tidy : s.Tidy)
    (hs : (s.thread t).isSuspended) (h : Session.frames (s.thread t).id s.session = .ok remote m) :
    ({ s with session := m }.updateFrames t remote).stackOf t = s.stackOf t ∧
      (({ s with session := m }.updateFrames t remote).thread t).frames.map
        ({ s with session := m }.updateFrames t remote).frames.remote = (s.stackOf t).map some := by
  obtain ⟨rfl, inner⟩ := Faulty.frames_ok h
  constructor
  · have rest := congrArg System.session
      (System.updateFrames_rest { s with session := m } t (s.session.inner.framesOf (s.thread t).id))
    have id := congrArg Thread.id
      (stance_updateFrames { s with session := m } t t (s.session.inner.framesOf (s.thread t).id))
    exact congrArg₂ Machine.framesOf ((congrArg Faulty.inner rest :).trans inner) id
  · have asked : { s with session := m }.Tidy := tidy.carry rfl fun _ => .inl rfl
    rcases asked.looked (System.lt_size_of_suspended hs) (s.session.inner.framesOf (s.thread t).id)
      with ⟨empty, known, same⟩ | looked
    · rw [same]
      have known : (s.thread t).frames = [] := known
      rw [System.stackOf, empty]
      exact congrArg _ known
    · exact looked.fits.bound

/-- Unless the stack of the thread has to be looked at again, its known frames are the stack. -/
def System.Shown (s : System (Faulty Machine)) (t : ThreadRef) : Prop :=
  (s.thread t).refresh = false → (s.thread t).frames.map s.frames.remote = (s.stackOf t).map some

theorem Turn.shown (h : Turn t s s') (tidy : s.Tidy) (hk : s.KnownSuspended t) (shown : s.Shown t)
    (hu : Undisturbed t s s') (hg : ¬ GoesOnKnown t s s') : s'.Shown t := by
  intro hr
  cases h with
  | rests h remote =>
    cases h with
    | stays cache suspended =>
      have known := (Thread.refresh_of_cache cache).symm.trans hr
      rw [Thread.frames_of_cache cache, List.map_congr_left remote, shown known, hu.stackOf (hk known) hr]
    | dies _ refresh =>
      rw [refresh] at hr
      cases hr
  | unbinds stale =>
    rw [stale] at hr
    cases hr
  | looks hs h =>
    obtain ⟨same, shown⟩ := shown_of_look tidy hs h
    exact same ▸ shown
  | goesOn h => exact (hg h).elim

/-! ## Runs -/

/-- Between a suspension of a thread and its next run its frames are unbound, unless its step goes on
while they are known; and what a client is shown of a suspended thread is its stack, if that never
happened and the machine leaves the stacks of suspended threads alone. -/
theorem frames_not_from_before_last_run {s₀ : System (Faulty Machine)} (occurs : Occurs w s₀) :
    ((s₀.thread t).isSuspended →
      Relation.ReflTransGen (fun a b => Happens w a b ∧ ¬ GoesOnKnown t a b) s₀ s →
      (s.thread t).running → s.Unbound t) ∧
    ((s₀.thread t).refresh →
      Relation.ReflTransGen (fun a b => Happens w a b ∧ ¬ GoesOnKnown t a b ∧ Undisturbed t a b) s₀ s →
      (s.thread t).isSuspended → ∀ frames s', stackFrames t s = .ok frames s' →
        frames.map s'.frames.remote = (s.stackOf t).map some ∧ s'.stackOf t = s.stackOf t) := by
  constructor
  · intro hs course hr
    have kept : Occurs w s ∧ s.KnownSuspended t := by
      clear hr
      induction course with
      | refl => exact ⟨occurs, fun _ => hs⟩
      | tail _ hc ih =>
        exact ⟨ih.1.course (.single hc.1), (hc.1.turn ih.1.tidy).knownSuspended ih.2 hc.2⟩
    exact kept.2.unbound kept.1.tidy hr
  · intro stale course hs frames s' shown
    have kept : Occurs w s ∧ s.KnownSuspended t ∧ s.Shown t := by
      clear hs shown
      have fresh : ¬ (s₀.thread t).refresh = false := by rw [stale]; exact Bool.noConfusion
      induction course with
      | refl => exact ⟨occurs, fun hr => (fresh hr).elim, fun hr => (fresh hr).elim⟩
      | tail _ hc ih =>
        obtain ⟨occurs, known, shown⟩ := ih
        have turn := hc.1.turn (t := t) occurs.tidy
        exact ⟨occurs.course (.single hc.1), turn.knownSuspended known hc.2.1,
          turn.shown occurs.tidy known shown hc.2.2 hc.2.1⟩
    obtain ⟨occurs, -, known⟩ := kept
    obtain ⟨rfl, ⟨fresh, rfl⟩ | ⟨remote, m, asked, rfl⟩⟩ := computeFrames_shown shown hs
    · exact ⟨known fresh, rfl⟩
    · exact (shown_of_look occurs.tidy hs asked).symm

/-- The sample program with one suspended thread. -/
private def held : System (Faulty Machine) := sampleSystem [.addTask (sampleTask 1)]

/-- The thread runs into another method. -/
private def away : System (Faulty Machine) :=
  { held.startRunning 0 with session :=
    ((MachineCommand.setFrames 1 [sampleFrame 3 103 "callee" 20]).applyFaulty
      (held.startRunning 0).session).2 }

private theorem held_occurs : Occurs scripted held :=
  (sampleSystem_reachable (sampleMachine_starts (by simp [MachineCommand.SparesSteps]))
    (by decide +kernel)).occurs

private theorem away_machine : Happens scripted (held.startRunning 0) away :=
  .machine ⟨.setFrames 1 [sampleFrame 3 103 "callee" 20], trivial, rfl⟩

/-- A client that looks after the run is shown where the thread is now. -/
theorem shown_after_run :
    (held.startRunning 0).Unbound 0 ∧ ∃ frames s,
      stackFrames 0 (away.stopRunning 0) = .ok frames s ∧
        frames.map s.frames.remote = [some (sampleFrame 3 103 "callee" 20)] := by
  have stale : (held.thread 0).refresh := by decide +kernel
  have spares {s s' : System (Faulty Machine)} (hr : (s.thread 0).refresh) : ¬ GoesOnKnown 0 s s' := by
    intro hg
    rw [hg.1] at hr
    cases hr
  have run : Happens scripted held (held.startRunning 0) := .change (.landing (.change (.run held 0)))
  have stop : Happens scripted away (away.stopRunning 0) := .change (.landing (.change (.stop away 0)))
  have runs : ¬ ((held.startRunning 0).thread 0).isSuspended := by decide +kernel
  have course : Relation.ReflTransGen
      (fun a b => Happens scripted a b ∧ ¬ GoesOnKnown 0 a b ∧ Undisturbed 0 a b) held (away.stopRunning 0) :=
    ((Relation.ReflTransGen.single ⟨run, spares stale, fun _ => .inl (by decide +kernel)⟩).tail
      ⟨away_machine, spares (by decide +kernel), fun hs => absurd hs runs⟩).tail
        ⟨stop, spares (by decide +kernel), fun _ => .inl (by decide +kernel)⟩
  have shown : ((stackFrames 0).run' (away.stopRunning 0)).isSome := by decide +kernel
  have stack : (away.stopRunning 0).stackOf 0 = [sampleFrame 3 103 "callee" 20] := by decide +kernel
  cases hs : stackFrames 0 (away.stopRunning 0) with
  | error e s =>
    rw [run'_of_error hs] at shown
    cases shown
  | ok frames s =>
    have unbound := (frames_not_from_before_last_run held_occurs).1 (by decide +kernel)
      (.single ⟨run, spares stale⟩) (by decide +kernel)
    have answer := (frames_not_from_before_last_run held_occurs).2 stale course (by decide +kernel) frames s hs
    exact ⟨unbound, frames, s, rfl, answer.1.trans (congrArg _ stack)⟩

/-- A step of the thread lands within its line, and a client suspends everything and looks at the stack
before the debugger hears of that. -/
private def overtaken : System (Faulty Machine) :=
  let s := (Operation.stepWithTargetFilters 0 .into).perform (sampleSystem [.addTask (sampleTask 1), .defer 1,
    .landing 1 [⟨1, { (sampleFrame 1 101 "run" 10).location with codeIndex := 14 }⟩, sampleFrame 2 102 "main" 3]])
  { s with session := ((MachineCommand.complete 1).applyFaulty s.session).2 }.performAll
    [.suspendAll, .frames 0]

/-- The step goes on with the frames bound, and at its end they are shown although the thread has moved
on. -/
theorem step_goes_on_with_known_frames :
    Reachable scripted overtaken ∧ (overtaken.thread 0).isSuspended ∧
      ((runNext overtaken).2.thread 0).running ∧ ¬ (runNext overtaken).2.Unbound 0 ∧
      ((settle 3 overtaken).2.thread 0).isSuspended ∧
      ((stackFrames 0).run' (settle 3 overtaken).2).map (·.map (settle 3 overtaken).2.frames.remote) ≠
        some (((settle 3 overtaken).2.stackOf 0).map some) := by
  have start : Reachable scripted (sampleSystem [.addTask (sampleTask 1), .defer 1,
      .landing 1 [⟨1, { (sampleFrame 1 101 "run" 10).location with codeIndex := 14 }⟩,
        sampleFrame 2 102 "main" 3]]) :=
    sampleSystem_reachable (sampleMachine_starts (by simp [MachineCommand.SparesSteps])) (by decide +kernel)
  have stepped := start.move (.operation (.stepWithTargetFilters 0 .into))
  refine ⟨(stepped.move (.machine ⟨.complete 1, trivial, rfl⟩)).performAll [.suspendAll, .frames 0],
    by decide +kernel, by decide +kernel, fun unbound => ?_, by decide +kernel, by decide +kernel⟩
  have stale := unbound.1
  revert stale
  decide +kernel

end Debugger
