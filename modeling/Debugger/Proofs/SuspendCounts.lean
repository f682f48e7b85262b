import Debugger.Proofs.Controls
import Debugger.Proofs.QuietSession
import Debugger.Proofs.VetoedHit

/-! # Suspensions that nest

A debuggee counts how often each of its threads was suspended, and lets the thread run when it was resumed as
often; the debugger only knows whether a thread counts as suspended.
-/

namespace Debugger

open Wire

/-- What no call of these changes about a thread once it is done. -/
def Thread.lasting (th : Thread) : ThreadId × Bool × Bool × Option Stepping :=
  (th.id, th.terminated, th.suspending, th.stepping)

theorem Thread.lasting_eq {th th' : Thread} : th'.lasting = th.lasting ↔
    th'.id = th.id ∧ th'.terminated = th.terminated ∧ th'.suspending = th.suspending ∧ th'.stepping = th.stepping := by
  simp [Thread.lasting]

namespace System

/-- How often the debuggee has the thread suspended. -/
def suspensions (s : System (WireSession Debuggee)) (t : ThreadRef) : Nat :=
  s.session.peer.suspensions (s.thread t).id

/-- The debugger has the thread as suspended if and only if the debuggee does. -/
def Mirrors (s : System (WireSession Debuggee)) (t : ThreadRef) : Prop :=
  (s.thread t).isSuspended ↔ 0 < s.suspensions t

/-- The debuggee knows the thread, which is in the middle of nothing. -/
structure Follows (s : System (WireSession Debuggee)) (t : ThreadRef) : Prop where
  inRange : t < s.threads.size
  alive : (s.thread t).terminated = false
  unasked : (s.thread t).suspending = false
  unstepped : (s.thread t).stepping = none
  fits : s.session.peer.Fits (s.thread t).id
  known : (s.session.peer.thread? (s.thread t).id).isSome

theorem Follows.running_eq {s : System (WireSession Debuggee)} {t : ThreadRef} (h : s.Follows t) :
    (s.thread t).running = !(s.thread t).isSuspended := by
  simp [Thread.isSuspended, h.alive]

/-- Nothing is under way, neither in the debugger nor between it and its debuggee. -/
structure Restful (s : System (WireSession Debuggee)) : Prop where
  quiet : s.session.Quiet
  unarmed : s.session.peer.armed = []
  read : s.session.events.receive? s.reader = none
  up : s.shutdown = false
  nothing_ready : s.ready = []
  follows : ∀ t ∈ s.registry, s.Follows t
  distinct : ∀ t ∈ s.registry, ∀ u ∈ s.registry, (s.thread t).id = (s.thread u).id → t = u

variable {s s' : System (WireSession Debuggee)} {t : ThreadRef}

theorem Restful.dispatchable (h : s.Restful) : s.dispatchable = false := by
  have closed : Session.eventsClosed s.session = false := rfl
  have read : (Session.events s.session).receive? s.reader = none := h.read
  simp [System.dispatchable, h.up, closed, read]

theorem Restful.isSettled (h : s.Restful) : s.isSettled := by
  rw [System.isSettled, h.dispatchable, h.nothing_ready]
  rfl

/-- What the debuggee does to one thread changes the count of no other. -/
theorem Restful.suspensions_mapThread {f : Debuggee.ThreadEntry → Debuggee.ThreadEntry} {g : Nat → Nat}
    (hf : ∀ e, (f e).id = e.id) (hg : ∀ e, (f e).suspendCount = g e.suspendCount) (h : s.Restful) {u : ThreadRef}
    (ht : t ∈ s.registry) (hu : u ∈ s.registry) :
    (s.session.peer.mapThread (s.thread t).id f).suspensions (s.thread u).id =
      if t = u then g (s.suspensions u) else s.suspensions u := by
  rw [Debuggee.suspensions_mapThread hf hg _ (h.follows u hu).known]
  by_cases same : t = u
  · rw [if_pos same, if_pos (by rw [same])]
    rfl
  · rw [if_neg same, if_neg fun id => same (h.distinct t ht u hu id.symm)]
    rfl

/-- An operation brings a system from rest to rest if it leaves alone what it must. -/
structure Settles (s s' : System (WireSession Debuggee)) (d : Debuggee) : Prop where
  session : s.session.Answered d s'.session
  unarmed : d.armed = []
  sizes : d.sizes = s.session.peer.sizes
  known : ∀ id, (d.thread? id).isSome = (s.session.peer.thread? id).isSome
  reader : s'.reader = s.reader
  shutdown : s'.shutdown = s.shutdown
  ready : s'.ready = []
  registry : s'.registry = s.registry
  size : s'.threads.size = s.threads.size
  threads : ∀ t, (s'.thread t).lasting = (s.thread t).lasting

theorem Restful.of_settles {d : Debuggee} (h : s.Restful) (hs : System.Settles s s' d) : s'.Restful where
  quiet := hs.session.quiet
  unarmed := by rw [hs.session.peer, hs.unarmed]
  read := by rw [hs.session.events, hs.reader, h.read]
  up := by rw [hs.shutdown, h.up]
  nothing_ready := hs.ready
  follows t ht := by
    obtain ⟨id, terminated, suspending, stepping⟩ := Thread.lasting_eq.mp (hs.threads t)
    have old := h.follows t (hs.registry ▸ ht)
    have fits := old.fits
    refine ⟨hs.size ▸ old.inRange, terminated.trans old.alive, suspending.trans old.unasked,
      stepping.trans old.unstepped, ?_, ?_⟩
    · rw [hs.session.peer, id]
      exact ⟨hs.sizes ▸ fits.pos, hs.sizes ▸ fits.le, hs.sizes ▸ fits.lt⟩
    · rw [hs.session.peer, id, hs.known]
      exact old.known
  distinct t ht u hu same := by
    rw [(Thread.lasting_eq.mp (hs.threads t)).1, (Thread.lasting_eq.mp (hs.threads u)).1] at same
    exact h.distinct t (hs.registry ▸ ht) u (hs.registry ▸ hu) same

theorem lasting_suspendListed (s : System (WireSession Debuggee)) (t : ThreadRef) :
    (s.suspendListed.thread t).lasting = (s.thread t).lasting :=
  foldl_keeps (g := fun s => (s.thread t).lasting)
    (fun s u => mapThread_keeps (g := Thread.lasting) (f := (·.setRunning false)) (fun _ => rfl) s u t) s.registry
    { s with suspended := true }

theorem size_suspendListed (s : System (WireSession Debuggee)) : s.suspendListed.threads.size = s.threads.size :=
  foldl_keeps (f := stopRunning) (g := fun s => s.threads.size) (fun s u => size_mapThread s u _) s.registry
    { s with suspended := true }

theorem size_resumeListed (s : System (WireSession Debuggee)) : s.resumeListed.threads.size = s.threads.size :=
  foldl_keeps (f := startRunning) (g := fun s => s.threads.size)
    (fun s u => by simp [startRunning, preserveFrames]) s.registry { s with suspended := false }

theorem lasting_resumeListed (s : System (WireSession Debuggee)) (t : ThreadRef) :
    (s.resumeListed.thread t).lasting = (s.thread t).lasting :=
  foldl_keeps (g := fun s => (s.thread t).lasting) (fun s u => startRunning_keeps (fun _ => rfl) s u t) s.registry
    { s with suspended := false }

end System

namespace Control

variable {s s' : System (WireSession Debuggee)}

/-- What the call does to the threads that it reaches: each counts as suspended or not by the kind of the call
alone, while the debuggee counts one suspension more or less. -/
structure Steps (s : System (WireSession Debuggee)) (c : Control) (s' : System (WireSession Debuggee)) : Prop where
  restful : s'.Restful
  registry : s'.registry = s.registry
  suspended {t : ThreadRef} (ht : t ∈ s.registry) :
    (s'.thread t).isSuspended = if c.reaches s t then c.suspends else (s.thread t).isSuspended
  suspensions {t : ThreadRef} (ht : t ∈ s.registry) :
    s'.suspensions t = if c.reaches s t then if c.suspends then s.suspensions t + 1 else s.suspensions t - 1
      else s.suspensions t

theorem Steps.of_settles {d : Debuggee} {c : Control} (h : s.Restful) (hs : System.Settles s s' d)
    (suspended : ∀ t ∈ s.registry,
      (s'.thread t).running = !(if c.reaches s t then c.suspends else (s.thread t).isSuspended))
    (suspensions : ∀ t ∈ s.registry, d.suspensions (s.thread t).id =
      if c.reaches s t then if c.suspends then s.suspensions t + 1 else s.suspensions t - 1 else s.suspensions t) :
    Steps s c s' where
  restful := h.of_settles hs
  registry := hs.registry
  suspended {t} ht := by
    obtain ⟨-, terminated, -, -⟩ := Thread.lasting_eq.mp (hs.threads t)
    rw [Thread.isSuspended, suspended t ht, terminated, (h.follows t ht).alive]
    simp
  suspensions {t} ht := by
    rw [System.suspensions, hs.session.peer, (Thread.lasting_eq.mp (hs.threads t)).1, suspensions t ht]

theorem suspendAll_steps (h : s.Restful) :
    ∃ s', Debugger.suspendAll s = .ok () s' ∧ Steps s .suspendAll s' := by
  obtain ⟨m, asked, answered⟩ := WireSession.ask_granted h.quiet (Debuggee.grants_suspendVm _)
  have rest := System.suspendListed_rest { s with session := m }
  have session : { s with session := m }.suspendListed.session = m := (congrArg System.session rest :)
  have settles : System.Settles s ({ s with session := m }.suspendListed.fire .target (.suspend .clientRequest))
      s.session.peer.suspendThreads :=
    { session := session.symm ▸ answered
      unarmed := h.unarmed
      sizes := rfl
      known := fun id => by rw [Debuggee.thread?_suspendThreads, Option.isSome_map]
      reader := (congrArg System.reader rest :)
      shutdown := (congrArg System.shutdown rest :)
      ready := ((congrArg System.ready rest :) : _ = s.ready).trans h.nothing_ready
      registry := (congrArg System.registry rest :)
      size := System.size_suspendListed _
      threads := System.lasting_suspendListed _ }
  refine ⟨_, suspendAll_ok asked, .of_settles h settles (fun t ht => ?_) fun t ht => ?_⟩
  · exact running_suspendListed (s := { s with session := m }) ht
  · exact Debuggee.suspensions_suspendThreads (h.follows t ht).known

theorem resumeAll_steps (h : s.Restful) :
    ∃ s', Debugger.resumeAll s = .ok () s' ∧ Steps s .resumeAll s' := by
  obtain ⟨m, asked, answered⟩ := WireSession.ask_granted h.quiet (Debuggee.grants_resumeVm h.unarmed)
  have rest := System.resumeListed_rest s
  have settles : System.Settles s { s.resumeListed.fire .target (.resume .clientRequest) with session := m }
      s.session.peer.resumeAll.2 :=
    { session := answered
      unarmed := h.unarmed
      sizes := rfl
      known := fun id => by rw [Debuggee.thread?_resumeAll, Option.isSome_map]
      reader := (congrArg System.reader rest :)
      shutdown := (congrArg System.shutdown rest :)
      ready := ((congrArg System.ready rest :) : _ = s.ready).trans h.nothing_ready
      registry := (congrArg System.registry rest :)
      size := System.size_resumeListed _
      threads := System.lasting_resumeListed _ }
  refine ⟨_, resumeAll_ok asked, .of_settles h settles (fun t ht => ?_) fun t ht => ?_⟩
  · exact (thread_resumeListed (h.follows t ht).inRange ht).1
  · exact Debuggee.suspensions_resumeAll (h.follows t ht).known

theorem resume_steps (h : s.Restful) {t : ThreadRef} (ht : t ∈ s.registry) :
    ∃ s', Debugger.resume t s = .ok () s' ∧ Steps s (.resume t) s' := by
  have follows := h.follows t ht
  cases suspended : (s.thread t).isSuspended with
  | false =>
    have unreached (u : ThreadRef) : Control.reaches s u (.resume t) = false := by
      by_cases hu : t = u
      · subst hu
        simp [reaches, suspended]
      · simp [reaches, hu]
    refine ⟨s, resume_of_running suspended, h, rfl, fun {u} _ => ?_, fun {u} _ => ?_⟩ <;> rw [unreached]
    · rfl
    · rfl
  | true =>
    obtain ⟨e, he⟩ := Option.isSome_iff_exists.mp follows.known
    obtain ⟨m, asked, answered⟩ := WireSession.ask_granted h.quiet
      (Debuggee.grants_resumeThread he follows.fits h.unarmed)
    have settles : System.Settles s { s.announceResume t with session := m }
        { s.session.peer.mapThread e.id Debuggee.ThreadEntry.resume with
          threadResumes := s.session.peer.threadResumes + 1 } :=
      { session := answered
        unarmed := h.unarmed
        sizes := rfl
        known := s.session.peer.isSome_mapThread Debuggee.ThreadEntry.id_resume e.id
        reader := rfl
        shutdown := rfl
        ready := h.nothing_ready
        registry := rfl
        size := by simp [System.announceResume, System.fire, System.startRunning, System.preserveFrames]
        threads := fun u => System.startRunning_keeps (g := Thread.lasting) (fun _ => rfl) s t u }
    refine ⟨_, resume_ok suspended asked, .of_settles h settles (fun u hu => ?_) fun u hu => ?_⟩
    · change ((s.startRunning t).thread u).running = _
      rw [System.thread_startRunning]
      by_cases same : t = u
      · subst same
        rw [System.thread_mapThread_self follows.inRange]
        simp [reaches, suspended, suspends, Thread.markStale]
      · rw [System.thread_mapThread_of_ne s same]
        simp [reaches, same, (h.follows u hu).running_eq]
    · refine (Debuggee.id_of_thread? he ▸ h.suspensions_mapThread (g := (· - 1)) Debuggee.ThreadEntry.id_resume
        (fun _ => rfl) ht hu).trans ?_
      by_cases same : t = u
      · subst same
        simp [reaches, suspended, suspends]
      · simp [reaches, same]

theorem suspend_steps (h : s.Restful) {t : ThreadRef} (ht : t ∈ s.registry) :
    ∃ s', Debugger.suspend t s = .ok (some s.watches.size) (s.asking t) ∧
      (∀ fuel, settle (fuel + 1) (s.asking t) = ((), s')) ∧
      s'.outcome? s.watches.size = some (.ok .confirmed) ∧ Steps s (.suspend t) s' := by
  have follows := h.follows t ht
  obtain ⟨e, he⟩ := Option.isSome_iff_exists.mp follows.known
  obtain ⟨m, asked, first⟩ := WireSession.ask_granted h.quiet (Debuggee.grants_suspendThread he follows.fits)
  have he' : (s.session.peer.mapThread e.id Debuggee.ThreadEntry.suspend).thread? (s.thread t).id = some e.suspend := by
    rw [Debuggee.thread?_mapThread Debuggee.ThreadEntry.id_suspend, he]
    simp
  obtain ⟨m', seen, second⟩ := WireSession.threadIsSuspended_granted first.quiet first.peer he'
    ⟨follows.fits.pos, follows.fits.le, follows.fits.lt⟩
  have counted : e.suspend.isSuspended = true := decide_eq_true (Nat.succ_pos _)
  rw [counted] at seen
  have asking := System.asking_of_idle h.nothing_ready t
  have settles : System.Settles s (s.afterSuspend t m') (s.session.peer.mapThread e.id Debuggee.ThreadEntry.suspend) :=
    { session := by
        rw [System.afterSuspend, asking]
        exact first.trans second
      unarmed := h.unarmed
      sizes := rfl
      known := s.session.peer.isSome_mapThread Debuggee.ThreadEntry.id_suspend e.id
      reader := by rw [System.afterSuspend, asking]; rfl
      shutdown := by rw [System.afterSuspend, asking]; rfl
      ready := by rw [System.afterSuspend, asking]; rfl
      registry := by rw [System.afterSuspend, asking]; rfl
      size := by
        rw [System.afterSuspend, asking]
        simp [System.confirmed, System.setWatch, Watch.settle, System.fire, System.stopRunning, System.mapThread]
      threads := fun u => by
        rw [System.thread_afterSuspend h.nothing_ready]
        by_cases same : t = u
        · subst same
          rw [System.thread_mapThread_self follows.inRange]
          exact Thread.lasting_eq.mpr ⟨rfl, rfl, follows.unasked.symm, rfl⟩
        · rw [System.thread_mapThread_of_ne s same] }
  have restful := h.of_settles settles
  refine ⟨_, suspend_ok follows.unstepped follows.unasked,
    settle_asking h.dispatchable h.nothing_ready asked seen restful.isSettled,
    System.outcome?_afterSuspend h.nothing_ready t m', .of_settles h settles (fun u hu => ?_) fun u hu => ?_⟩
  · rw [System.thread_afterSuspend h.nothing_ready]
    by_cases same : t = u
    · subst same
      rw [System.thread_mapThread_self follows.inRange]
      simp [reaches, suspends]
    · rw [System.thread_mapThread_of_ne s same]
      simp [reaches, same, (h.follows u hu).running_eq]
  · rw [Debuggee.id_of_thread? he,
      h.suspensions_mapThread (g := (· + 1)) Debuggee.ThreadEntry.id_suspend (fun _ => rfl) ht hu]
    simp [reaches, suspends]

/-! ### Runs -/

/-- Where all is at rest a call that succeeds does what its kind says. -/
theorem Performs.steps {c : Control} (h : s.Restful) (hc : c.Performs s s') : Steps s c s' := by
  cases hc with
  | @suspend t n s₁ fuel listed called confirmed =>
    obtain ⟨s₂, asked, settled, -, steps⟩ := suspend_steps h listed
    cases asked.symm.trans called
    cases fuel with
    | zero =>
      have unconfirmed := System.outcome?_asking h.nothing_ready t
      exact nomatch unconfirmed.symm.trans confirmed
    | succ fuel =>
      rw [settled fuel]
      exact steps
  | resume fuel listed called =>
    obtain ⟨s₂, resumed, steps⟩ := resume_steps h listed
    cases resumed.symm.trans called
    rw [settle_of_settled steps.restful.isSettled]
    exact steps
  | suspendAll fuel called =>
    obtain ⟨s₂, suspended, steps⟩ := suspendAll_steps h
    cases suspended.symm.trans called
    rw [settle_of_settled steps.restful.isSettled]
    exact steps
  | resumeAll fuel called =>
    obtain ⟨s₂, resumed, steps⟩ := resumeAll_steps h
    cases resumed.symm.trans called
    rw [settle_of_settled steps.restful.isSettled]
    exact steps

/-- Where all is at rest no call fails. -/
theorem exists_performs (h : s.Restful) {c : Control} (listed : ∀ t ∈ c.thread?, t ∈ s.registry) :
    ∃ s', c.Performs s s' ∧ Steps s c s' := by
  cases c with
  | suspend t =>
    obtain ⟨s', called, settled, confirmed, steps⟩ := suspend_steps h (listed t rfl)
    have performs := Performs.suspend 1 (listed t rfl) called (settled 0 ▸ confirmed)
    rw [settled 0] at performs
    exact ⟨s', performs, steps⟩
  | resume t =>
    obtain ⟨s', called, steps⟩ := resume_steps h (listed t rfl)
    exact ⟨s', .resume 0 (listed t rfl) called, steps⟩
  | suspendAll =>
    obtain ⟨s', called, steps⟩ := suspendAll_steps h
    exact ⟨s', .suspendAll 0 called, steps⟩
  | resumeAll =>
    obtain ⟨s', called, steps⟩ := resumeAll_steps h
    exact ⟨s', .resumeAll 0 called, steps⟩

/-- The last call that came to the thread, with the system that it found. -/
def lastReaching (t : ThreadRef) (trace : List (System (WireSession Debuggee) × Control)) :
    Option (System (WireSession Debuggee) × Control) := trace.find? fun call => call.2.reaches call.1 t

/-- The call was no resume that left the debuggee with suspensions of the thread. -/
def Unnested (t : ThreadRef) (call : System (WireSession Debuggee) × Control) : Prop :=
  call.2.suspends ∨ call.1.suspensions t ≤ 1

/-- What holds of a thread after calls. -/
structure Mirrored (trace : List (System (WireSession Debuggee) × Control)) (s : System (WireSession Debuggee))
    (t : ThreadRef) : Prop where
  /-- The debugger never has a thread as suspended that runs. -/
  suspended : (s.thread t).isSuspended → 0 < s.suspensions t
  iff_unnested : s.Mirrors t ↔ ∀ call ∈ lastReaching t trace, Unnested t call

/-- One call more decides anew about the threads that it reaches, and about no other. -/
theorem Mirrored.step {trace : List (System (WireSession Debuggee) × Control)} {c : Control} {t : ThreadRef}
    (h : Mirrored trace s t) (hs : Steps s c s') (ht : t ∈ s.registry) : Mirrored ((s, c) :: trace) s' t := by
  have suspended := hs.suspended ht
  have suspensions := hs.suspensions ht
  cases reached : c.reaches s t with
  | false =>
    simp only [reached] at suspended suspensions
    have passed : lastReaching t ((s, c) :: trace) = lastReaching t trace :=
      List.find?_cons_of_neg (by simp [reached])
    constructor
    · rw [suspended, suspensions]
      exact h.suspended
    · rw [System.Mirrors, suspended, suspensions, passed]
      exact h.iff_unnested
  | true =>
    have last : lastReaching t ((s, c) :: trace) = some (s, c) := List.find?_cons_of_pos (by simp [reached])
    have only_last : (∀ call ∈ lastReaching t ((s, c) :: trace), Unnested t call) ↔
        (c.suspends ∨ s.suspensions t ≤ 1) := by
      rw [last]
      exact ⟨fun h => h _ rfl, fun h _ hm => Option.some.inj hm ▸ h⟩
    simp only [reached, if_true] at suspended suspensions
    cases kind : c.suspends with
    | true =>
      simp only [kind, if_true] at suspended suspensions
      have counted : 0 < s'.suspensions t := by omega
      exact ⟨fun _ => counted,
        iff_of_true (iff_of_true suspended counted) (only_last.mpr (.inl kind))⟩
    | false =>
      simp only [kind, Bool.false_eq_true, if_false] at suspended suspensions
      refine ⟨fun h => absurd (suspended.symm.trans h) Bool.false_ne_true, ?_⟩
      rw [only_last, kind, System.Mirrors, suspended, suspensions]
      simp only [Bool.false_eq_true, false_iff, false_or]
      omega

theorem Runs.mirrored {s₀ : System (WireSession Debuggee)} {trace : List (System (WireSession Debuggee) × Control)}
    (restful : s₀.Restful) (mirrors : ∀ t ∈ s₀.registry, s₀.Mirrors t) (runs : Runs s₀ trace s) :
    s.Restful ∧ ∀ t ∈ s.registry, Mirrored trace s t := by
  induction runs with
  | start =>
    refine ⟨restful, fun t ht => ⟨(mirrors t ht).mp, ?_⟩⟩
    simp [lastReaching, mirrors t ht]
  | call hs hc ih =>
    have steps := hc.steps ih.1
    exact ⟨steps.restful, fun t ht => (ih.2 t (steps.registry ▸ ht)).step steps (steps.registry ▸ ht)⟩

end Control

end Debugger
