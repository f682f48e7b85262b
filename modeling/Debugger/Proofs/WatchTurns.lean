import Debugger.Proofs.WatchMoves
import Mathlib.Algebra.Order.Group.Nat
import Mathlib.Data.List.Infix

/-! # What a watch sees, and when it looks

A watch asks for its thread to be suspended and looks at once whether it is.  If not, it looks again at a steady pace,
and one last time when its time is up, which need not be at a multiple of the pace.
-/

namespace Debugger

variable {σ : Type}

/-! ## When a watch looks -/

namespace TargetSettings

variable {c : TargetSettings} {x : Nat}

/-- The milliseconds from one look of a watch to the next. -/
def pace (c : TargetSettings) : Nat := max c.suspendPoll 1

/-- The multiples of the pace before `x`. -/
def looksBefore (c : TargetSettings) (x : Nat) : List Nat := (List.range x).filter (c.pace ∣ ·)

/-- When a watch looks that never finds its thread suspended, from the request on: at the multiples of the pace before
its time is up, and when it is. -/
def lookTimes (c : TargetSettings) : List Nat := c.looksBefore c.suspendTimeout ++ [c.suspendTimeout]

theorem one_le_pace (c : TargetSettings) : 1 ≤ c.pace := Nat.le_max_right _ _

theorem mem_looksBefore {y : Nat} : y ∈ c.looksBefore x ↔ y < x ∧ c.pace ∣ y := by simp [looksBefore]

theorem mem_lookTimes : x ∈ c.lookTimes ↔ x < c.suspendTimeout ∧ c.pace ∣ x ∨ x = c.suspendTimeout := by
  rw [lookTimes, List.mem_append, mem_looksBefore, List.mem_singleton]

theorem zero_mem_lookTimes (c : TargetSettings) : 0 ∈ c.lookTimes := by
  rw [mem_lookTimes]
  rcases Nat.eq_zero_or_pos c.suspendTimeout with h | h
  · exact .inr h.symm
  · exact .inl ⟨h, Nat.dvd_zero _⟩

theorem le_of_mem_lookTimes (h : x ∈ c.lookTimes) : x ≤ c.suspendTimeout := by
  rcases mem_lookTimes.mp h with ⟨h, -⟩ | h
  · exact Nat.le_of_lt h
  · exact Nat.le_of_eq h

theorem looksBefore_succ (c : TargetSettings) (x : Nat) :
    c.looksBefore (x + 1) = c.looksBefore x ++ if c.pace ∣ x then [x] else [] := by
  rw [looksBefore, List.range_succ, List.filter_append, List.filter_singleton, looksBefore]
  by_cases h : c.pace ∣ x <;> simp [h]

/-- The looks come in this order. -/
theorem looksBefore_prefix (h : x ∈ c.lookTimes) : c.looksBefore x ++ [x] <+: c.lookTimes := by
  rcases mem_lookTimes.mp h with ⟨early, multiple⟩ | rfl
  · have upto : c.looksBefore (x + 1) = c.looksBefore x ++ [x] := by rw [looksBefore_succ, if_pos multiple]
    have before : List.range (x + 1) <+: List.range c.suspendTimeout := by
      rw [List.prefix_iff_eq_take, List.length_range, List.take_range, Nat.min_eq_left early]
    rw [← upto]
    exact (before.filter _).trans (List.prefix_append _ _)
  · exact List.prefix_refl _

/-- The look after one that finds the thread running. -/
theorem next_mem_lookTimes (h : x ∈ c.lookTimes) (early : x < c.suspendTimeout) :
    x + min c.pace (c.suspendTimeout - x) ∈ c.lookTimes := by
  rcases mem_lookTimes.mp h with ⟨-, multiple⟩ | last
  · rw [mem_lookTimes]
    rcases Nat.lt_or_ge (x + c.pace) c.suspendTimeout with another | last
    · rw [Nat.min_eq_left (by omega)]
      exact .inl ⟨another, Nat.dvd_add multiple (Nat.dvd_refl _)⟩
    · rw [Nat.min_eq_right (by omega)]
      exact .inr (by omega)
  · omega

/-- There is no look between the two. -/
theorem looksBefore_next (h : x ∈ c.lookTimes) (early : x < c.suspendTimeout) :
    c.looksBefore (x + min c.pace (c.suspendTimeout - x)) = c.looksBefore x ++ [x] := by
  have multiple : c.pace ∣ x := (mem_lookTimes.mp h).elim And.right fun last => by omega
  have upto (d : Nat) (within : d < c.pace) : c.looksBefore (x + d + 1) = c.looksBefore x ++ [x] := by
    induction d with
    | zero => rw [Nat.add_zero, looksBefore_succ, if_pos multiple]
    | succ d ih =>
      have between : ¬ c.pace ∣ x + (d + 1) := fun h =>
        absurd (Nat.le_of_dvd (Nat.succ_pos d) ((Nat.dvd_add_right multiple).mp h)) (Nat.not_le.mpr within)
      rw [looksBefore_succ, if_neg between, List.append_nil]
      exact ih (Nat.lt_of_succ_lt within)
  have pace := c.one_le_pace
  rw [← upto (min c.pace (c.suspendTimeout - x) - 1) (by omega)]
  congr 1
  omega

end TargetSettings

/-! ## What a watch sees -/

/-- The condition that is reported when the machine never says that a thread is suspended. -/
def TargetSettings.lateStatus (c : TargetSettings) : Status :=
  ⟨.suspendTimeout, "thread did not suspend within " ++ toString c.suspendTimeout ++ " ms"⟩

/-- When the time of a watch is up. -/
def System.deadline (s : System σ) : WatchState → Nat
  | .polling deadline => deadline
  | _ => s.now + s.settings.suspendTimeout

section

variable [Session σ]

/-- How the machine is when a watch looks at its thread: one that has not asked for the suspension does so first. -/
inductive System.Asked (s : System σ) (w : Watch) : σ → Prop
  | first {m : σ} (state : w.state = .asking)
    (h : Session.suspendThread (s.thread w.thread).id s.session = .ok () m) : s.Asked w m
  | before {deadline : Nat} (state : w.state = .polling deadline) : s.Asked w s.session

/-- What a watch that has its turn hears from the machine: whether the thread is suspended, or nothing if it need not
know. -/
inductive System.Hears (s : System σ) (n : Nat) : Option Bool → Prop
  | nothing (idle : ∀ w, s.Pending n w → w.cancelled) : s.Hears n none
  | answer {w : Watch} {m m' : σ} {suspended : Bool} (pending : s.Pending n w) (wanted : w.cancelled = false)
    (asked : s.Asked w m) (answers : Session.threadIsSuspended (s.thread w.thread).id m = .ok suspended m') :
    s.Hears n (some suspended)

variable {s : System σ} {n : Nat} {w : Watch} {m m' : σ} {suspended : Bool}

theorem Watch.poll_answered {id : ThreadId} (answers : Session.threadIsSuspended id s.session = .ok suspended m')
    (deadline : Nat) : Watch.poll id deadline s =
      if suspended then (.over (.ok .confirmed), s.reported m' [])
      else if deadline ≤ s.now then (.over (.ok .timedOut), s.reported m' [(id, s.settings.lateStatus)])
      else (.sleep deadline (min s.settings.pace (deadline - s.now)), s.reported m' []) := by
  rw [Watch.poll, run_ask_ok answers, ← reported_nil]
  cases suspended with
  | true => rfl
  | false =>
    dsimp only
    rw [run_get_bind, if_neg Bool.false_ne_true]
    by_cases late : deadline ≤ s.now
    · rw [if_pos late, if_pos late]
      rfl
    · rw [if_neg late, if_neg late]
      rfl

/-- A watch whose request was cancelled does not look. -/
theorem runWatch_cancelled (h : s.Pending n w) (given : w.cancelled) :
    runWatch n s = ((), s.concluded w.thread n (.error (.refused .cancelled "suspend cancelled"))) := by
  have given_up : Watch.look (s.thread w.thread).id true w.state s =
      (.over (.error (.refused .cancelled "suspend cancelled")), s) := by
    have pending := h.2
    cases state : w.state with
    | done r =>
      rw [state] at pending
      cases pending
    | _ => rfl
  rw [runWatch_pending h, given, given_up]

theorem runWatch_answered (h : s.Pending n w) (wanted : w.cancelled = false) (asked : s.Asked w m)
    (answers : Session.threadIsSuspended (s.thread w.thread).id m = .ok suspended m') :
    runWatch n s = ((),
      if suspended then (s.reported m' []).concluded w.thread n (.ok .confirmed)
      else if s.deadline w.state ≤ s.now then
        (s.reported m' [((s.thread w.thread).id, s.settings.lateStatus)]).concluded w.thread n (.ok .timedOut)
      else (s.reported m' []).rested n (s.deadline w.state) (min s.settings.pace (s.deadline w.state - s.now))) := by
  have looked : Watch.look (s.thread w.thread).id w.cancelled w.state s =
      Watch.poll (s.thread w.thread).id (s.deadline w.state) { s with session := m } := by
    rw [wanted]
    cases asked with
    | first state h =>
      rw [state, Watch.look]
      simp only [Bool.false_eq_true, if_false]
      rw [run_ask_ok h]
      rfl
    | before state =>
      rw [state]
      rfl
  rw [runWatch_pending h, looked, Watch.poll_answered (s := { s with session := m }) answers]
  cases suspended with
  | true => rfl
  | false =>
    by_cases late : s.deadline w.state ≤ s.now
    · simp [late, System.reported]
    · simp [late, System.reported]

end

/-! ## What an outcome means for the thread -/

namespace System

variable (s : System σ) (t : ThreadRef) (n : Nat)

/-- The thread counts as suspended, which is announced once. -/
theorem concluded_suspended {r : SuspendOutcome} (h : r ≠ .disconnected) :
    (s.concluded t n (.ok r)).bus.published = s.bus.published ++ [⟨s.element t, .suspend, .clientRequest⟩] ∧
      ((s.thread t).terminated = false → ((s.concluded t n (.ok r)).thread t).isSuspended) := by
  let s₁ := s.mapThread t fun th => { th with suspending := false }
  have stopped : Watch.settle t (.ok r) s₁ = (s₁.stopRunning t).fire (s₁.element t) (.suspend .clientRequest) := by
    cases r with
    | disconnected => exact (h rfl).elim
    | _ => rfl
  have same : s₁.element t = s.element t := congrArg Element.thread (id_mapThread (fun _ => by rfl) s t t)
  rw [concluded, stopped, same]
  refine ⟨Bus.published_fire _ _, fun alive => ?_⟩
  have alive₁ : (s₁.thread t).terminated = false :=
    (mapThread_keeps (g := Thread.terminated) (fun _ => by rfl) s t t).trans alive
  have known : t < s₁.threads.size := by
    by_contra absent
    rw [thread_of_size_le (Nat.le_of_not_lt absent)] at alive₁
    cases alive₁
  change ((s₁.mapThread t (·.setRunning false)).thread t).isSuspended
  rw [thread_mapThread, if_pos ⟨rfl, known⟩, Thread.isSuspended]
  exact (congrArg (! ·) alive₁ :)

/-- A request that fails leaves the thread as it runs, and nothing is said. -/
theorem concluded_failed (e : DebugError) :
    (s.concluded t n (.error e)).bus = s.bus ∧
      ∀ u, ((s.concluded t n (.error e)).thread u).running = (s.thread u).running :=
  ⟨rfl, mapThread_keeps (g := Thread.running) (fun _ => by rfl) s t⟩

theorem notices_concluded (r : Except DebugError SuspendOutcome) : (s.concluded t n r).notices = s.notices :=
  (congrArg Clock.notices (clock_settle (s.mapThread t fun th => { th with suspending := false }) t r) :)

end System

end Debugger
