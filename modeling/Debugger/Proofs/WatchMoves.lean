import Debugger.Proofs.Controls
import Debugger.Proofs.Errands

/-! # What becomes of suspend requests

A suspend request is seen to by a task of its own, the watch, which is ready or asleep until it has an outcome.  A
thread is marked while it is waited for, so that no second watch comes to it.  Few moves touch a watch: the client asks
for one or cancels it, the watch has its turn, or time passes.
-/

namespace Debugger

variable {σ : Type}

/-- The request has no outcome yet. -/
def WatchState.pending : WatchState → Bool
  | done _ => false
  | _ => true

/-! ## How a request stands -/

/-- How things stand for one suspend request. -/
structure Standing where
  settings : TargetSettings
  now : Nat
  task : Option Watch
  /-- How often its watch waits for a turn. -/
  calls : Nat
  /-- When its watch is to wake up. -/
  alarms : List Nat

def Clock.standing (c : Clock) (n : Nat) : Standing where
  settings := c.settings
  now := c.now
  task := c.watches[n]?
  calls := c.awake.count (.watch n)
  alarms := (c.sleeping.filter (·.2 = .watch n)).map (·.1)

def System.standing (s : System σ) (n : Nat) : Standing where
  settings := s.settings
  now := s.now
  task := s.watches[n]?
  calls := s.ready.count (.watch n)
  alarms := (s.sleeping.filter (·.2 = .watch n)).map (·.1)

theorem standing_clock (s : System σ) (n : Nat) : s.clock.standing n = s.standing n := by
  rw [Clock.standing, System.standing, System.clock]
  dsimp only
  rw [List.count_filter rfl]

theorem standing_of_clock {s s' : System σ} (h : s'.clock = s.clock) (n : Nat) : s'.standing n = s.standing n := by
  rw [← standing_clock, h, standing_clock]

/-! ## What is left alone -/

/-- The threads there were are the same and are waited for as they were, and all suspend requests stand as they did. -/
structure KeepsWatches (s s' : System σ) : Prop where
  size : s.threads.size ≤ s'.threads.size
  suspending (t : ThreadRef) : (s'.thread t).suspending = (s.thread t).suspending
  id {t : ThreadRef} (h : t < s.threads.size) : (s'.thread t).id = (s.thread t).id
  clock : s'.clock = s.clock

instance : IsPreorder (System σ) KeepsWatches where
  refl _ := ⟨Nat.le_refl _, fun _ => rfl, fun _ => rfl, rfl⟩
  trans _ _ _ h h' := ⟨Nat.le_trans h.size h'.size, fun t => (h'.suspending t).trans (h.suspending t),
    fun ht => (h'.id (Nat.lt_of_lt_of_le ht h.size)).trans (h.id ht), h'.clock.trans h.clock⟩

theorem KeepsErrands.watches {s s' : System σ} (h : KeepsErrands s s') : KeepsWatches s s' :=
  ⟨h.size, h.suspending, h.id, congrArg Prod.snd h.errands⟩

/-- An evaluation is no suspend request. -/
theorem EvaluationPath.keepsWatches [Session σ] {s s' : System σ} (h : EvaluationPath s s') : KeepsWatches s s' := by
  induction h with
  | refl => exact refl_of KeepsWatches s
  | @tail s₁ s' _ hc ih =>
    refine trans_of KeepsWatches ih ?_
    cases hc with
    | change hc => exact KeepsErrands.watches (Path.keepsErrands (.single hc))
    | evaluating hc =>
      cases hc with
      | tasks => exact ⟨Nat.le_refl _, fun _ => rfl, fun _ => rfl, rfl⟩
      | mark t e =>
        exact ⟨Nat.le_of_eq (System.size_mapThread s₁ t _).symm,
          System.mapThread_keeps (g := Thread.suspending) (fun _ => by rfl) s₁ t, fun _ =>
          System.id_mapThread (fun _ => by rfl) s₁ t _, rfl⟩

/-! ## What is done to a request -/

namespace System

/-- The request is to be given up. -/
def cancelled (s : System σ) (n : Nat) : System σ :=
  { s with
    watches := s.watches.modify n fun w => { w with cancelled := true }
    sleeping := s.sleeping.filter fun e => e.2 ≠ TaskId.watch n }.wake (.watch n)

/-- The watch sleeps before it looks again. -/
def rested (s : System σ) (n deadline pause : Nat) : System σ :=
  { s.setWatch n (.polling deadline) with sleeping := s.sleeping ++ [(s.now + pause, .watch n)] }

/-- The request has an outcome, and its thread is waited for no more. -/
def concluded (s : System σ) (t : ThreadRef) (n : Nat) (r : Except DebugError SuspendOutcome) : System σ :=
  (Watch.settle t r (s.mapThread t fun th => { th with suspending := false })).setWatch n (.done r)

/-- The watch is about to look at its thread. -/
def Pending (s : System σ) (n : Nat) (w : Watch) : Prop := s.watches[n]? = some w ∧ w.state.pending

end System

section

variable {s : System σ} {n : Nat} {w : Watch}

theorem cancelWatch_pending (h : s.Pending n w) : cancelWatch n s = ((), s.cancelled n) := by
  obtain ⟨task, pending⟩ := h
  rw [cancelWatch, run_get_bind, task]
  obtain ⟨t, state, cancelled⟩ := w
  cases state with
  | done r => cases pending
  | _ => rfl

theorem cancelWatch_idle (h : ∀ w, ¬s.Pending n w) : cancelWatch n s = ((), s) := by
  rw [cancelWatch, run_get_bind]
  rcases task : s.watches[n]? with _ | ⟨t, state, cancelled⟩
  · rfl
  · cases state with
    | done r => rfl
    | _ => exact (h _ ⟨task, rfl⟩).elim

variable [Session σ]

theorem suspend_eq (t : ThreadRef) (s : System σ) :
    suspend t s =
      let s₁ := (abortStep t s).2
      if (s₁.thread t).suspending then .ok none s₁ else .ok (some s₁.watches.size) (s₁.asking t) := by
  have aborted : (act (abortStep t) : Client σ _) s = .ok () (abortStep t s).2 := rfl
  rw [suspend, run_ok_bind aborted, act_get_bind]
  dsimp only
  split
  · rfl
  · rfl

theorem runWatch_idle (h : ∀ w, ¬s.Pending n w) : runWatch n s = ((), s) := by
  rw [runWatch, run_get_bind]
  rcases task : s.watches[n]? with _ | ⟨t, state, cancelled⟩
  · rfl
  · cases state with
    | done r => rfl
    | _ => exact (h _ ⟨task, rfl⟩).elim

theorem runWatch_pending (h : s.Pending n w) :
    runWatch n s =
      let (l, s₁) := Watch.look (s.thread w.thread).id w.cancelled w.state s
      ((), match l with
        | .sleep deadline pause => s₁.rested n deadline pause
        | .over r => s₁.concluded w.thread n r) := by
  obtain ⟨task, pending⟩ := h
  rw [runWatch, run_get_bind, task]
  obtain ⟨t, state, cancelled⟩ := w
  cases state with
  | done r => cases pending
  | asking | polling =>
    dsimp only
    rw [run_get_bind]
    rcases look : Watch.look _ cancelled _ s with ⟨l, s₁⟩
    rw [run_bind look]
    cases l <;> rfl

/-- A system in which the machine was asked and conditions were reported. -/
def System.reported (s : System σ) (m : σ) (noticed : List (ThreadId × Status)) : System σ :=
  { s with session := m, notices := s.notices ++ noticed }

omit [Session σ] in
theorem reported_nil (s : System σ) (m : σ) : { s with session := m } = s.reported m [] := by
  rw [System.reported, List.append_nil]

private theorem poll_reports (id : ThreadId) (deadline : Nat) (s : System σ) (m : σ) :
    ∃ m' noticed, (Watch.poll id deadline { s with session := m }).2 = s.reported m' noticed := by
  obtain ⟨r, asked⟩ := ask_answer (Session.threadIsSuspended id) { s with session := m }
  rw [Watch.poll, run_bind asked]
  cases r with
  | error e => cases e <;> exact ⟨_, [], reported_nil s _⟩
  | ok suspended =>
    cases suspended with
    | true => exact ⟨_, [], reported_nil s _⟩
    | false =>
      dsimp only
      rw [run_get_bind]
      split
      · exact ⟨_, _, rfl⟩
      · exact ⟨_, [], reported_nil s _⟩

/-- A watch that looks asks the machine, and may report what it sees. -/
theorem look_reports (id : ThreadId) (cancelled : Bool) (state : WatchState) (s : System σ) :
    ∃ m noticed, (Watch.look id cancelled state s).2 = s.reported m noticed := by
  have given : s = s.reported s.session [] := reported_nil s s.session
  cases state with
  | done r => exact ⟨_, _, given⟩
  | polling deadline =>
    cases cancelled with
    | true => exact ⟨_, _, given⟩
    | false => exact poll_reports id deadline s s.session
  | asking =>
    cases cancelled with
    | true => exact ⟨_, _, given⟩
    | false =>
      obtain ⟨r, asked⟩ := ask_answer (Session.suspendThread id) s
      rw [Watch.look]
      simp only [Bool.false_eq_true, if_false]
      rw [run_bind asked]
      cases r with
      | error e => cases e <;> exact ⟨_, [], reported_nil s _⟩
      | ok => exact poll_reports id _ s _

/-- The watch goes on, or the request has an outcome. -/
theorem runWatch_cases (h : s.Pending n w) : ∃ m noticed,
    (∃ deadline pause, (runWatch n s).2 = (s.reported m noticed).rested n deadline pause) ∨
    ∃ r, (runWatch n s).2 = (s.reported m noticed).concluded w.thread n r := by
  obtain ⟨m, noticed, reports⟩ := look_reports (s.thread w.thread).id w.cancelled w.state s
  refine ⟨m, noticed, ?_⟩
  rw [runWatch_pending h]
  rcases look : Watch.look (s.thread w.thread).id w.cancelled w.state s with ⟨l, s₁⟩
  rw [look] at reports
  obtain rfl : s₁ = s.reported m noticed := reports
  cases l with
  | sleep deadline pause => exact .inl ⟨deadline, pause, rfl⟩
  | «over» r => exact .inr ⟨r, rfl⟩

end

/-! ## How requests stand afterwards -/

namespace System

variable (s : System σ) {n k : Nat}

theorem count_wake (task other : TaskId) :
    (s.wake task).ready.count other =
      if task = other then max (s.ready.count other) 1 else s.ready.count other := by
  rw [wake]
  by_cases same : task = other
  · subst same
    rw [if_pos rfl]
    split
    · rename_i there
      have := List.count_pos_iff.mpr (List.contains_iff_mem.mp there)
      omega
    · rename_i absent
      rw [List.count_append, List.count_eq_zero_of_not_mem fun h => absent (List.contains_iff_mem.mpr h)]
      simp
  · rw [if_neg same]
    split
    · rfl
    · simp [List.count_append, same]

theorem standing_reported (m : σ) (noticed : List (ThreadId × Status)) (n : Nat) :
    (s.reported m noticed).standing n = s.standing n := rfl

theorem standing_rested (deadline pause : Nat) :
    (s.rested k deadline pause).standing n =
      if n = k then { s.standing n with
        task := s.watches[n]?.map ({ · with state := .polling deadline })
        alarms := (s.standing n).alarms ++ [s.now + pause] }
      else s.standing n := by
  by_cases own : n = k
  · subst own
    simp [standing, rested, setWatch, Array.getElem?_modify, List.filter_append]
  · simp [standing, rested, setWatch, Array.getElem?_modify, List.filter_append, Ne.symm own, own]

theorem clock_settle (t : ThreadRef) (r : Except DebugError SuspendOutcome) :
    (Watch.settle t r s).clock = s.clock := by
  unfold Watch.settle
  split
  · rfl
  · rfl
  · exact (congrArg System.clock (System.bury_rest s t) :)
  · rfl

theorem standing_concluded (t : ThreadRef) (r : Except DebugError SuspendOutcome) :
    (s.concluded t k r).standing n =
      if n = k then { s.standing n with task := s.watches[n]?.map ({ · with state := .done r }) }
      else s.standing n := by
  have kept (n : Nat) : (Watch.settle t r (s.mapThread t fun th => { th with suspending := false })).standing n =
      s.standing n := standing_of_clock (clock_settle _ t r) n
  have watches : (Watch.settle t r (s.mapThread t fun th => { th with suspending := false })).watches = s.watches :=
    congrArg Clock.watches (clock_settle _ t r)
  rw [concluded]
  generalize Watch.settle t r _ = s' at kept watches
  rw [← kept, ← watches]
  by_cases own : n = k
  · subst own
    simp [standing, setWatch, Array.getElem?_modify]
  · simp [standing, setWatch, Array.getElem?_modify, Ne.symm own, own]

theorem standing_wake (task : TaskId) :
    (s.wake task).standing n =
      if task = .watch n then { s.standing n with calls := max (s.standing n).calls 1 } else s.standing n := by
  have count := s.count_wake task (.watch n)
  have rest : (s.wake task).standing n = { s.standing n with calls := (s.wake task).ready.count (.watch n) } := by
    rw [wake]
    split <;> rfl
  rw [rest, count]
  split <;> rfl

theorem standing_cancelled :
    (s.cancelled k).standing n =
      if n = k then { s.standing n with
        task := s.watches[n]?.map ({ · with cancelled := true })
        calls := max (s.standing n).calls 1
        alarms := [] }
      else s.standing n := by
  rw [cancelled, standing_wake]
  by_cases own : n = k
  · subst own
    simp [standing, Array.getElem?_modify, List.filter_filter]
  · have others : s.sleeping.filter (fun e => e.2 = .watch n ∧ e.2 ≠ .watch k) =
        s.sleeping.filter (·.2 = .watch n) := by
      refine List.filter_congr fun e _ => ?_
      by_cases same : e.2 = .watch n
      · simp [same, own]
      · simp [same]
    simp only [Bool.decide_and, decide_not] at others
    simp [standing, Array.getElem?_modify, List.filter_filter, Ne.symm own, own, others]

theorem standing_asking (t : ThreadRef) :
    (s.asking t).standing n =
      if n = s.watches.size then { s.standing n with
        task := some ⟨t, .asking, false⟩
        calls := max (s.standing n).calls 1 }
      else s.standing n := by
  rw [asking, standing_wake]
  by_cases own : n = s.watches.size
  · subst own
    simp [standing, mapThread]
  · simp [standing, mapThread, Array.getElem?_push, own, Ne.symm own]

theorem calls_of_ready [Session σ] {task : TaskId} {rest : List TaskId}
    (ready : s.wakeDispatcher.ready = task :: rest) : (s.standing n).calls = (task :: rest).count (.watch n) := by
  rw [← standing_of_clock (clock_wakeDispatcher s) n, standing, ready]

/-- A watch that has its turn waits for it no more. -/
theorem standing_dequeued [Session σ] {task : TaskId} {rest : List TaskId}
    (ready : s.wakeDispatcher.ready = task :: rest) :
    { s with ready := rest }.standing n =
      if task = .watch n then { s.standing n with calls := (s.standing n).calls - 1 } else s.standing n := by
  have count : (s.standing n).calls = (task :: rest).count (.watch n) := s.calls_of_ready ready
  have left : { s with ready := rest }.standing n = { s.standing n with calls := rest.count (.watch n) } := rfl
  rw [left]
  split
  · rename_i own
    rw [count, own, List.count_cons_self, Nat.add_sub_cancel]
  · rename_i other
    rw [← List.count_cons_of_ne other, ← count]

private theorem standing_wakeAll (due : List (Nat × TaskId)) :
    (due.foldl (fun s e => s.wake e.2) s).standing n =
      { s.standing n with
        calls := if due.any (·.2 = .watch n) then max (s.standing n).calls 1 else (s.standing n).calls } := by
  induction due generalizing s with
  | nil => rfl
  | cons e due ih =>
    rw [List.foldl_cons, ih, standing_wake]
    by_cases own : e.2 = .watch n
    · simp [own]
    · rw [if_neg own, List.any_cons, decide_eq_false own, Bool.false_or]

theorem standing_passTime (time : Nat) :
    (s.passTime time).standing n =
      { s.standing n with
        now := time
        calls := if (s.standing n).alarms.any (· ≤ time) then max (s.standing n).calls 1 else (s.standing n).calls
        alarms := (s.standing n).alarms.filter (time < ·) } := by
  rw [passTime, List.partition_eq_filter_filter]
  dsimp only
  rw [standing_wakeAll]
  have due : (s.sleeping.filter (·.1 ≤ time)).any (·.2 = .watch n) = (s.standing n).alarms.any (· ≤ time) := by
    simp [standing, List.any_filter, List.any_map, Bool.and_comm]
  have later (e : Nat × TaskId) : (!decide (e.1 ≤ time)) = decide (time < e.1) := by
    rw [← decide_not, decide_eq_decide]
    exact Nat.not_le
  rw [due]
  simp [standing, List.filter_filter, List.filter_map, Function.comp_def, Bool.and_comm, later]

/-! ### Threads that are waited for -/

theorem threads_wake (task : TaskId) : (s.wake task).threads = s.threads := congrArg Core.threads (core_wake s task)

theorem threads_asking (t : ThreadRef) :
    (s.asking t).threads = (s.mapThread t fun th => { th with suspending := true }).threads := threads_wake _ _

theorem suspending_asking {t : ThreadRef} (known : t < s.threads.size) (u : ThreadRef) :
    ((s.asking t).thread u).suspending = (decide (u = t) || (s.thread u).suspending) := by
  rw [thread_congr (s.threads_asking t), thread_mapThread]
  by_cases own : u = t
  · subst own
    simp [known]
  · simp [own, Ne.symm own]

theorem settle_marks (t : ThreadRef) (r : Except DebugError SuspendOutcome) : SameMarks s (Watch.settle t r s) := by
  have stopped : SameMarks s ((s.stopRunning t).fire (s.element t) (.suspend .clientRequest)) :=
    (SameMarks.setRunning s t false).aside rfl
  unfold Watch.settle
  split
  · exact stopped
  · exact stopped
  · exact .bury s t
  · exact refl_of SameMarks s

theorem suspending_concluded (t : ThreadRef) (r : Except DebugError SuspendOutcome) (u : ThreadRef) :
    ((s.concluded t k r).thread u).suspending = (decide (u ≠ t) && (s.thread u).suspending) := by
  refine ((settle_marks _ t r).suspending u).trans ?_
  rw [thread_mapThread]
  by_cases own : u = t
  · subst own
    by_cases known : u < s.threads.size
    · simp [known]
    · rw [thread_of_size_le (Nat.le_of_not_lt known)]
      simp [known]
      rfl
  · simp [own, Ne.symm own]

theorem size_concluded (t : ThreadRef) (r : Except DebugError SuspendOutcome) :
    s.threads.size ≤ (s.concluded t k r).threads.size :=
  Nat.le_trans (Nat.le_of_eq (size_mapThread s t _).symm) (settle_marks _ t r).size

theorem id_concluded (t : ThreadRef) (r : Except DebugError SuspendOutcome) {u : ThreadRef}
    (known : u < s.threads.size) : ((s.concluded t k r).thread u).id = (s.thread u).id :=
  ((settle_marks _ t r).id (Nat.lt_of_lt_of_eq known (size_mapThread s t _).symm)).trans
    (id_mapThread (fun _ => by rfl) s t u)

end System

/-! ## One watch for a thread -/

/-- Whose request it is, and whether it waits for an outcome. -/
def Standing.brief (c : Standing) : Option (ThreadRef × Bool) := c.task.map fun w => (w.thread, w.state.pending)

theorem System.Pending.brief {s : System σ} {n : Nat} {w : Watch} (h : s.Pending n w) :
    (s.standing n).brief = some (w.thread, true) :=
  (congrArg (Option.map _) h.1).trans (congrArg (fun b => some (w.thread, b)) h.2)

/-- A thread is marked while a watch waits for it, which is the only one that does. -/
structure System.Watched (s : System σ) : Prop where
  known {n : Nat} {t : ThreadRef} {pending : Bool} (h : (s.standing n).brief = some (t, pending)) :
    t < s.threads.size
  marked (t : ThreadRef) : (s.thread t).suspending ↔ ∃ n, (s.standing n).brief = some (t, true)
  alone {n k : Nat} {t : ThreadRef} (h : (s.standing n).brief = some (t, true))
    (h' : (s.standing k).brief = some (t, true)) : n = k
  fresh {n : Nat} (h : (s.standing n).brief = none) : (s.standing n).calls = 0 ∧ (s.standing n).alarms = []

namespace System.Watched

variable {s s' : System σ} {n : Nat} {t : ThreadRef}

theorem carry (hs : s.Watched) (size : s.threads.size ≤ s'.threads.size)
    (suspending : ∀ t, (s'.thread t).suspending = (s.thread t).suspending)
    (brief : ∀ n, (s'.standing n).brief = (s.standing n).brief)
    (fresh : ∀ n, (s.standing n).brief = none → (s.standing n).calls = 0 ∧ (s.standing n).alarms = [] →
      (s'.standing n).calls = 0 ∧ (s'.standing n).alarms = []) : s'.Watched where
  known h := Nat.lt_of_lt_of_le (hs.known (brief _ ▸ h)) size
  marked t := by
    rw [suspending, hs.marked]
    exact exists_congr fun n => by rw [brief]
  alone h h' := hs.alone (brief _ ▸ h) (brief _ ▸ h')
  fresh {n} h := by
    have absent := brief n ▸ h
    exact fresh n absent (hs.fresh absent)

theorem keeps (hs : s.Watched) (h : KeepsWatches s s') : s'.Watched := by
  have same (n : Nat) : s'.standing n = s.standing n := standing_of_clock h.clock n
  refine hs.carry h.size h.suspending (fun n => by rw [same]) fun n _ fresh => ?_
  rw [same]
  exact fresh

theorem asking (hs : s.Watched) (known : t < s.threads.size) (free : (s.thread t).suspending = false) :
    (s.asking t).Watched := by
  have brief (n : Nat) :
      ((s.asking t).standing n).brief = if n = s.watches.size then some (t, true) else (s.standing n).brief := by
    rw [System.standing_asking]
    split <;> rfl
  have old {n : Nat} {b : ThreadRef × Bool} (h : (s.standing n).brief = some b) : n ≠ s.watches.size := by
    rintro rfl
    simp [Standing.brief, System.standing] at h
  have idle {n : Nat} : (s.standing n).brief ≠ some (t, true) := fun waits =>
    Bool.eq_false_iff.mp free ((hs.marked t).mpr ⟨n, waits⟩)
  have size : (s.asking t).threads.size = s.threads.size := by
    rw [System.threads_asking, System.size_mapThread]
  refine ⟨fun {n u pending} h => ?_, fun u => ?_, fun {n k u} h h' => ?_, fun {n} h => ?_⟩
  · rw [size]
    rw [brief] at h
    split at h
    · cases h
      exact known
    · exact hs.known h
  · rw [System.suspending_asking s known, Bool.or_eq_true, decide_eq_true_iff, hs.marked]
    constructor
    · rintro (rfl | ⟨n, waits⟩)
      · exact ⟨s.watches.size, by rw [brief, if_pos rfl]⟩
      · exact ⟨n, by rw [brief, if_neg (old waits), waits]⟩
    · rintro ⟨n, waits⟩
      rw [brief] at waits
      split at waits
      · cases waits
        exact .inl rfl
      · exact .inr ⟨n, waits⟩
  · rw [brief] at h h'
    split at h
    · rename_i own
      cases h
      split at h'
      · rename_i own'
        exact own.trans own'.symm
      · exact (idle h').elim
    · split at h'
      · cases h'
        exact (idle h).elim
      · exact hs.alone h h'
  · rw [brief] at h
    split at h
    · cases h
    · rename_i other
      rw [System.standing_asking, if_neg other]
      exact hs.fresh h

theorem concluded (hs : s.Watched) (waits : (s.standing n).brief = some (t, true))
    (r : Except DebugError SuspendOutcome) : (s.concluded t n r).Watched := by
  have brief (k : Nat) :
      ((s.concluded t n r).standing k).brief = if k = n then some (t, false) else (s.standing k).brief := by
    rw [System.standing_concluded]
    split
    · rename_i own
      subst own
      obtain ⟨task, there, same⟩ := Option.map_eq_some_iff.mp waits
      rw [Standing.brief, show s.watches[k]? = some task from there]
      exact congrArg (fun b : ThreadRef × Bool => some (b.1, false)) same
    · rfl
  -- no other watch waits for the thread
  have rest {k : Nat} {u : ThreadRef} :
      ((s.concluded t n r).standing k).brief = some (u, true) ↔ u ≠ t ∧ (s.standing k).brief = some (u, true) := by
    rw [brief]
    split
    · rename_i own
      subst own
      rw [waits]
      simp [eq_comm]
    · rename_i other
      refine ⟨fun h => ⟨?_, h⟩, And.right⟩
      rintro rfl
      exact other (hs.alone h waits)
  refine ⟨fun {k u pending} h => Nat.lt_of_lt_of_le ?_ (s.size_concluded t r), fun u => ?_, fun h h' => ?_,
    fun {k} h => ?_⟩
  · rw [brief] at h
    split at h
    · cases h
      exact hs.known waits
    · exact hs.known h
  · rw [System.suspending_concluded, Bool.and_eq_true, decide_eq_true_iff, hs.marked]
    simp only [rest, exists_and_left]
  · exact hs.alone (rest.mp h).2 (rest.mp h').2
  · rw [brief] at h
    split at h
    · cases h
    · rename_i other
      rw [System.standing_concluded, if_neg other]
      exact hs.fresh h

/-- What is done to a request that waits does not touch the others, and it waits all the same. -/
private theorem attended (hs : s.Watched) (waits : (s.standing n).brief = some (t, true))
    (threads : s'.threads = s.threads)
    (own : (s'.standing n).brief = (s.standing n).brief)
    (others : ∀ k, k ≠ n → s'.standing k = s.standing k) : s'.Watched := by
  refine hs.carry (Nat.le_of_eq (by rw [threads])) (fun u => by rw [System.thread_congr threads]) (fun k => ?_)
    fun k absent fresh => ?_
  · by_cases same : k = n
    · rw [same, own]
    · rw [others k same]
  · rw [others k]
    · exact fresh
    · rintro rfl
      rw [waits] at absent
      cases absent

theorem cancelled (hs : s.Watched) (waits : (s.standing n).brief = some (t, true)) : (s.cancelled n).Watched := by
  refine hs.attended waits (System.threads_wake _ _) ?_ fun k other => ?_
  · rw [System.standing_cancelled, if_pos rfl, Standing.brief, Standing.brief, Option.map_map]
    rfl
  · rw [System.standing_cancelled, if_neg other]

theorem rested (hs : s.Watched) (waits : (s.standing n).brief = some (t, true)) (deadline pause : Nat) :
    (s.rested n deadline pause).Watched := by
  refine hs.attended waits rfl ?_ fun k other => ?_
  · obtain ⟨task, there, same⟩ := Option.map_eq_some_iff.mp waits
    rw [System.standing_rested, if_pos rfl, waits, Standing.brief, show s.watches[n]? = some task from there]
    exact congrArg (fun b : ThreadRef × Bool => some (b.1, true)) same
  · rw [System.standing_rested, if_neg other]

theorem dequeued [Session σ] (hs : s.Watched) {rest : List TaskId} (ready : s.wakeDispatcher.ready = .watch n :: rest) :
    { s with ready := rest }.Watched := by
  refine hs.carry (Nat.le_refl _) (fun _ => rfl) (fun k => ?_) fun k _ fresh => ?_
  · rw [System.standing_dequeued s ready]
    split <;> rfl
  · rw [System.standing_dequeued s ready]
    split
    · exact ⟨by simp [fresh.1], fresh.2⟩
    · exact fresh

theorem passTime (hs : s.Watched) (time : Nat) : (s.passTime time).Watched := by
  have threads : (s.passTime time).threads = s.threads := congrArg Core.threads (core_passTime s time)
  refine hs.carry (Nat.le_of_eq (by rw [threads])) (fun u => by rw [System.thread_congr threads]) (fun k => ?_)
    fun k _ fresh => ?_
  · rw [System.standing_passTime]
    rfl
  · rw [System.standing_passTime]
    simp [fresh]

end System.Watched

end Debugger
