import Debugger.Proofs.MachineSurroundings
import Debugger.Proofs.WatchTurns

/-! # A suspend request ends in time

While time passes only when there is nothing else to do, and the calls to the machine succeed, a watch looks exactly
when it should.  The request ends with the first look that finds the thread suspended, or with the last one, or when
the client cancels it; either way the next request for the thread is accepted.
-/

namespace Debugger

variable {σ : Type}

/-! ## Runs -/

/-- What there is to tell of a suspend request. -/
structure RequestLog where
  /-- When the client asked. -/
  since : Nat := 0
  /-- When its watch looked, and whether the machine said that the thread is suspended. -/
  looks : List (Nat × Bool) := []
  /-- What its watch has published. -/
  said : List DebugEvent := []
  /-- What its watch has reported beside. -/
  noticed : List (ThreadId × Status) := []
  deriving DecidableEq

/-- The watch has had a turn. -/
def RequestLog.turn (log : RequestLog) (now : Nat) (answer : Option Bool) (said : List DebugEvent)
    (noticed : List (ThreadId × Status)) : RequestLog where
  since := log.since
  looks := log.looks ++ (answer.map (now, ·)).toList
  said := log.said ++ said
  noticed := log.noticed ++ noticed

section

variable [Session σ]

/-- A move, and what it adds to the log of a request. -/
inductive RequestTurn (w : Surroundings σ) (n : Nat) (s : System σ) (log : RequestLog) :
    System σ → RequestLog → Prop
  | asked {t : ThreadRef} {s' : System σ} (known : t < s.threads.size) (h : suspend t s = .ok (some n) s') :
    RequestTurn w n s log s' { log with since := s.now }
  /-- The watch has its turn, and the machine grants what it asks for. -/
  | watch {answer : Option Bool} {said : List DebugEvent} {noticed : List (ThreadId × Status)}
    (turn : s.turn? = some (.watch n)) (hears : s.Hears n answer)
    (published : (runNext s).2.bus.published = s.bus.published ++ said)
    (reported : (runNext s).2.notices = s.notices ++ noticed) :
    RequestTurn w n s log (runNext s).2 (log.turn s.now answer said noticed)
  | operation {o : Operation} (known : o.Known s) (other : ∀ t s', o = .suspend t → suspend t s ≠ .ok (some n) s') :
    RequestTurn w n s log (o.perform s) log
  | run (turn : s.turn? ≠ some (.watch n)) : RequestTurn w n s log (runNext s).2 log
  /-- Time passes only when nothing else can be done, and not beyond the next waking. -/
  | wait {time : Nat} (settled : s.isSettled) (later : s.now ≤ time) (next : ∀ e ∈ s.sleeping, time ≤ e.1) :
    RequestTurn w n s log (s.passTime time) log
  | letIn : RequestTurn w n s log (letInHeld s).2 log
  | machine {m : σ} (h : w.acts s.session m) : RequestTurn w n s log { s with session := m } log
  | fire {e : DebugEvent} (h : w.publishes e) : RequestTurn w n s log { s with bus := s.bus.fire e } log
  | queue {e : DebugEvent} (h : w.publishes e) : RequestTurn w n s log { s with bus := s.bus.queue e } log

/-- A run from an attachment on, and what there is to tell of a suspend request then. -/
inductive RequestRun (w : Surroundings σ) (n : Nat) : System σ → RequestLog → Prop
  | attach {m : σ} {settings : TargetSettings} {s : System σ} (start : w.starts m) (h : attach m settings = .ok s) :
    RequestRun w n s {}
  | turn {s s' : System σ} {log log' : RequestLog} (hs : RequestRun w n s log) (h : RequestTurn w n s log s' log') :
    RequestRun w n s' log'

end

/-! ## How far a watch has come -/

/-- Looks so many milliseconds after the request, all of which found the thread running. -/
def RequestLog.inVain (log : RequestLog) (times : List Nat) : List (Nat × Bool) :=
  times.map fun x => (log.since + x, false)

/-- How a request for a thread of that number ended, cancelled or not. -/
inductive RequestLog.Ended (log : RequestLog) (c : TargetSettings) (id : ThreadId) :
    Bool → Except DebugError SuspendOutcome → Prop
  /-- The last look was the first to find the thread suspended. -/
  | confirmed {times : List Nat} {x : Nat} (looks : log.looks = log.inVain times ++ [(log.since + x, true)])
    (due : times ++ [x] <+: c.lookTimes) (said : log.said = [⟨.thread id, .suspend, .clientRequest⟩])
    (noticed : log.noticed = []) : log.Ended c id false (.ok .confirmed)
  | timedOut (looks : log.looks = log.inVain c.lookTimes)
    (said : log.said = [⟨.thread id, .suspend, .clientRequest⟩]) (noticed : log.noticed = [(id, c.lateStatus)]) :
    log.Ended c id false (.ok .timedOut)
  | cancelled {times : List Nat} (looks : log.looks = log.inVain times) (due : times <+: c.lookTimes)
    (said : log.said = []) (noticed : log.noticed = []) :
    log.Ended c id true (.error (.refused .cancelled "suspend cancelled"))

/-- The watch has found the thread running as often as it looked, and its next look is due `x` milliseconds after the
request. -/
structure Standing.Awaits (c : Standing) (log : RequestLog) (w : Watch) (x : Nat) : Prop where
  task : c.task = some w
  state : w.state = .asking ∧ x = 0 ∨ w.state = .polling (log.since + c.settings.suspendTimeout)
  looks : log.looks = log.inVain (c.settings.looksBefore x)
  next : x ∈ c.settings.lookTimes
  said : log.said = []
  noticed : log.noticed = []

/-- How far the watch of a request has come. -/
inductive System.Tracks (s : System σ) (n : Nat) (log : RequestLog) : Prop
  | absent (task : (s.standing n).task = none) (looks : log.looks = []) (said : log.said = [])
    (noticed : log.noticed = [])
  /-- It waits for its turn. -/
  | due {w : Watch} {x : Nat} (h : (s.standing n).Awaits log w x) (calls : (s.standing n).calls = 1)
    (alarms : (s.standing n).alarms = []) (early : s.now ≤ log.since + x)
    (now : w.cancelled = false → s.now = log.since + x)
  /-- It sleeps until its next look is due. -/
  | rests {w : Watch} {x : Nat} (h : (s.standing n).Awaits log w x) (wanted : w.cancelled = false)
    (calls : (s.standing n).calls = 0) (alarms : (s.standing n).alarms = [log.since + x])
    (early : s.now < log.since + x)
  | ended {w : Watch} {r : Except DebugError SuspendOutcome} (task : (s.standing n).task = some w)
    (state : w.state = .done r) (h : log.Ended s.settings (s.thread w.thread).id w.cancelled r)

theorem Standing.Awaits.pending {c : Standing} {log : RequestLog} {w : Watch} {x : Nat} (h : c.Awaits log w x) :
    w.state.pending := by
  rcases h.state with ⟨state, -⟩ | state
  · rw [state]
    rfl
  · rw [state]
    rfl

/-- A watch whose request waits for an outcome is due or rests. -/
theorem System.Tracks.of_pending {s : System σ} {n : Nat} {log : RequestLog} {w : Watch} (h : s.Tracks n log)
    (pending : s.Pending n w) : ∃ x, (s.standing n).Awaits log w x ∧
      ((s.standing n).calls = 1 ∧ (s.standing n).alarms = [] ∧ s.now ≤ log.since + x ∧
          (w.cancelled = false → s.now = log.since + x) ∨
        w.cancelled = false ∧ (s.standing n).calls = 0 ∧ (s.standing n).alarms = [log.since + x] ∧
          s.now < log.since + x) := by
  have task : (s.standing n).task = some w := pending.1
  cases h with
  | absent none =>
    rw [task] at none
    cases none
  | @due v x h calls alarms early now =>
    obtain rfl : v = w := Option.some.inj (h.task.symm.trans task)
    exact ⟨x, h, .inl ⟨calls, alarms, early, now⟩⟩
  | @rests v x h wanted calls alarms early =>
    obtain rfl : v = w := Option.some.inj (h.task.symm.trans task)
    exact ⟨x, h, .inr ⟨wanted, calls, alarms, early⟩⟩
  | @ended v r gone state =>
    obtain rfl : v = w := Option.some.inj (gone.symm.trans task)
    have waits := pending.2
    rw [state] at waits
    cases waits

/-- What happens beside a request: it stands as it did, and its thread is the same. -/
structure SameRequest (n : Nat) (s s' : System σ) : Prop where
  id {t : ThreadRef} (h : t < s.threads.size) : (s'.thread t).id = (s.thread t).id
  standing : s'.standing n = s.standing n

theorem KeepsWatches.beside {s s' : System σ} (h : KeepsWatches s s') (n : Nat) : SameRequest n s s' :=
  ⟨h.id, standing_of_clock h.clock n⟩

section

variable {s s' : System σ} {n : Nat} {w : Watch} {log : RequestLog} {x : Nat}

theorem System.Watched.known_task (hs : s.Watched) (task : (s.standing n).task = some w) : w.thread < s.threads.size :=
  hs.known (show (s.standing n).brief = some (w.thread, w.state.pending) by rw [Standing.brief, task]; rfl)

theorem System.Tracks.beside (hs : s.Watched) (h : s.Tracks n log) (same : SameRequest n s s') : s'.Tracks n log := by
  have settings : s'.settings = s.settings := congrArg Standing.settings same.standing
  have now : s'.now = s.now := congrArg Standing.now same.standing
  cases h with
  | absent task looks said noticed => exact .absent (same.standing ▸ task) looks said noticed
  | due h calls alarms early today =>
    exact .due (same.standing ▸ h) (same.standing ▸ calls) (same.standing ▸ alarms) (now ▸ early) (now ▸ today)
  | rests h wanted calls alarms early =>
    exact .rests (same.standing ▸ h) wanted (same.standing ▸ calls) (same.standing ▸ alarms) (now ▸ early)
  | ended task state h =>
    refine .ended (same.standing ▸ task) state ?_
    rw [settings, same.id (hs.known_task task)]
    exact h

theorem mem_sleeping_of_alarms {time : Nat} (h : time ∈ (s.standing n).alarms) : (time, .watch n) ∈ s.sleeping := by
  obtain ⟨⟨time', task⟩, he, rfl⟩ := List.mem_map.mp h
  obtain ⟨there, own⟩ := List.mem_filter.mp he
  obtain rfl : task = .watch n := of_decide_eq_true own
  exact there

/-- A watch that waits for its turn keeps time from passing. -/
theorem not_settled_of_calls (h : 0 < (s.standing n).calls) [Session σ] : s.isSettled = false := by
  have waiting : s.ready ≠ [] := by
    intro nothing
    rw [System.standing, nothing] at h
    cases h
  simp [System.isSettled, waiting]

end

/-! ## A turn of a watch -/

section

variable [Session σ] {s : System σ} {n : Nat} {w : Watch} {log : RequestLog} {x : Nat} {answer : Option Bool}

/-- A watch that has its turn sees to its own request only. -/
private theorem runNext_watch_beside (hs : s.Watched) (turn : s.turn? = some (.watch n)) :
    (runNext s).2.Watched ∧ ∀ k, k ≠ n → SameRequest k s (runNext s).2 := by
  obtain ⟨rest, ready, ran⟩ := runNext_watching turn
  have left := hs.dequeued ready
  rw [ran]
  by_cases waits : ∃ w, ({ s with ready := rest } : System σ).Pending n w
  · obtain ⟨w, pending⟩ := waits
    obtain ⟨m, noticed, goes⟩ := runWatch_cases pending
    have heard : (({ s with ready := rest } : System σ).reported m noticed).Watched :=
      left.carry (Nat.le_refl _) (fun _ => rfl) (fun _ => rfl) fun _ _ fresh => fresh
    have brief : ((({ s with ready := rest } : System σ).reported m noticed).standing n).brief =
        some (w.thread, true) := pending.brief
    have same (k : Nat) (other : k ≠ n) :
        (({ s with ready := rest } : System σ).reported m noticed).standing k = s.standing k := by
      rw [System.standing_reported, System.standing_dequeued s ready,
        if_neg fun own => other (TaskId.watch.inj own).symm]
    rcases goes with ⟨deadline, pause, goes⟩ | ⟨r, goes⟩
    · rw [goes]
      refine ⟨heard.rested brief deadline pause, fun k other => ⟨fun _ => rfl, ?_⟩⟩
      rw [System.standing_rested, if_neg other, same k other]
    · rw [goes]
      refine ⟨heard.concluded brief r, fun k other =>
        ⟨fun known => System.id_concluded _ w.thread r known, ?_⟩⟩
      rw [System.standing_concluded, if_neg other, same k other]
  · rw [runWatch_idle (not_exists.mp waits)]
    refine ⟨left, fun k other => ⟨fun _ => rfl, ?_⟩⟩
    rw [System.standing_dequeued s ready, if_neg fun own => other (TaskId.watch.inj own).symm]

/-- What becomes of a request by what its watch hears. -/
def Watch.verdict (late : Bool) : Option Bool → Option (Except DebugError SuspendOutcome)
  | some true => some (.ok .confirmed)
  | some false => if late then some (.ok .timedOut) else none
  | none => some (.error (.refused .cancelled "suspend cancelled"))

/-- What a turn means for the request and for its thread. -/
structure Watch.Turned (w : Watch) (n : Nat) (s s' : System σ) (verdict : Option (Except DebugError SuspendOutcome)) :
    Prop where
  outcome : s'.outcome? n = verdict
  suspends {o : SuspendOutcome} (h : verdict = some (.ok o)) (alive : (s.thread w.thread).terminated = false) :
    (s'.thread w.thread).isSuspended
  leaves (h : ∀ o, verdict ≠ some (.ok o)) (t : ThreadRef) : (s'.thread t).running = (s.thread t).running

omit [Session σ] in
theorem outcome?_of_task {r : Except DebugError SuspendOutcome} (task : (s.standing n).task = some w)
    (state : w.state = .done r) : s.outcome? n = some r := by
  have there : s.watches[n]? = some w := task
  rw [System.outcome?, there, Option.bind_some, state]

omit [Session σ] in
theorem outcome?_of_pending (task : (s.standing n).task = some w) (pending : w.state.pending) :
    s.outcome? n = none := by
  have there : s.watches[n]? = some w := task
  rw [System.outcome?, there, Option.bind_some]
  cases state : w.state with
  | done r =>
    rw [state] at pending
    cases pending
  | _ => rfl

omit [Session σ] in
theorem task_concluded (task : (s.standing n).task = some w) (r : Except DebugError SuspendOutcome) :
    ((s.concluded w.thread n r).standing n).task = some { w with state := .done r } := by
  have there : s.watches[n]? = some w := task
  rw [System.standing_concluded, if_pos rfl, there]
  rfl

omit [Session σ] in
/-- A watch that was not cancelled knows until when it goes on. -/
theorem Standing.Awaits.deadline (h : (s.standing n).Awaits log w x) (now : s.now = log.since + x) :
    s.deadline w.state = log.since + s.settings.suspendTimeout := by
  rcases h.state with ⟨state, rfl⟩ | state
  · rw [state]
    exact congrArg (· + s.settings.suspendTimeout) now
  · rw [state]
    rfl

/-- The turn of a watch whose request was cancelled. -/
private theorem turn_cancelled (h : (s.standing n).Awaits log w x) (given : w.cancelled) :
    (runWatch n s).2.bus.published = s.bus.published ∧ (runWatch n s).2.notices = s.notices ∧
      (runWatch n s).2.Tracks n (log.turn s.now none [] []) ∧
      w.Turned n s (runWatch n s).2 (Watch.verdict false none) := by
  rw [runWatch_cancelled ⟨h.task, h.pending⟩ given]
  obtain ⟨silent, running⟩ := s.concluded_failed w.thread n (.refused .cancelled "suspend cancelled")
  have task := task_concluded h.task (.error (.refused .cancelled "suspend cancelled"))
  refine ⟨congrArg Bus.published silent, rfl, .ended task rfl ?_, outcome?_of_task task rfl, fun h => (nomatch h),
    fun _ => running⟩
  dsimp only
  rw [given]
  have due : s.settings.looksBefore x <+: s.settings.lookTimes :=
    (List.prefix_append _ _).trans (TargetSettings.looksBefore_prefix h.next)
  exact .cancelled ((List.append_nil _).trans h.looks) due ((List.append_nil _).trans h.said)
    ((List.append_nil _).trans h.noticed)

omit [Session σ] in
/-- What a look leaves behind that finds the thread running before the time is up. -/
private theorem tracks_rested (h : (s.standing n).Awaits log w x) (alarms : (s.standing n).alarms = [])
    (calls : (s.standing n).calls = 0) (wanted : w.cancelled = false) (now : s.now = log.since + x)
    (early : x < s.settings.suspendTimeout) :
    (s.rested n (log.since + s.settings.suspendTimeout)
      (min s.settings.pace (s.settings.suspendTimeout - x))).Tracks n (log.turn s.now (some false) [] []) := by
  have pace := s.settings.one_le_pace
  have next : x ∈ s.settings.lookTimes := h.next
  have stands := s.standing_rested (n := n) (k := n) (log.since + s.settings.suspendTimeout)
    (min s.settings.pace (s.settings.suspendTimeout - x))
  have task : s.watches[n]? = some w := h.task
  rw [if_pos rfl, task, Option.map_some, alarms] at stands
  refine .rests (w := { w with state := .polling (log.since + s.settings.suspendTimeout) })
    (x := x + min s.settings.pace (s.settings.suspendTimeout - x)) ?_ wanted ?_ ?_ ?_
  · rw [stands]
    refine ⟨rfl, .inr rfl, ?_, TargetSettings.next_mem_lookTimes next early, (List.append_nil _).trans h.said,
      (List.append_nil _).trans h.noticed⟩
    change _ = (log.turn _ _ _ _).inVain (s.settings.looksBefore _)
    rw [TargetSettings.looksBefore_next next early, RequestLog.inVain, List.map_append]
    exact now ▸ congrArg (· ++ [(s.now, false)]) h.looks
  · rw [stands]
    exact calls
  · rw [stands, now]
    exact congrArg (fun time => [time]) (Nat.add_assoc _ _ _)
  · change s.now < log.since + _
    omega

omit [Session σ] in
/-- What a look leaves behind that ends the request. -/
private theorem tracks_concluded {r : SuspendOutcome} (known : w.thread < s.threads.size)
    (task : (s.standing n).task = some w) (connected : r ≠ .disconnected) {m : σ}
    {noticed : List (ThreadId × Status)}
    (ended : (log.turn s.now answer [⟨s.element w.thread, .suspend, .clientRequest⟩] noticed).Ended
      s.settings (s.thread w.thread).id w.cancelled (.ok r)) {s' : System σ}
    (ran : s' = (s.reported m noticed).concluded w.thread n (.ok r)) :
    ∃ said noticed, s'.bus.published = s.bus.published ++ said ∧ s'.notices = s.notices ++ noticed ∧
      s'.Tracks n (log.turn s.now answer said noticed) ∧ w.Turned n s s' (some (.ok r)) := by
  subst ran
  obtain ⟨published, stops⟩ := (s.reported m noticed).concluded_suspended w.thread n connected
  have task := task_concluded (s := s.reported m noticed) task (.ok r)
  have settings : ((s.reported m noticed).concluded w.thread n (.ok r)).settings = s.settings := by
    have same := (s.reported m noticed).standing_concluded (n := n) (k := n) w.thread (.ok r)
    rw [if_pos rfl] at same
    exact congrArg Standing.settings same
  refine ⟨_, noticed, published, System.notices_concluded _ w.thread n _, .ended task rfl ?_,
    outcome?_of_task task rfl, fun _ => stops, fun none => (none r rfl).elim⟩
  rw [settings, System.id_concluded (s.reported m noticed) w.thread _ known]
  exact ended

/-- The turn of a watch that looks at its thread. -/
private theorem turn_answered (known : w.thread < s.threads.size) (h : (s.standing n).Awaits log w x)
    (alarms : (s.standing n).alarms = []) (calls : (s.standing n).calls = 0) (wanted : w.cancelled = false)
    (now : s.now = log.since + x) {m m' : σ} {suspended : Bool} (asked : s.Asked w m)
    (answers : Session.threadIsSuspended (s.thread w.thread).id m = .ok suspended m') :
    ∃ said noticed, (runWatch n s).2.bus.published = s.bus.published ++ said ∧
      (runWatch n s).2.notices = s.notices ++ noticed ∧
      (runWatch n s).2.Tracks n (log.turn s.now (some suspended) said noticed) ∧
      w.Turned n s (runWatch n s).2
        (Watch.verdict (log.since + s.settings.suspendTimeout ≤ s.now) (some suspended)) := by
  have within : x ≤ s.settings.suspendTimeout := TargetSettings.le_of_mem_lookTimes h.next
  have ran := congrArg Prod.snd (runWatch_answered ⟨h.task, h.pending⟩ wanted asked answers)
  rw [h.deadline now] at ran
  cases suspended with
  | true =>
    refine tracks_concluded known h.task (by decide) ?_ ran
    rw [wanted]
    refine .confirmed ?_ (TargetSettings.looksBefore_prefix h.next) (congrArg (· ++ _) h.said)
      ((List.append_nil _).trans h.noticed)
    exact now ▸ congrArg (· ++ [(s.now, true)]) h.looks
  | false =>
    rw [if_neg Bool.false_ne_true] at ran
    by_cases late : log.since + s.settings.suspendTimeout ≤ s.now
    · obtain rfl : x = s.settings.suspendTimeout := Nat.le_antisymm within (by omega)
      rw [if_pos late] at ran
      rw [Watch.verdict, decide_eq_true late, if_pos rfl]
      refine tracks_concluded known h.task (by decide) ?_ ran
      rw [wanted]
      refine .timedOut ?_ (congrArg (· ++ _) h.said) (congrArg (· ++ _) h.noticed)
      rw [TargetSettings.lookTimes, RequestLog.inVain, List.map_append]
      exact now ▸ congrArg (· ++ [(s.now, false)]) h.looks
    · have pause : log.since + s.settings.suspendTimeout - s.now = s.settings.suspendTimeout - x := by omega
      have early : x < s.settings.suspendTimeout := by omega
      rw [if_neg late, pause] at ran
      rw [Watch.verdict, decide_eq_false late, if_neg Bool.false_ne_true, ran]
      have goes := tracks_rested (s := s.reported m' []) h alarms calls wanted now early
      have stands := (s.reported m' []).standing_rested (n := n) (k := n) (log.since + s.settings.suspendTimeout)
        (min s.settings.pace (s.settings.suspendTimeout - x))
      have task : (s.reported m' []).watches[n]? = some w := h.task
      rw [if_pos rfl, task] at stands
      have waits := outcome?_of_pending (congrArg Standing.task stands) rfl
      exact ⟨[], [], (List.append_nil _).symm, rfl, goes, waits, fun h => (by cases h), fun _ _ => rfl⟩

/-- A watch has its turn while its request waits for an outcome. -/
private theorem runNext_pending (hs : s.Watched) (h : s.Tracks n log) (turn : s.turn? = some (.watch n))
    (hears : s.Hears n answer) (pending : s.Pending n w) :
    ∃ said noticed, (runNext s).2.bus.published = s.bus.published ++ said ∧
      (runNext s).2.notices = s.notices ++ noticed ∧
      (runNext s).2.Tracks n (log.turn s.now answer said noticed) ∧
      w.Turned n s (runNext s).2 (Watch.verdict (log.since + s.settings.suspendTimeout ≤ s.now) answer) := by
  obtain ⟨rest, ready, ran⟩ := runNext_watching turn
  have task : (s.standing n).task = some w := pending.1
  have called : 0 < (s.standing n).calls := by
    rw [s.calls_of_ready ready, List.count_cons_self]
    exact Nat.succ_pos _
  obtain ⟨x, h, ⟨calls, alarms, -, now⟩ | ⟨-, calls, -, -⟩⟩ := h.of_pending pending
  · have awaits : (({ s with ready := rest } : System σ).standing n).Awaits log w x :=
      ⟨h.task, h.state, h.looks, h.next, h.said, h.noticed⟩
    have left : (({ s with ready := rest } : System σ).standing n).calls = 0 := by
      rw [System.standing_dequeued s ready, if_pos rfl, calls]
    rw [ran]
    cases hears with
    | nothing idle =>
      obtain ⟨published, reported, tracks, turned⟩ := turn_cancelled awaits (idle w pending)
      exact ⟨[], [], published.trans (List.append_nil _).symm, reported.trans (List.append_nil _).symm, tracks,
        turned.outcome, turned.suspends, turned.leaves⟩
    | @answer u m m' suspended there wanted asked answers =>
      obtain rfl : u = w := Option.some.inj (there.1.symm.trans task)
      have asked : ({ s with ready := rest } : System σ).Asked u m := by
        cases asked with
        | first state h => exact .first state h
        | before state => exact .before state
      obtain ⟨said, noticed, published, reported, tracks, turned⟩ :=
        turn_answered (s := { s with ready := rest }) (hs.known_task task) awaits alarms left wanted (now wanted) asked
          answers
      exact ⟨said, noticed, published, reported, tracks, turned.outcome, turned.suspends, turned.leaves⟩
  · exact absurd calls (Nat.ne_of_gt called)

omit [Session σ] in
/-- A turn in which nothing happens leaves no trace. -/
private theorem turn_idle (log : RequestLog) (now : Nat) : log.turn now none [] [] = log := by
  simp [RequestLog.turn]

/-- A watch has its turn. -/
private theorem runNext_tracks (hs : s.Watched) (h : s.Tracks n log) (turn : s.turn? = some (.watch n))
    (hears : s.Hears n answer) {said : List DebugEvent} {noticed : List (ThreadId × Status)}
    (published : (runNext s).2.bus.published = s.bus.published ++ said)
    (reported : (runNext s).2.notices = s.notices ++ noticed) :
    (runNext s).2.Tracks n (log.turn s.now answer said noticed) := by
  by_cases waits : ∃ w, s.Pending n w
  · obtain ⟨w, pending⟩ := waits
    obtain ⟨said', noticed', published', reported', tracks, -⟩ := runNext_pending hs h turn hears pending
    obtain rfl := List.append_cancel_left (published'.symm.trans published)
    obtain rfl := List.append_cancel_left (reported'.symm.trans reported)
    exact tracks
  · obtain ⟨rest, ready, ran⟩ := runNext_watching turn
    have idle := runWatch_idle (s := { s with ready := rest }) (not_exists.mp waits)
    rw [ran, idle] at published reported ⊢
    obtain rfl : said = [] := List.self_eq_append_right.mp published
    obtain rfl : noticed = [] := List.self_eq_append_right.mp reported
    cases hears with
    | answer pending => exact (waits ⟨_, pending⟩).elim
    | nothing =>
      rw [turn_idle]
      cases h with
      | absent task looks said noticed => exact .absent task looks said noticed
      | due h => exact (waits ⟨_, h.task, h.pending⟩).elim
      | rests h => exact (waits ⟨_, h.task, h.pending⟩).elim
      | ended task state h => exact .ended task state h

/-! ## Every move -/

/-- The client asks for a suspension: the pending step is given up, and then the thread is found to be waited for, or a
request is new. -/
private theorem suspend_cases (hs : s.Watched) {t : ThreadRef} (known : t < s.threads.size) :
    ∃ s₁, s₁ = (abortStep t s).2 ∧ KeepsWatches s s₁ ∧ s₁.Watched ∧ t < s₁.threads.size ∧
      (((s₁.thread t).suspending ∧ suspend t s = .ok none s₁) ∨
        ((s₁.thread t).suspending = false ∧ suspend t s = .ok (some s₁.watches.size) (s₁.asking t))) := by
  have keeps : KeepsWatches s (abortStep t s).2 := KeepsErrands.watches (Path.keepsErrands (.single (.abort s t)))
  refine ⟨_, rfl, keeps, hs.keeps keeps, Nat.lt_of_lt_of_le known keeps.size, ?_⟩
  rw [suspend_eq]
  cases waits : ((abortStep t s).2.thread t).suspending with
  | true => exact .inl ⟨rfl, by simp [waits]⟩
  | false => exact .inr ⟨rfl, by simp [waits]⟩

omit [Session σ] in
/-- Asking for one request is no concern of the others. -/
private theorem asking_beside {t : ThreadRef} (other : n ≠ s.watches.size) : SameRequest n s (s.asking t) := by
  refine ⟨fun _ => ?_, ?_⟩
  · rw [System.thread_congr (s.threads_asking t)]
    exact System.id_mapThread (fun _ => by rfl) s t _
  · rw [System.standing_asking, if_neg other]

omit [Session σ] in
/-- A request that is new has its first look ahead. -/
private theorem tracks_asking (hs : s.Watched) {t : ThreadRef} (h : s.Tracks s.watches.size log) :
    (s.asking t).Tracks s.watches.size { log with since := s.now } := by
  have stands := s.standing_asking (n := s.watches.size) t
  rw [if_pos rfl] at stands
  have nobody : (s.standing s.watches.size).task = none := by simp [System.standing]
  have fresh := hs.fresh (n := s.watches.size) (by rw [Standing.brief, nobody]; rfl)
  have settings : (s.asking t).settings = s.settings := congrArg Standing.settings stands
  have now : (s.asking t).now = s.now := congrArg Standing.now stands
  have empty : log.looks = [] ∧ log.said = [] ∧ log.noticed = [] := by
    cases h with
    | absent _ looks said noticed => exact ⟨looks, said, noticed⟩
    | due h =>
      rw [h.task] at nobody
      cases nobody
    | rests h =>
      rw [h.task] at nobody
      cases nobody
    | ended task =>
      rw [task] at nobody
      cases nobody
  refine .due (w := ⟨t, .asking, false⟩) (x := 0) ?_ ?_ ?_ (Nat.le_of_eq now) fun _ => now
  · rw [stands]
    exact ⟨rfl, .inl ⟨rfl, rfl⟩, empty.1, s.settings.zero_mem_lookTimes, empty.2.1, empty.2.2⟩
  · rw [stands]
    exact congrArg (max · 1) fresh.1
  · rw [stands]
    exact fresh.2

omit [Session σ] in
/-- A request that is cancelled has its watch's turn ahead, at once. -/
private theorem tracks_cancelled (h : s.Tracks n log) (pending : s.Pending n w) :
    (s.cancelled n).Tracks n log := by
  have stands := s.standing_cancelled (n := n) (k := n)
  have task : s.watches[n]? = some w := pending.1
  rw [if_pos rfl, task] at stands
  have now : (s.cancelled n).now = s.now := congrArg Standing.now stands
  obtain ⟨x, awaits, stage⟩ := h.of_pending pending
  -- wherever the watch was, it waits for its turn then
  have before : (s.standing n).calls ≤ 1 ∧ s.now ≤ log.since + x := by
    rcases stage with ⟨calls, -, early, -⟩ | ⟨-, calls, -, early⟩
    · exact ⟨Nat.le_of_eq calls, early⟩
    · exact ⟨calls ▸ Nat.zero_le 1, Nat.le_of_lt early⟩
  refine .due (w := { w with cancelled := true }) (x := x) ?_ ?_ ?_ (now ▸ before.2) fun wanted => by cases wanted
  · rw [stands]
    exact ⟨rfl, awaits.state, awaits.looks, awaits.next, awaits.said, awaits.noticed⟩
  · rw [stands]
    exact Nat.max_eq_right before.1
  · rw [stands]

/-- Time passes, but not beyond the watch's waking. -/
private theorem tracks_passTime (h : s.Tracks n log) {time : Nat} (settled : s.isSettled)
    (next : ∀ e ∈ s.sleeping, time ≤ e.1) : (s.passTime time).Tracks n log := by
  have stands := s.standing_passTime (n := n) time
  have settings : (s.passTime time).settings = s.settings := congrArg Standing.settings stands
  have now : (s.passTime time).now = time := congrArg Standing.now stands
  cases h with
  | absent none => exact .absent (stands ▸ none) ‹_› ‹_› ‹_›
  | due h calls =>
    rw [not_settled_of_calls (n := n) (calls ▸ Nat.one_pos)] at settled
    cases settled
  | @rests w x h wanted calls alarms early =>
    have awaits : ((s.passTime time).standing n).Awaits log w x := by
      rw [stands]
      exact ⟨h.task, h.state, h.looks, h.next, h.said, h.noticed⟩
    have within : time ≤ log.since + x := next _ (mem_sleeping_of_alarms (alarms ▸ List.mem_singleton_self _))
    rw [alarms, calls] at stands
    rcases Nat.lt_or_eq_of_le within with sooner | rfl
    · refine .rests awaits wanted ?_ ?_ (Nat.lt_of_le_of_lt (Nat.le_of_eq now) sooner)
      · rw [stands]
        simp [Nat.not_le.mpr sooner]
      · rw [stands]
        simp [sooner]
    · refine .due awaits ?_ ?_ (Nat.le_of_eq now) fun _ => now
      · rw [stands]
        simp
      · rw [stands]
        simp
  | ended task state h =>
    refine .ended (stands ▸ task) state ?_
    rw [settings, System.thread_congr (congrArg Core.threads (core_passTime s time))]
    exact h

private theorem suspend_tracks (hs : s.Watched) (h : s.Tracks n log) {t : ThreadRef} (known : t < s.threads.size)
    {s' : System σ} (asks : suspend t s = .ok (some n) s') :
    s'.Watched ∧ s'.Tracks n { log with since := s.now } := by
  obtain ⟨s₁, -, keeps, watched, there, ⟨-, none⟩ | ⟨free, some⟩⟩ := suspend_cases hs known
  · rw [none] at asks
    cases asks
  · rw [some] at asks
    cases asks
    have tracks := tracks_asking watched (t := t) (h.beside hs (keeps.beside _))
    rw [show s₁.now = s.now from congrArg Clock.now keeps.clock] at tracks
    exact ⟨watched.asking there free, tracks⟩

/-- What the client asks for, unless it is for this request to begin. -/
private theorem perform_tracks (hs : s.Watched) (h : s.Tracks n log) {o : Operation} (known : o.Known s)
    (other : ∀ t s', o = .suspend t → suspend t s ≠ .ok (some n) s') :
    (o.perform s).Watched ∧ (o.perform s).Tracks n log := by
  have kept {s' : System σ} (keeps : KeepsWatches s s') : s'.Watched ∧ s'.Tracks n log :=
    ⟨hs.keeps keeps, h.beside hs (keeps.beside n)⟩
  cases evaluates : o.evaluates with
  | true => exact kept (o.perform_evaluated s evaluates).keepsWatches
  | false =>
    cases watches : o.watches with
    | false =>
      rcases o.perform_changes s evaluates watches with path | started
      · exact kept (Path.keepsErrands path).watches
      · exact kept started.keepsErrands.watches
    | true =>
      cases o with
      | suspend t =>
        obtain ⟨s₁, -, keeps, watched, there, ⟨-, none⟩ | ⟨free, some⟩⟩ := suspend_cases hs (known t rfl)
        · rw [Operation.perform, stateAfter_of_ok none]
          exact kept keeps
        · rw [Operation.perform, stateAfter_of_ok some]
          refine ⟨watched.asking there free, ?_⟩
          refine (h.beside hs (keeps.beside n)).beside watched (asking_beside fun own => ?_)
          exact other t _ rfl (own ▸ some)
      | cancelWatch k =>
        by_cases waits : ∃ w, s.Pending k w
        · obtain ⟨w, pending⟩ := waits
          rw [Operation.perform, cancelWatch_pending pending]
          refine ⟨hs.cancelled pending.brief, ?_⟩
          by_cases own : n = k
          · subst own
            exact tracks_cancelled h pending
          · refine h.beside hs ⟨fun _ => ?_, ?_⟩
            · exact congrArg Thread.id (System.thread_congr (System.threads_wake _ _) _)
            · rw [System.standing_cancelled, if_neg own]
        · rw [Operation.perform, cancelWatch_idle (not_exists.mp waits)]
          exact ⟨hs, h⟩
      | _ => cases watches

/-- A move keeps the books of requests, and leaves a watch as far as it says. -/
private theorem RequestTurn.tracks {v : Surroundings σ} {s' : System σ} {log' : RequestLog} (hs : s.Watched)
    (h : s.Tracks n log) (turn : RequestTurn v n s log s' log') : s'.Watched ∧ s'.Tracks n log' := by
  have kept {s' : System σ} (keeps : KeepsWatches s s') : s'.Watched ∧ s'.Tracks n log :=
    ⟨hs.keeps keeps, h.beside hs (keeps.beside n)⟩
  cases turn with
  | asked known asks => exact suspend_tracks hs h known asks
  | watch turn hears published reported =>
    exact ⟨(runNext_watch_beside hs turn).1, runNext_tracks hs h turn hears published reported⟩
  | operation known other => exact perform_tracks hs h known other
  | run turn =>
    rcases runNext_turn s with ⟨k, turn'⟩ | ⟨k, turn'⟩ | handled
    · exact kept (runNext_evaluated turn').keepsWatches
    · obtain ⟨watched, beside⟩ := runNext_watch_beside hs turn'
      exact ⟨watched, h.beside hs (beside n fun own => turn (own ▸ turn'))⟩
    · exact kept handled.keepsErrands.watches
  | wait settled _ next => exact ⟨hs.passTime _, tracks_passTime h settled next⟩
  | letIn => exact kept (Path.keepsErrands (letInHeld_path s)).watches
  | machine | fire | queue => exact kept ⟨Nat.le_refl _, fun _ => rfl, fun _ => rfl, rfl⟩

private theorem watched_blank (m : σ) (settings : TargetSettings) :
    (System.blank m settings).Watched where
  known h := by simp [System.blank, System.standing, Standing.brief] at h
  marked t := by
    rw [System.thread_of_size_le (Nat.zero_le t)]
    simp [System.blank, System.standing, Standing.brief]
  alone h := by simp [System.blank, System.standing, Standing.brief] at h
  fresh _ := ⟨rfl, rfl⟩

private theorem RequestRun.tracks {v : Surroundings σ} (run : RequestRun v n s log) : s.Watched ∧ s.Tracks n log := by
  induction run with
  | @attach m settings s start h =>
    have keeps := (Path.keepsErrands (attach_path h)).watches
    have blank := watched_blank m settings
    have absent : (System.blank m settings).Tracks n {} :=
      .absent (by simp [System.blank, System.standing]) rfl rfl rfl
    exact ⟨blank.keeps keeps, absent.beside blank (keeps.beside n)⟩
  | turn _ turn ih => exact turn.tracks ih.1 ih.2

/-! ## The whole of it -/

/-- What a run comes to for suspend requests, and for one of them. -/
structure System.Confirms (s : System σ) (n : Nat) (log : RequestLog) : Prop where
  /-- As long as the request waits, its watch has found the thread running and said nothing. -/
  silent {w : Watch} (pending : s.Pending n w) : ∃ times, times <+: s.settings.lookTimes ∧
    log.looks = log.inVain times ∧ log.said = [] ∧ log.noticed = []
  /-- It has looked whenever it should have. -/
  prompt {w : Watch} {x : Nat} (pending : s.Pending n w) (due : x ∈ s.settings.lookTimes)
    (passed : log.since + x < s.now ∨ log.since + x = s.now ∧ s.isSettled) : (log.since + x, false) ∈ log.looks
  /-- The request does not outlast its time. -/
  inTime {w : Watch} (pending : s.Pending n w) : s.now ≤ log.since + s.settings.suspendTimeout ∧
    (s.isSettled → s.now < log.since + s.settings.suspendTimeout)
  /-- Its watch sleeps when there is nothing to do, and wakes up for the look that is next. -/
  sleeps {w : Watch} (pending : s.Pending n w) (settled : s.isSettled) : ∃ x ∈ s.settings.lookTimes,
    log.looks = log.inVain (s.settings.looksBefore x) ∧ s.now < log.since + x ∧
      (log.since + x, .watch n) ∈ s.sleeping
  ended {w : Watch} {r : Except DebugError SuspendOutcome} (task : s.watches[n]? = some w) (state : w.state = .done r) :
    log.Ended s.settings (s.thread w.thread).id w.cancelled r
  /-- A turn of its watch: what becomes of the request and of the thread. -/
  turned {w : Watch} {answer : Option Bool} (pending : s.Pending n w) (turn : s.turn? = some (.watch n))
    (hears : s.Hears n answer) :
    w.Turned n s (runNext s).2 (Watch.verdict (log.since + s.settings.suspendTimeout ≤ s.now) answer)
  /-- The client can cancel a request that waits, and then its watch has its turn before time passes. -/
  cancels {w : Watch} (pending : s.Pending n w) : (cancelWatch n s).2.Pending n { w with cancelled := true }
  atOnce {w : Watch} (pending : s.Pending n w) (given : w.cancelled) : s.isSettled = false
  /-- At most one request waits for a thread, and while one does the thread is not asked for again. -/
  alone {k l : Nat} {w v : Watch} (h : s.Pending k w) (h' : s.Pending l v) (same : w.thread = v.thread) : k = l
  refused {k : Nat} {w : Watch} (pending : s.Pending k w) : ∃ s', suspend w.thread s = .ok none s'
  accepted {t : ThreadRef} (known : t < s.threads.size) (free : ∀ k w, s.Pending k w → w.thread ≠ t) :
    ∃ k s', suspend t s = .ok (some k) s' ∧ s'.Pending k ⟨t, .asking, false⟩
  /-- Asking gives up the pending step, whose request the machine is told to delete. -/
  aborts {t : ThreadRef} {st : Stepping} (known : t < s.threads.size) (stepping : (s.thread t).stepping = some st) :
    ((stateAfter (suspend t) s).thread t).stepping = none ∧
      (stateAfter (suspend t) s).session = stateAfter (Session.deleteEventRequest .step st.request) s.session

/-- How far the watch of a request is that waits. -/
private theorem System.Tracks.awaits (h : s.Tracks n log) (pending : s.Pending n w) : ∃ x,
    (s.standing n).Awaits log w x ∧ s.now ≤ log.since + x ∧
      (s.isSettled → s.now < log.since + x ∧ (log.since + x, .watch n) ∈ s.sleeping) ∧
      (w.cancelled → s.isSettled = false) := by
  obtain ⟨x, awaits, ⟨calls, -, early, -⟩ | ⟨wanted, -, alarms, early⟩⟩ := h.of_pending pending
  · have busy : s.isSettled = false := not_settled_of_calls (n := n) (calls ▸ Nat.one_pos)
    exact ⟨x, awaits, early, fun settled => absurd settled (by rw [busy]; exact Bool.false_ne_true), fun _ => busy⟩
  · have sleeps := mem_sleeping_of_alarms (alarms ▸ List.mem_singleton_self _)
    exact ⟨x, awaits, Nat.le_of_lt early, fun _ => ⟨early, sleeps⟩, fun given =>
      absurd given (Bool.eq_false_iff.mp wanted)⟩

omit [Session σ] in
private theorem System.Tracks.done (h : s.Tracks n log) {r : Except DebugError SuspendOutcome}
    (task : s.watches[n]? = some w) (state : w.state = .done r) :
    log.Ended s.settings (s.thread w.thread).id w.cancelled r := by
  have waits {v : Watch} {x : Nat} (h : (s.standing n).Awaits log v x) : False := by
    obtain rfl : v = w := Option.some.inj (h.task.symm.trans task)
    have pending := h.pending
    rw [state] at pending
    cases pending
  cases h with
  | absent none =>
    have there := none.symm.trans task
    cases there
  | due h => exact (waits h).elim
  | rests h => exact (waits h).elim
  | @ended v r' gone state' h =>
    obtain rfl : v = w := Option.some.inj (gone.symm.trans task)
    obtain rfl : r' = r := WatchState.done.inj (state'.symm.trans state)
    exact h

omit [Session σ] in
private theorem System.Watched.free (hs : s.Watched) {t : ThreadRef} (free : ∀ k w, s.Pending k w → w.thread ≠ t) :
    (s.thread t).suspending = false := by
  refine Bool.eq_false_iff.mpr fun marked => ?_
  obtain ⟨k, waits⟩ := (hs.marked t).mp marked
  obtain ⟨w, task, same⟩ := Option.map_eq_some_iff.mp waits
  obtain ⟨own, pending⟩ := Prod.mk.inj same
  exact free k w ⟨task, pending⟩ own

/-- The pending step is given up by a request. -/
private theorem suspend_aborts (hs : s.Watched) {t : ThreadRef} {st : Stepping} (known : t < s.threads.size)
    (stepping : (s.thread t).stepping = some st) :
    ((stateAfter (suspend t) s).thread t).stepping = none ∧
      (stateAfter (suspend t) s).session = stateAfter (Session.deleteEventRequest .step st.request) s.session := by
  have aborted : ((abortStep t s).2.thread t).stepping = none ∧
      (abortStep t s).2.session = stateAfter (Session.deleteEventRequest .step st.request) s.session := by
    rw [abortStep_some stepping, deleteStepRequest_state]
    refine ⟨?_, rfl⟩
    change ((s.mapThread t (·.setStepping none)).thread t).stepping = none
    rw [System.thread_mapThread, if_pos ⟨rfl, known⟩]
    rfl
  obtain ⟨s₁, rfl, -, -, -, ⟨-, none⟩ | ⟨-, some⟩⟩ := suspend_cases hs known
  · rw [stateAfter_of_ok none]
    exact aborted
  · rw [stateAfter_of_ok some]
    refine ⟨?_, (congrArg Core.session (core_wake _ _)).trans aborted.2⟩
    rw [System.thread_congr (System.threads_asking _ t)]
    exact (System.mapThread_keeps (g := Thread.stepping) (fun _ => by rfl) _ t t).trans aborted.1

/-- The looks that should have been are among those that were. -/
private theorem System.Tracks.prompt (h : s.Tracks n log) (pending : s.Pending n w) (due : x ∈ s.settings.lookTimes)
    (passed : log.since + x < s.now ∨ log.since + x = s.now ∧ s.isSettled) : (log.since + x, false) ∈ log.looks := by
  obtain ⟨next, awaits, early, settled, -⟩ := h.awaits pending
  have within : next ≤ s.settings.suspendTimeout := TargetSettings.le_of_mem_lookTimes awaits.next
  have before : x < next := by
    rcases passed with past | ⟨present, idle⟩
    · omega
    · have := (settled idle).1
      omega
  have multiple : s.settings.pace ∣ x := by
    rcases TargetSettings.mem_lookTimes.mp due with ⟨-, multiple⟩ | last
    · exact multiple
    · omega
  rw [awaits.looks]
  exact List.mem_map.mpr ⟨x, TargetSettings.mem_looksBefore.mpr ⟨before, multiple⟩, rfl⟩

private theorem suspend_refused (hs : s.Watched) (pending : s.Pending n w) :
    ∃ s', suspend w.thread s = .ok none s' := by
  have marked := (hs.marked _).mpr ⟨_, pending.brief⟩
  obtain ⟨s₁, -, keeps, -, -, ⟨-, none⟩ | ⟨free, -⟩⟩ := suspend_cases hs (hs.known pending.brief)
  · exact ⟨s₁, none⟩
  · rw [keeps.suspending, marked] at free
    cases free

private theorem suspend_accepted (hs : s.Watched) {t : ThreadRef} (known : t < s.threads.size)
    (free : ∀ k w, s.Pending k w → w.thread ≠ t) :
    ∃ k s', suspend t s = .ok (some k) s' ∧ s'.Pending k ⟨t, .asking, false⟩ := by
  have free := hs.free free
  obtain ⟨s₁, -, keeps, -, -, ⟨marked, -⟩ | ⟨-, some⟩⟩ := suspend_cases hs known
  · rw [keeps.suspending, free] at marked
    cases marked
  · have stands := s₁.standing_asking (n := s₁.watches.size) t
    rw [if_pos rfl] at stands
    exact ⟨_, _, some, congrArg Standing.task stands, rfl⟩

/-- A suspend request ends in time. -/
theorem suspend_confirmed_in_time {v : Surroundings σ} (run : RequestRun v n s log) : s.Confirms n log := by
  obtain ⟨watched, tracks⟩ := run.tracks
  refine { silent := fun pending => ?_, prompt := tracks.prompt, inTime := fun pending => ?_,
           sleeps := fun pending idle => ?_, ended := tracks.done, turned := fun pending turn hears => ?_,
           cancels := fun pending => ?_, atOnce := fun pending => ?_,
           alone := fun h h' same => watched.alone h.brief (same ▸ h'.brief), refused := suspend_refused watched,
           accepted := suspend_accepted watched, aborts := suspend_aborts watched }
  · obtain ⟨x, awaits, -⟩ := tracks.awaits pending
    exact ⟨_, (List.prefix_append _ _).trans (TargetSettings.looksBefore_prefix awaits.next), awaits.looks, awaits.said,
      awaits.noticed⟩
  · obtain ⟨x, awaits, early, settled, -⟩ := tracks.awaits pending
    have within : x ≤ s.settings.suspendTimeout := TargetSettings.le_of_mem_lookTimes awaits.next
    exact ⟨by omega, fun idle => Nat.lt_of_lt_of_le (settled idle).1 (Nat.add_le_add_left within _)⟩
  · obtain ⟨x, awaits, -, settled, -⟩ := tracks.awaits pending
    exact ⟨x, awaits.next, awaits.looks, settled idle⟩
  · obtain ⟨_, _, -, -, -, turned⟩ := runNext_pending watched tracks turn hears pending
    exact turned
  · rw [cancelWatch_pending pending]
    have stands := s.standing_cancelled (n := n) (k := n)
    rw [if_pos rfl, pending.1] at stands
    exact ⟨congrArg Standing.task stands, pending.2⟩
  · obtain ⟨_, -, -, -, atOnce⟩ := tracks.awaits pending
    exact atOnce

end

/-! ### A thread that is never suspended -/

/-- A machine with one thread, which runs on when it is to be suspended. -/
private def stubborn : Faulty Machine :=
  sampleMachine [.addTask { sampleTask 1 with suspended := false }, .ignoreSuspend 1]

/-- The debugger attached to it, with a time that is no multiple of the pace. -/
private def impatient : System (Faulty Machine) :=
  match attach stubborn { suspendTimeout := 5, suspendPoll := 3 } with
  | .ok s => s
  | .error _ => .blank stubborn {}

private theorem impatient_attached : attach stubborn { suspendTimeout := 5, suspendPoll := 3 } = .ok impatient := by
  have attaches : (attach stubborn { suspendTimeout := 5, suspendPoll := 3 }).isOk := by decide +kernel
  unfold impatient
  cases h : attach stubborn { suspendTimeout := 5, suspendPoll := 3 } with
  | ok s => rfl
  | error e =>
    rw [h] at attaches
    cases attaches

/-- The client asks, and the watch looks for the first time. -/
private def requested : System (Faulty Machine) := stateAfter (suspend 0) impatient

/-- It sleeps for as long as its pace says. -/
private def sleptThree : System (Faulty Machine) := (runNext requested).2.passTime 3

/-- It looks again, and sleeps until its time is up. -/
private def sleptFive : System (Faulty Machine) := (runNext sleptThree).2.passTime 5

private def gaveUp : System (Faulty Machine) := (runNext sleptFive).2

deriving instance DecidableEq for WatchState, Watch

/-- The machine never says that the thread is suspended, and it counts as suspended when the time is up. -/
theorem suspend_given_up_in_time :
    gaveUp.Confirms 0 ⟨0, [(0, false), (3, false), (5, false)], [⟨.thread 1, .suspend, .clientRequest⟩],
        [(1, ⟨.suspendTimeout, "thread did not suspend within 5 ms"⟩)]⟩ ∧
      gaveUp.outcome? 0 = some (.ok .timedOut) ∧ (gaveUp.thread 0).isSuspended := by
  have attached : RequestRun scripted 0 impatient {} :=
    .attach (sampleMachine_starts (by simp [Scenario.MachineCommand.SparesSteps])) impatient_attached
  have asked : RequestRun scripted 0 requested { since := impatient.now } :=
    attached.turn (.asked (t := 0) (by decide +kernel) (ok_of_run' (by decide +kernel)))
  have first : requested.Hears 0 (some false) :=
    .answer (w := ⟨0, .asking, false⟩) ⟨by decide +kernel, rfl⟩ rfl (.first rfl (ok_of_run' (by decide +kernel)))
      (ok_of_run' (by decide +kernel))
  have once := asked.turn (.watch (by decide +kernel) first
    (show (runNext requested).2.bus.published = requested.bus.published ++ [] by decide +kernel)
    (show (runNext requested).2.notices = requested.notices ++ [] by decide +kernel))
  have later : RequestRun scripted 0 sleptThree _ :=
    once.turn (.wait (by decide +kernel) (by decide +kernel) (by decide +kernel))
  have second : sleptThree.Hears 0 (some false) :=
    .answer (w := ⟨0, .polling 5, false⟩) ⟨by decide +kernel, rfl⟩ rfl (.before rfl) (ok_of_run' (by decide +kernel))
  have twice := later.turn (.watch (by decide +kernel) second
    (show (runNext sleptThree).2.bus.published = sleptThree.bus.published ++ [] by decide +kernel)
    (show (runNext sleptThree).2.notices = sleptThree.notices ++ [] by decide +kernel))
  have last : RequestRun scripted 0 sleptFive _ :=
    twice.turn (.wait (by decide +kernel) (by decide +kernel) (by decide +kernel))
  have third : sleptFive.Hears 0 (some false) :=
    .answer (w := ⟨0, .polling 5, false⟩) ⟨by decide +kernel, rfl⟩ rfl (.before rfl) (ok_of_run' (by decide +kernel))
  have thrice : RequestRun scripted 0 gaveUp _ := last.turn (.watch (by decide +kernel) third
    (show (runNext sleptFive).2.bus.published =
      sleptFive.bus.published ++ [⟨.thread 1, .suspend, .clientRequest⟩] by decide +kernel)
    (show (runNext sleptFive).2.notices =
      sleptFive.notices ++ [(1, ⟨.suspendTimeout, "thread did not suspend within 5 ms"⟩)] by decide +kernel))
  have times : (impatient.now, requested.now, sleptThree.now, sleptFive.now) = (0, 0, 3, 5) := by decide +kernel
  simp only [Prod.mk.injEq] at times
  simp only [RequestLog.turn, Option.map_some, Option.toList_some, List.nil_append, List.append_nil, List.cons_append,
    times] at thrice
  exact ⟨suspend_confirmed_in_time thrice, by decide +kernel, by decide +kernel⟩

end Debugger
