import Debugger.Proofs.BreakpointHits
import Debugger.Proofs.EvaluationMoves

/-! # Evaluations are bracketed, and silent when asked

A thread runs one evaluation at a time.  An evaluation that is let into its thread is announced by a resume when it
begins and by a suspend when it ends, however it ends, and by nothing else; one that finds another in its thread is
refused and changes nothing.  While an evaluation runs that does not honor breakpoints, a hit in its thread is counted
and that is all.
-/

namespace Debugger

variable {σ : Type}

/-! ## One at a time -/

/-- The evaluation has begun and is not over. -/
def System.Underway (s : System σ) (n : Nat) (e : EvaluationTask) : Prop :=
  s.evaluations[n]? = some e ∧ e.state.active

/-- Each thread knows of the evaluation that is under way in it, and of no other. -/
structure System.Bracketed (s : System σ) : Prop where
  known {n : Nat} {e : EvaluationTask} (task : s.evaluations[n]? = some e) : e.thread < s.threads.size
  badge {n : Nat} {e : EvaluationTask} (h : s.Underway n e) :
    (s.thread e.thread).badge? = some (e.token, e.honorsBreakpoints)
  alone {n k : Nat} {e f : EvaluationTask} (h : s.Underway n e) (h' : s.Underway k f) (same : e.thread = f.thread) :
    n = k
  runs {t : ThreadRef} {b : Nat × Bool} (h : (s.thread t).badge? = some b) : ∃ n e, s.Underway n e ∧ e.thread = t

namespace Advance

variable {s : System σ} {e e' : EvaluationTask} {accepted : Bool} {badge : Option (Nat × Bool)}
  {said : List Announcement}

theorem same (h : Advance s e accepted e' badge said) :
    e'.thread = e.thread ∧ e'.detail = e.detail ∧ e'.honorsBreakpoints = e.honorsBreakpoints := by
  cases h <;> exact ⟨rfl, rfl, rfl⟩

/-- Of the system only the badge of the thread matters. -/
theorem of_badge {s' : System σ} (h : Advance s e accepted e' badge said)
    (same : (s.thread e.thread).badge? = (s'.thread e.thread).badge?) : Advance s' e accepted e' badge said := by
  cases h with
  | told => exact same ▸ .told
  | refused starting => exact same ▸ .refused starting
  | begins starting free active => exact .begins starting (same.symm.trans free) active
  | passes starting free => exact .passes starting (same.symm.trans free)
  | goesOn before after => exact same ▸ .goesOn before after
  | ends before => exact .ends before

/-- The badge of the thread stays, or is given out where there was none, or is taken back. -/
theorem badge_cases (h : Advance s e accepted e' badge said) :
    (e'.state.active = e.state.active ∧ e'.token = e.token ∧ badge = (s.thread e.thread).badge?) ∨
    (e.state.active = false ∧ (s.thread e.thread).badge? = none ∧
      badge = if e'.state.active then some (e'.token, e'.honorsBreakpoints) else none) ∨
    (e.state.active ∧ e'.state.active = false ∧ badge = none) := by
  cases h with
  | told => exact .inl ⟨rfl, rfl, rfl⟩
  | refused starting => exact .inl ⟨by rw [starting]; rfl, rfl, rfl⟩
  | begins starting free active => exact .inr (.inl ⟨by rw [starting]; rfl, free, (if_pos active).symm⟩)
  | passes starting free => exact .inr (.inl ⟨by rw [starting]; rfl, free, rfl⟩)
  | goesOn before after => exact .inl ⟨after.trans before.symm, rfl, rfl⟩
  | ends before => exact .inr (.inr ⟨before, rfl, rfl⟩)

end Advance

namespace System.Bracketed

variable {s s' : System σ}

theorem keeps (hs : s.Bracketed) (h : KeepsEvaluations s s') : s'.Bracketed where
  known task := Nat.lt_of_lt_of_le (hs.known (h.tasks ▸ task)) h.size
  badge under := (h.badge _).trans (hs.badge ⟨h.tasks ▸ under.1, under.2⟩)
  alone under under' := hs.alone ⟨h.tasks ▸ under.1, under.2⟩ ⟨h.tasks ▸ under'.1, under'.2⟩
  runs badge := by
    obtain ⟨n, e, under, same⟩ := hs.runs ((h.badge _).symm.trans badge)
    exact ⟨n, e, ⟨h.tasks ▸ under.1, under.2⟩, same⟩

/-- A task that is new is at its start. -/
theorem push (hs : s.Bracketed) (marks : SameMarks s s') {e : EvaluationTask}
    (tasks : s'.evaluations = s.evaluations.push e) (starting : e.state = .starting)
    (known : e.thread < s.threads.size) : s'.Bracketed := by
  have old {n : Nat} {f : EvaluationTask} (h : s'.Underway n f) : s.Underway n f := by
    obtain ⟨task, active⟩ := h
    rw [tasks, Array.getElem?_push] at task
    split at task
    · cases task
      rw [starting] at active
      cases active
    · exact ⟨task, active⟩
  refine ⟨fun task => ?_, fun h => (marks.badge _).trans (hs.badge (old h)),
    fun h h' => hs.alone (old h) (old h'), fun badge => ?_⟩
  · refine Nat.lt_of_lt_of_le ?_ marks.size
    rw [tasks, Array.getElem?_push] at task
    split at task
    · cases task
      exact known
    · exact hs.known task
  · obtain ⟨n, f, ⟨task, active⟩, same⟩ := hs.runs ((marks.badge _).symm.trans badge)
    refine ⟨n, f, ⟨?_, active⟩, same⟩
    rw [tasks, Array.getElem?_push, if_neg (Nat.ne_of_lt (Array.getElem?_eq_some_iff.mp task).1)]
    exact task

theorem advance (hs : s.Bracketed) {n : Nat} {e e' : EvaluationTask} {accepted : Bool} {badge : Option (Nat × Bool)}
    {said : List Announcement} (task : s.evaluations[n]? = some e) (advance : Advance s e accepted e' badge said)
    (h : Becomes n e' badge said s s') : s'.Bracketed := by
  obtain ⟨thread, -, -⟩ := advance.same
  have shift := advance.badge_cases
  have under {k : Nat} {f : EvaluationTask} (hu : s'.Underway k f) :
      k = n ∧ f = e' ∧ e'.state.active ∨ k ≠ n ∧ s.Underway k f := by
    obtain ⟨task', active⟩ := hu
    rw [h.tasks] at task'
    split at task'
    · rename_i own
      cases task'
      exact .inl ⟨own, rfl, active⟩
    · rename_i other
      exact .inr ⟨other, task', active⟩
  -- another evaluation is under way in the thread only if it was and this one neither begins nor ends
  have other {k : Nat} {f : EvaluationTask} (hk : k ≠ n) (hu : s.Underway k f) (same : f.thread = e.thread) :
      e'.state.active = false ∧ badge = (s.thread e.thread).badge? := by
    have idle : e.state.active = false := by
      by_contra busy
      exact hk (hs.alone hu ⟨task, by simpa using busy⟩ same)
    have there := hs.badge hu
    rw [same] at there
    rcases shift with ⟨active, -, kept⟩ | ⟨-, free, -⟩ | ⟨busy, -, -⟩
    · exact ⟨active.trans idle, kept⟩
    · rw [free] at there
      cases there
    · rw [idle] at busy
      cases busy
  refine ⟨fun {k f} task' => ?_, fun {k f} hu => ?_, fun {k l f g} hu hu' same => ?_, fun {t b} hb => ?_⟩
  · rw [h.size]
    rw [h.tasks] at task'
    split at task'
    · cases task'
      rw [thread]
      exact hs.known task
    · exact hs.known task'
  · rcases under hu with ⟨rfl, rfl, active⟩ | ⟨hk, hu⟩
    · rw [h.badge]
      rcases shift with ⟨same, token, kept⟩ | ⟨-, -, given⟩ | ⟨-, idle, -⟩
      · rw [kept, token, advance.same.2.2]
        exact hs.badge ⟨task, same ▸ active⟩
      · rw [given, if_pos active]
      · rw [idle] at active
        cases active
    · by_cases same : f.thread = e.thread
      · have there := hs.badge hu
        rw [same] at there ⊢
        rw [← thread, h.badge, (other hk hu same).2]
        exact there
      · rw [h.others (thread ▸ same)]
        exact hs.badge hu
  · rcases under hu with ⟨rfl, rfl, active⟩ | ⟨hk, hu⟩
    · rcases under hu' with ⟨rfl, -, -⟩ | ⟨hl, hu'⟩
      · rfl
      · rw [(other hl hu' (same.symm.trans thread)).1] at active
        cases active
    · rcases under hu' with ⟨rfl, rfl, active⟩ | ⟨-, hu'⟩
      · rw [(other hk hu (same.trans thread)).1] at active
        cases active
      · exact hs.alone hu hu' same
  · have stays {k : Nat} {f : EvaluationTask} (hk : k ≠ n) (hu : s.Underway k f) : s'.Underway k f := by
      refine ⟨?_, hu.2⟩
      rw [h.tasks, if_neg hk]
      exact hu.1
    have own (active : e'.state.active) : s'.Underway n e' := ⟨by rw [h.tasks, if_pos rfl], active⟩
    by_cases ht : t = e'.thread
    · rw [ht, h.badge] at hb
      rcases shift with ⟨same, -, kept⟩ | ⟨-, -, given⟩ | ⟨-, -, taken⟩
      · obtain ⟨k, f, hu, hf⟩ := hs.runs (kept ▸ hb)
        by_cases hk : k = n
        · rw [hk, System.Underway, task, Option.some.injEq] at hu
          obtain ⟨rfl, active⟩ := hu
          exact ⟨n, e', own (same ▸ active), ht.symm⟩
        · exact ⟨k, f, stays hk hu, hf.trans (thread.symm.trans ht.symm)⟩
      · rw [given] at hb
        split at hb
        · rename_i active
          exact ⟨n, e', own active, ht.symm⟩
        · cases hb
      · rw [taken] at hb
        cases hb
    · obtain ⟨k, f, hu, hf⟩ := hs.runs ((h.others ht).symm.trans hb)
      refine ⟨k, f, stays ?_ hu, hf⟩
      rintro rfl
      obtain rfl : e = f := Option.some.inj (task.symm.trans hu.1)
      exact ht (hf.symm.trans thread.symm)

theorem performing (hs : s.Bracketed) (t : ThreadRef) :
    (s.thread t).evaluation.isSome ↔ ∃ k e, s.Underway k e ∧ e.thread = t := by
  constructor
  · intro h
    obtain ⟨m, hm⟩ := Option.isSome_iff_exists.mp h
    exact hs.runs (b := m.badge) (by rw [Thread.badge?, hm]; rfl)
  · rintro ⟨k, e, under, rfl⟩
    have badge := hs.badge under
    rw [Thread.badge?, Option.map_eq_some_iff] at badge
    obtain ⟨m, hm, -⟩ := badge
    rw [hm]
    rfl

theorem honored (hs : s.Bracketed) (t : ThreadRef) :
    (s.thread t).honorsBreakpoints ↔ ∀ k e, s.Underway k e → e.thread = t → e.honorsBreakpoints := by
  constructor
  · rintro honors k e under rfl
    have badge := hs.badge under
    rw [Thread.badge?, Option.map_eq_some_iff] at badge
    obtain ⟨m, hm, same⟩ := badge
    rw [Thread.honorsBreakpoints, hm] at honors
    exact (congrArg Prod.snd same).symm.trans honors
  · intro all
    rw [Thread.honorsBreakpoints]
    cases hm : (s.thread t).evaluation with
    | none => rfl
    | some m =>
      obtain ⟨k, e, under, rfl⟩ := hs.runs (t := t) (b := m.badge) (by rw [Thread.badge?, hm]; rfl)
      have badge := hs.badge under
      rw [Thread.badge?, hm, Option.map_some, Option.some.injEq] at badge
      exact (congrArg Prod.snd badge).trans (all k e under rfl)

/-- An evaluation is let into its thread unless another is under way there. -/
theorem admits_iff (hs : s.Bracketed) {n : Nat} {e : EvaluationTask} (task : s.evaluations[n]? = some e) :
    s.admits n ↔ e.state = .starting ∧ ¬∃ k f, s.Underway k f ∧ f.thread = e.thread := by
  have none : (s.thread e.thread).evaluation.isNone ↔ ¬(s.thread e.thread).evaluation.isSome := by simp
  rw [System.admits, task, Option.any_some, Bool.and_eq_true, none, hs.performing]
  refine and_congr_left fun _ => ?_
  cases e.state <;> simp

end System.Bracketed

/-! ## Turns of an evaluation -/

/-- Whether the operation is about evaluations, and about no other than this one. -/
def Operation.about (n : Nat) : Operation → Bool
  | finishEvaluation k | abandonEvaluation k => k == n
  | o => o.evaluates

/-- What a turn does to one evaluation, whether it lets it into its thread, and what it publishes for it. -/
inductive Fate (n : Nat) (s s' : System σ) : Bool → List DebugEvent → Prop
  | elsewhere (same : s'.evaluations[n]? = s.evaluations[n]?)
    (id : ∀ t < s.threads.size, (s'.thread t).id = (s.thread t).id) : Fate n s s' false []
  | arises {e : EvaluationTask} (absent : s.evaluations[n]? = none) (task : s'.evaluations[n]? = some e)
    (starting : e.state = .starting) : Fate n s s' false []
  | advances {e e' : EvaluationTask} {accepted : Bool} {badge : Option (Nat × Bool)} {said : List Announcement}
    (task : s.evaluations[n]? = some e) (advance : Advance s e accepted e' badge said)
    (becomes : Becomes n e' badge said s s') :
    Fate n s s' accepted (said.map (·.event (s.element e.thread)))

namespace Fate

variable {n : Nat} {s s' : System σ}

theorem of_keeps (h : KeepsEvaluations s s') : Fate n s s' false [] :=
  .elsewhere (by rw [h.tasks]) fun _ => h.id

theorem of_becomes {k : Nat} {e : EvaluationTask} {badge : Option (Nat × Bool)} {said : List Announcement}
    (other : n ≠ k) (h : Becomes k e badge said s s') : Fate n s s' false [] :=
  .elsewhere (by rw [h.tasks, if_neg other]) fun t _ => h.id t

theorem of_push {e : EvaluationTask} (marks : SameMarks s s') (tasks : s'.evaluations = s.evaluations.push e)
    (starting : e.state = .starting) : Fate n s s' false [] := by
  by_cases new : n = s.evaluations.size
  · refine .arises (e := e) (by rw [new]; simp) ?_ starting
    rw [tasks, new, Array.getElem?_push_size]
  · refine .elsewhere ?_ fun _ => marks.id
    rw [tasks, Array.getElem?_push, if_neg new]

end Fate

/-! ## What a run tells -/

/-- What an evaluation has published: a resume when it began, and a suspend if it is over. -/
def System.bracket (s : System σ) (e : EvaluationTask) (begun : Bool) : List DebugEvent :=
  if begun then
    (Announcement.resume e.detail).event (s.element e.thread) ::
      if e.state.active then [] else [(Announcement.suspend e.detail).event (s.element e.thread)]
  else []

/-- What a run tells of an evaluation. -/
private structure Told (n : Nat) (s : System σ) (begun : Bool) (said : List DebugEvent) : Prop where
  absent (h : s.evaluations[n]? = none) : begun = false ∧ said = []
  starting {e : EvaluationTask} (task : s.evaluations[n]? = some e) (h : e.state = .starting) : begun = false
  active {e : EvaluationTask} (task : s.evaluations[n]? = some e) (h : e.state.active) : begun = true
  bracket {e : EvaluationTask} (task : s.evaluations[n]? = some e) : said = s.bracket e begun

private theorem Fate.told {n : Nat} {s s' : System σ} {begun accepted : Bool} {before said : List DebugEvent}
    (known : ∀ e, s.evaluations[n]? = some e → e.thread < s.threads.size) (fate : Fate n s s' accepted said)
    (h : Told n s begun before) : Told n s' (begun || accepted) (before ++ said) := by
  cases fate with
  | elsewhere same id =>
    rw [Bool.or_false, List.append_nil]
    refine ⟨fun none => h.absent (same ▸ none), fun task => h.starting (same ▸ task),
      fun task => h.active (same ▸ task), fun {e} task => ?_⟩
    have task := same ▸ task
    rw [h.bracket task, System.bracket, System.bracket, System.element, System.element, id _ (known e task)]
  | arises absent task starting =>
    obtain ⟨rfl, rfl⟩ := h.absent absent
    refine ⟨fun none => ?_, fun _ _ => rfl, fun task' active => ?_, fun _ => rfl⟩
    · rw [task] at none
      cases none
    · obtain rfl := Option.some.inj (task.symm.trans task')
      rw [starting] at active
      cases active
  | @advances e e' accepted badge said task advance becomes =>
    have task' : s'.evaluations[n]? = some e' := by rw [becomes.tasks, if_pos rfl]
    have element : s'.element e'.thread = s.element e.thread := by
      rw [advance.same.1, System.element, System.element, becomes.id]
    have told := h.bracket task
    suffices own : (e'.state = .starting → (begun || accepted) = false) ∧
        (e'.state.active → (begun || accepted) = true) ∧
        before ++ said.map (·.event (s.element e.thread)) = s'.bracket e' (begun || accepted) by
      refine ⟨fun none => ?_, fun task'' => ?_, fun task'' => ?_, fun task'' => ?_⟩
      · rw [task'] at none
        cases none
      all_goals obtain rfl := Option.some.inj (task'.symm.trans task'')
      · exact own.1
      · exact own.2.1
      · exact own.2.2
    rw [System.bracket, element, advance.same.2.1, told]
    cases advance with
    | told =>
      simp only [Bool.or_false, System.bracket, List.map_nil, List.append_nil, and_true]
      exact ⟨h.starting task, h.active task⟩
    | refused starting => simp [System.bracket, h.starting task starting]
    | begins starting free active =>
      simp [System.bracket, h.starting task starting, active, EvaluationState.ne_starting active]
    | passes starting free => simp [System.bracket, h.starting task starting]
    | goesOn active after =>
      simp [System.bracket, h.active task active, active, after, EvaluationState.ne_starting after]
    | ends active => simp [System.bracket, h.active task active, active]

/-! ## Every move -/

/-- So much, and no more, becomes of evaluations. -/
private structure Served (k : Nat) (accepted : Bool) (s s' : System σ) : Prop where
  bracketed : s'.Bracketed
  others (n : Nat) (h : n ≠ k) : Fate n s s' false []
  own : ∃ said, s'.bus.published = s.bus.published ++ said ∧ Fate k s s' accepted said

private theorem Fate.quiet {n : Nat} {s s' : System σ} (bus : s'.bus = s.bus) (h : Fate n s s' false []) :
    ∃ said, s'.bus.published = s.bus.published ++ said ∧ Fate n s s' false said :=
  ⟨[], by rw [bus, List.append_nil], h⟩

/-- Something is done to an evaluation, if it is not over yet. -/
private theorem Served.of_advance {k : Nat} {accepted : Bool} {s s' : System σ} (hs : s.Bracketed)
    (idle : (∀ e, s.evaluations[k]? = some e → ∃ r, e.state = .done r) →
      accepted = false ∧ KeepsEvaluations s s' ∧ s'.bus = s.bus)
    (goes : ∀ e, s.evaluations[k]? = some e → (∀ r, e.state ≠ .done r) →
      ∃ e' badge said, Advance s e accepted e' badge said ∧ Becomes k e' badge said s s') :
    Served k accepted s s' := by
  by_cases pending : ∃ e, s.evaluations[k]? = some e ∧ ∀ r, e.state ≠ .done r
  · obtain ⟨e, task, pending⟩ := pending
    obtain ⟨e', badge, said, advance, becomes⟩ := goes e task pending
    exact ⟨hs.advance task advance becomes, fun n other => .of_becomes other becomes, _,
      advance.same.1 ▸ becomes.published, .advances task advance becomes⟩
  · obtain ⟨rfl, keeps, bus⟩ := idle fun e task => by
      by_contra h
      exact pending ⟨e, task, fun r hr => h ⟨r, hr⟩⟩
    exact ⟨hs.keeps keeps, fun n _ => .of_keeps keeps, (Fate.of_keeps keeps).quiet bus⟩

section

variable [Session σ] {w : Surroundings σ} {n : Nat} {s s' : System σ} {begun accepted : Bool}
  {before said : List DebugEvent}

/-- A move, whether it lets the evaluation into its thread, and what it publishes for it: all that is published in the
evaluation's own turns and by the operations about it. -/
inductive EvaluationTurn (w : Surroundings σ) (n : Nat) (s : System σ) : System σ → Bool → List DebugEvent → Prop
  | stretch {said : List DebugEvent} (turn : s.turn? = some (.evaluation n))
    (published : (runNext s).2.bus.published = s.bus.published ++ said) :
    EvaluationTurn w n s (runNext s).2 (s.admits n) said
  | asked {o : Operation} {said : List DebugEvent} (about : o.about n) (known : o.Known s)
    (published : (o.perform s).bus.published = s.bus.published ++ said) :
    EvaluationTurn w n s (o.perform s) false said
  | operation {o : Operation} (about : o.about n = false) (known : o.Known s) :
    EvaluationTurn w n s (o.perform s) false []
  | run (turn : s.turn? ≠ some (.evaluation n)) : EvaluationTurn w n s (runNext s).2 false []
  | wait (time : Nat) : EvaluationTurn w n s (s.passTime time) false []
  | letIn : EvaluationTurn w n s (letInHeld s).2 false []
  | machine {m : σ} (h : w.acts s.session m) : EvaluationTurn w n s { s with session := m } false []
  | fire {e : DebugEvent} (h : w.publishes e) : EvaluationTurn w n s { s with bus := s.bus.fire e } false []
  | queue {e : DebugEvent} (h : w.publishes e) : EvaluationTurn w n s { s with bus := s.bus.queue e } false []

/-- A run from an attachment on, whether it has let the evaluation into its thread, and what it has published for
it. -/
inductive EvaluationRun (w : Surroundings σ) (n : Nat) : System σ → Bool → List DebugEvent → Prop
  | attach {m : σ} {settings : TargetSettings} {s : System σ} (start : w.starts m) (h : attach m settings = .ok s) :
    EvaluationRun w n s false []
  | turn {s s' : System σ} {begun accepted : Bool} {before said : List DebugEvent}
    (hs : EvaluationRun w n s begun before) (h : EvaluationTurn w n s s' accepted said) :
    EvaluationRun w n s' (begun || accepted) (before ++ said)

/-- An evaluation has its turn. -/
private theorem runNext_served (hs : s.Bracketed) (turn : s.turn? = some (.evaluation n)) :
    Served n (s.admits n) s (runNext s).2 := by
  obtain ⟨rest, -, ran⟩ := runNext_evaluation turn
  rw [ran]
  refine .of_advance hs (fun ended => ?_) fun e task pending => ?_
  · rw [runEvaluation_idle (s := { s with ready := rest }) ended]
    refine ⟨?_, .of_core rfl, rfl⟩
    rw [System.admits]
    cases task : s.evaluations[n]? with
    | none => rfl
    | some e =>
      obtain ⟨r, hr⟩ := ended e task
      simp [hr]
  · obtain ⟨e', badge, said, advance, becomes⟩ :=
      runEvaluation_advance (s := { s with ready := rest }) task (hs.known task) pending
    exact ⟨e', badge, said, advance.of_badge rfl,
      becomes.tasks, becomes.size, becomes.badge, becomes.others, becomes.id, becomes.published⟩

/-- The client asks for something that is about evaluations. -/
private theorem perform_fate {o : Operation} (hs : s.Bracketed) (known : o.Known s) (evaluates : o.evaluates) :
    (o.perform s).Bracketed ∧ (o.about n = false → Fate n s (o.perform s) false []) ∧
    (o.about n →
      ∃ said, (o.perform s).bus.published = s.bus.published ++ said ∧ Fate n s (o.perform s) false said) := by
  -- what is asked of one evaluation is about another or about this one
  have one {k : Nat} {s' : System σ} (about : o.about n = (k == n)) (h : Served k false s s') :
      s'.Bracketed ∧ (o.about n = false → Fate n s s' false []) ∧
      (o.about n → ∃ said, s'.bus.published = s.bus.published ++ said ∧ Fate n s s' false said) := by
    rw [about]
    refine ⟨h.bracketed, fun other => h.others n fun same => ?_, fun same => ?_⟩
    · simp [same] at other
    · obtain rfl : k = n := by simpa using same
      exact h.own
  cases o with
  | evaluate t detail honors body =>
    obtain ⟨marks, bus, tasks⟩ := evaluate_creates t detail honors body s
    have fate : Fate n s (Debugger.evaluate t detail honors body s).2 false [] := .of_push marks tasks rfl
    exact ⟨hs.push marks tasks rfl (known t rfl), fun _ => fate, fun _ => fate.quiet bus⟩
  | terminateEvaluation t =>
    obtain ⟨keeps, bus⟩ := terminateEvaluation_keeps t s
    exact ⟨hs.keeps keeps, fun _ => .of_keeps keeps, fun _ => (Fate.of_keeps keeps).quiet bus⟩
  | finishEvaluation k =>
    have served : Served k false s (Debugger.finishEvaluation k s).2 := by
      refine .of_advance hs (fun ended => ?_) fun e task pending => ⟨_, _, _, .told, finishEvaluation_told task pending⟩
      rw [finishEvaluation_idle ended]
      exact ⟨rfl, refl_of _ s, rfl⟩
    exact one rfl served
  | abandonEvaluation k =>
    have served : Served k false s (Debugger.abandonEvaluation k s).2 := by
      refine .of_advance hs (fun ended => ?_) fun e task pending => abandonEvaluation_advance task pending
      rw [abandonEvaluation_idle ended]
      exact ⟨rfl, refl_of _ s, rfl⟩
    exact one rfl served
  | _ => cases evaluates

omit [Session σ] in
private theorem Operation.evaluates_of_about {o : Operation} (about : o.about n) : o.evaluates := by
  cases o <;> first | rfl | cases about

/-- A turn leaves evaluations bracketed, and does so much to the one that it is about. -/
theorem EvaluationTurn.fate (hs : s.Bracketed) (h : EvaluationTurn w n s s' accepted said) :
    s'.Bracketed ∧ Fate n s s' accepted said := by
  have kept (keeps : KeepsEvaluations s s') : s'.Bracketed ∧ Fate n s s' false [] := ⟨hs.keeps keeps, .of_keeps keeps⟩
  have all {said' : List DebugEvent} {accepted : Bool} (published : s'.bus.published = s.bus.published ++ said')
      (own : ∃ said, s'.bus.published = s.bus.published ++ said ∧ Fate n s s' accepted said) :
      Fate n s s' accepted said' := by
    obtain ⟨said, said_all, fate⟩ := own
    obtain rfl : said = said' := List.append_cancel_left (said_all.symm.trans published)
    exact fate
  cases h with
  | stretch turn published =>
    have served := runNext_served hs turn
    exact ⟨served.bracketed, all published served.own⟩
  | asked about known published =>
    obtain ⟨bracketed, -, own⟩ := perform_fate (n := n) hs known (Operation.evaluates_of_about about)
    exact ⟨bracketed, all published (own about)⟩
  | @operation o about known =>
    cases evaluates : o.evaluates with
    | true =>
      obtain ⟨bracketed, other, -⟩ := perform_fate (n := n) hs known evaluates
      exact ⟨bracketed, other about⟩
    | false =>
      cases watches : o.watches with
      | true => exact kept (o.perform_watched s watches).keepsEvaluations
      | false =>
        rcases o.perform_changes s evaluates watches with h | h
        · exact kept (Path.keepsErrands h).evaluations
        · exact kept h.keepsErrands.evaluations
  | run turn =>
    rcases runNext_turn s with ⟨k, turn'⟩ | ⟨k, turn'⟩ | handled
    · have served := runNext_served hs turn'
      refine ⟨served.bracketed, served.others n ?_⟩
      rintro rfl
      exact turn turn'
    · exact kept (runNext_watched turn').keepsEvaluations
    · exact kept handled.keepsErrands.evaluations
  | wait time => exact kept (passTime_path s time).keepsEvaluations
  | letIn => exact kept (Path.keepsErrands (letInHeld_path s)).evaluations
  | machine | fire | queue => exact kept ⟨Nat.le_refl _, fun _ => rfl, fun _ => rfl, rfl⟩

private theorem bracketed_blank (m : σ) (settings : TargetSettings) : (System.blank m settings).Bracketed where
  known task := by simp [System.blank] at task
  badge h := by simp [System.blank, System.Underway] at h
  alone h := by simp [System.blank, System.Underway] at h
  runs {t b} h := by
    rw [System.thread_of_size_le (Nat.zero_le t)] at h
    cases h

private theorem EvaluationRun.told (run : EvaluationRun w n s begun said) : s.Bracketed ∧ Told n s begun said := by
  induction run with
  | @attach m settings s start h =>
    have keeps := (Path.keepsErrands (attach_path h)).evaluations
    have none : s.evaluations[n]? = none := by
      rw [keeps.tasks]
      rfl
    exact ⟨(bracketed_blank m settings).keeps keeps, fun _ => ⟨rfl, rfl⟩, fun _ _ => rfl,
      fun task => by simp [none] at task, fun _ => rfl⟩
  | turn _ turn ih =>
    obtain ⟨bracketed, told⟩ := ih
    obtain ⟨bracketed', fate⟩ := turn.fate bracketed
    exact ⟨bracketed', fate.told (fun _ => bracketed.known) told⟩

/-- Whatever the client asks for goes on with a run. -/
theorem EvaluationRun.perform (run : EvaluationRun w n s begun said) {o : Operation} (known : o.Known s) :
    ∃ said', EvaluationRun w n (o.perform s) begun said' := by
  have next {said' : List DebugEvent} (turn : EvaluationTurn w n s (o.perform s) false said') :
      ∃ said', EvaluationRun w n (o.perform s) begun said' :=
    ⟨_, Bool.or_false begun ▸ run.turn turn⟩
  cases about : o.about n with
  | true =>
    obtain ⟨-, -, own⟩ := perform_fate (n := n) run.told.1 known (Operation.evaluates_of_about about)
    obtain ⟨said', published, -⟩ := own about
    exact next (.asked about known published)
  | false => exact next (.operation about known)

/-- Whatever task is next, its turn goes on with a run. -/
theorem EvaluationRun.runNext (run : EvaluationRun w n s begun said) :
    ∃ begun' said', EvaluationRun w n (runNext s).2 begun' said' := by
  by_cases turn : s.turn? = some (.evaluation n)
  · obtain ⟨said', published, -⟩ := (runNext_served run.told.1 turn).own
    exact ⟨_, _, run.turn (.stretch turn published)⟩
  · exact ⟨_, _, run.turn (.run turn)⟩

/-! ## The whole of it -/

/-- What a run comes to for evaluations, and for one of them. -/
structure System.Brackets (s : System σ) (n : Nat) (begun : Bool) (said : List DebugEvent) : Prop where
  /-- At most one evaluation is under way in a thread. -/
  alone {k l : Nat} {e f : EvaluationTask} (h : s.Underway k e) (h' : s.Underway l f) (same : e.thread = f.thread) :
    k = l
  performing (t : ThreadRef) : (s.thread t).evaluation.isSome ↔ ∃ k e, s.Underway k e ∧ e.thread = t
  terminable (t : ThreadRef) : s.canTerminateEvaluation t ↔ ∃ k e, s.Underway k e ∧ e.thread = t
  honored (t : ThreadRef) :
    (s.thread t).honorsBreakpoints ↔ ∀ k e, s.Underway k e → e.thread = t → e.honorsBreakpoints
  /-- What the evaluation has published is a resume once it has begun, and a suspend once it is over. -/
  published {e : EvaluationTask} (task : s.evaluations[n]? = some e) : said = s.bracket e begun
  begins {e : EvaluationTask} (task : s.evaluations[n]? = some e) :
    (e.state = .starting → begun = false) ∧ (e.state.active → begun = true)
  /-- The evaluation is let in unless another is under way in its thread. -/
  admitted {e : EvaluationTask} (task : s.evaluations[n]? = some e) :
    s.admits n ↔ e.state = .starting ∧ ¬∃ k f, s.Underway k f ∧ f.thread = e.thread
  /-- If another is, it fails, and of all else only the queue of tasks has changed. -/
  nested {e : EvaluationTask} (task : s.evaluations[n]? = some e) (starting : e.state = .starting)
    (other : ∃ k f, s.Underway k f ∧ f.thread = e.thread) (turn : s.turn? = some (.evaluation n)) :
    ∃ ready, (runNext s).2 = { s with
      ready
      evaluations := s.evaluations.modify n fun e => { e with state := .done (.error .nested) } }
  /-- One that a body attempts fails, and nothing has changed. -/
  inside {k : Nat} {e : EvaluationTask} (h : s.Underway k e) (detail : EventDetail) :
    evaluateInside e.thread detail s = .error .nested s
  /-- While an evaluation is under way that does not honor breakpoints, a hit in its thread is counted, and that is
  all, whatever came before it in its set. -/
  deaf {k : Nat} {e : EvaluationTask} (h : s.Underway k e) (deaf : e.honorsBreakpoints = false) (before : List VmEvent)
    {request : RequestId} {id : ThreadId} (location : Location) {b : BreakpointRef}
    (thread : (handleEvents before s).2.find? id = some e.thread)
    (installed : (handleEvents before s).2.installed.find? request = some b) :
    handleEvent (.breakpoint request id location) (handleEvents before s).2 =
      (.resume, (handleEvents before s).2.countHit b)

private theorem hit_counted (hs : s.Bracketed) {k : Nat} {e : EvaluationTask} (under : s.Underway k e)
    (deaf : e.honorsBreakpoints = false) {request : RequestId} {id : ThreadId} (location : Location)
    {b : BreakpointRef} (thread : s.find? id = some e.thread) (installed : s.installed.find? request = some b) :
    handleEvent (.breakpoint request id location) s = (.resume, s.countHit b) := by
  have ignores : ((s.countHit b).thread e.thread).honorsBreakpoints = false := by
    by_contra h
    have honors := (hs.honored e.thread).mp (eq_true_of_ne_false h) k e under rfl
    rw [deaf] at honors
    cases honors
  have listed : (s.countHit b).find? id = some e.thread := thread
  rw [handleEvent, handleBreakpoint_eq installed (addThread_listed listed), if_neg (by simp [ignores])]

/-- Evaluations are bracketed, one at a time in a thread, and silent when asked. -/
theorem evaluations_bracketed (run : EvaluationRun w n s begun said) : s.Brackets n begun said := by
  obtain ⟨bracketed, told⟩ := run.told
  have busy {t : ThreadRef} (h : ∃ k f, s.Underway k f ∧ f.thread = t) : (s.thread t).evaluation.isSome :=
    (bracketed.performing t).mpr h
  refine { alone := bracketed.alone, performing := bracketed.performing, terminable := bracketed.performing,
           honored := bracketed.honored, published := told.bracket,
           begins := fun task => ⟨told.starting task, told.active task⟩, admitted := bracketed.admits_iff,
           nested := fun task starting other turn => ?_, inside := fun {k e} under detail => ?_,
           deaf := fun under deaf before _ _ location _ thread installed => ?_ }
  · obtain ⟨rest, -, ran⟩ := runNext_evaluation turn
    rw [ran, runEvaluation_nested (s := { s with ready := rest }) task starting (busy other)]
    exact ⟨rest, rfl⟩
  · rw [evaluateInside]
    simp only [bind, EStateM.bind, beginEvaluation_nested (busy ⟨k, e, under, rfl⟩)]
  · have keeps := (handleEvents_landing before s).keepsErrands.evaluations
    exact hit_counted (bracketed.keeps keeps) ⟨keeps.tasks ▸ under.1, under.2⟩ deaf location thread installed

end

/-- A machine with one suspended thread. -/
private def oneThread : Sample := ⟨[.addTask (sampleTask 1)], by decide +kernel⟩

/-- The client has asked for an evaluation in this thread. -/
private def oneAsked : System (Faulty Machine) :=
  (Operation.evaluate 0 .evaluation false .wait).perform oneThread.system

/-- It waits, and the client has asked for another. -/
private def twoAsked : System (Faulty Machine) :=
  (Operation.evaluate 0 .evaluationImplicit true .succeed).perform (runNext oneAsked).2

/-- The first has begun and is not over, and the second is about to be refused. -/
theorem evaluations_bracketed_waiting :
    twoAsked.Brackets 0 true [⟨.thread 1, .resume, .evaluation⟩] ∧
      twoAsked.evaluations.map (·.state.active) = #[true, false] ∧ twoAsked.turn? = some (.evaluation 1) := by
  have known (s : System (Faulty Machine)) (detail : EventDetail) (honors : Bool) (body : EvaluationBody)
      (h : s.threads.size = 1) : (Operation.evaluate 0 detail honors body).Known s := by
    rintro t ⟨⟩
    rw [h]
    exact Nat.one_pos
  have attached : EvaluationRun scripted 0 oneThread.system false [] :=
    .attach (sampleMachine_starts (by simp [oneThread, Scenario.MachineCommand.SparesSteps]))
      (sampleSystem_attached oneThread.attaches)
  have asked : EvaluationRun scripted 0 oneAsked false [] :=
    attached.turn (.asked rfl (known _ _ _ _ (by decide +kernel))
      (show oneAsked.bus.published = oneThread.system.bus.published ++ [] by decide +kernel))
  have begun := asked.turn (.stretch (by decide +kernel)
    (show (runNext oneAsked).2.bus.published = oneAsked.bus.published ++ [⟨.thread 1, .resume, .evaluation⟩] by
      decide +kernel))
  rw [show oneAsked.admits 0 = true by decide +kernel] at begun
  have again : EvaluationRun scripted 0 twoAsked true [⟨.thread 1, .resume, .evaluation⟩] :=
    begun.turn (.asked rfl (known _ _ _ _ (by decide +kernel))
      (show twoAsked.bus.published = (runNext oneAsked).2.bus.published ++ [] by decide +kernel))
  exact ⟨evaluations_bracketed again, by decide +kernel, by decide +kernel⟩

end Debugger
