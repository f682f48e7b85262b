import Debugger.Proofs.Errands

/-! # What becomes of evaluations

Few moves touch an evaluation at all.  One that does sees to a single task: the evaluation begins in its thread, goes
on, or is over, and what it publishes by that is told.
-/

namespace Debugger

variable {σ : Type}

/-- The evaluation has begun in its thread and is not over. -/
def EvaluationState.active : EvaluationState → Bool
  | waiting | invoking _ => true
  | _ => false

@[simp] theorem EvaluationState.active_starting : starting.active = false := rfl

@[simp] theorem EvaluationState.active_done (result : Except DebugError EvaluationResult) :
    (done result).active = false := rfl

theorem EvaluationState.ne_starting {state : EvaluationState} (h : state.active) : state ≠ starting := by
  rintro rfl
  cases h

/-! ## What is left alone -/

/-- The threads there were are the same and evaluate what they did, and nothing becomes of any evaluation. -/
structure KeepsEvaluations (s s' : System σ) : Prop where
  size : s.threads.size ≤ s'.threads.size
  badge (t : ThreadRef) : (s'.thread t).badge? = (s.thread t).badge?
  id {t : ThreadRef} (h : t < s.threads.size) : (s'.thread t).id = (s.thread t).id
  tasks : s'.evaluations = s.evaluations

instance : IsPreorder (System σ) KeepsEvaluations where
  refl _ := ⟨Nat.le_refl _, fun _ => rfl, fun _ => rfl, rfl⟩
  trans _ _ _ h h' := ⟨Nat.le_trans h.size h'.size, fun t => (h'.badge t).trans (h.badge t),
    fun ht => (h'.id (Nat.lt_of_lt_of_le ht h.size)).trans (h.id ht), h'.tasks.trans h.tasks⟩

theorem KeepsErrands.evaluations {s s' : System σ} (h : KeepsErrands s s') : KeepsEvaluations s s' :=
  ⟨h.size, h.badge, h.id, congrArg Prod.fst h.errands⟩

theorem KeepsEvaluations.of_core {s s' : System σ} (h : s'.core = s.core) : KeepsEvaluations s s' :=
  have same : SameMarks s s' := .of_eq (congrArg Core.threads h)
  ⟨same.size, same.badge, same.id, congrArg Core.evaluations h⟩

/-- A suspend request is no evaluation. -/
theorem WatchPath.keepsEvaluations [Session σ] {s s' : System σ} (h : WatchPath s s') : KeepsEvaluations s s' := by
  induction h with
  | refl => exact refl_of KeepsEvaluations s
  | @tail s₁ s' _ hc ih =>
    refine trans_of KeepsEvaluations ih ?_
    cases hc with
    | change hc => exact KeepsErrands.evaluations (Path.keepsErrands (.single hc))
    | watching hc =>
      cases hc with
      | aside h => exact .of_core h
      | suspending t b =>
        exact ⟨Nat.le_of_eq (System.size_mapThread s₁ t _).symm,
          System.mapThread_keeps (g := Thread.badge?) (fun _ => by rfl) s₁ t, fun _ =>
          System.id_mapThread (fun _ => by rfl) s₁ t _, rfl⟩

/-! ## What is done to one evaluation -/

/-- The task of the evaluation is `e` then, its thread bears the badge, and so much is said of the thread; every other
evaluation is left alone. -/
structure Becomes (n : Nat) (e : EvaluationTask) (badge : Option (Nat × Bool)) (said : List Announcement)
    (s s' : System σ) : Prop where
  tasks (k : Nat) : s'.evaluations[k]? = if k = n then some e else s.evaluations[k]?
  size : s'.threads.size = s.threads.size
  badge : (s'.thread e.thread).badge? = badge
  others {t : ThreadRef} (h : t ≠ e.thread) : (s'.thread t).badge? = (s.thread t).badge?
  id (t : ThreadRef) : (s'.thread t).id = (s.thread t).id
  published : s'.bus.published = s.bus.published ++ said.map (·.event (s.element e.thread))

/-- How a task of an evaluation goes on: whether it is let into its thread by that, what it is then, what badge its
thread bears, and what is said of the thread. -/
inductive Advance (s : System σ) (e : EvaluationTask) :
    Bool → EvaluationTask → Option (Nat × Bool) → List Announcement → Prop
  /-- The client tells it to finish. -/
  | told : Advance s e false { e with finish := true } (s.thread e.thread).badge? []
  /-- It never begins: the thread evaluates something else, or the client forgets it. -/
  | refused {result : Except DebugError EvaluationResult} (starting : e.state = .starting) :
    Advance s e false { e with state := .done result } (s.thread e.thread).badge? []
  | begins {token : Nat} {state : EvaluationState} (starting : e.state = .starting)
    (free : (s.thread e.thread).badge? = none) (active : state.active) :
    Advance s e true { e with token, state } (some (token, e.honorsBreakpoints)) [.resume e.detail]
  /-- It begins and is over at once. -/
  | passes {token : Nat} {result : Except DebugError EvaluationResult} (starting : e.state = .starting)
    (free : (s.thread e.thread).badge? = none) :
    Advance s e true { e with token, state := .done result } none [.resume e.detail, .suspend e.detail]
  | goesOn {state : EvaluationState} (before : e.state.active) (after : state.active) :
    Advance s e false { e with state } (s.thread e.thread).badge? []
  | ends {result : Except DebugError EvaluationResult} (before : e.state.active) :
    Advance s e false { e with state := .done result } none [.suspend e.detail]

/-- The thread runs the evaluation, or none. -/
def System.setRuns (s : System σ) (t : ThreadRef) (m : Option Evaluation) : System σ :=
  s.mapThread t fun th => { th with evaluation := m }

theorem badge?_setRuns {s : System σ} {t : ThreadRef} {m : Option Evaluation}
    (known : t < s.threads.size ∨ m = none) : ((s.setRuns t m).thread t).badge? = m.map Evaluation.badge := by
  rw [System.setRuns, System.thread_mapThread]
  split
  · rfl
  · rename_i absent
    obtain rfl : m = none := known.resolve_left fun hl => absent ⟨rfl, hl⟩
    rw [System.thread_of_size_le (Nat.le_of_not_lt fun hl => absent ⟨rfl, hl⟩)]
    rfl

namespace Becomes

variable {s s₁ s' : System σ} {n : Nat} {e e' : EvaluationTask} {badge badge' : Option (Nat × Bool)}
  {said said' : List Announcement}

theorem trans (h : Becomes n e badge said s s₁) (h' : Becomes n e' badge' said' s₁ s')
    (same : e'.thread = e.thread) : Becomes n e' badge' (said ++ said') s s' where
  tasks k := by
    rw [h'.tasks]
    split
    · rfl
    · rename_i other
      rw [h.tasks, if_neg other]
  size := h'.size.trans h.size
  badge := h'.badge
  others ht := (h'.others ht).trans (h.others (same ▸ ht))
  id t := (h'.id t).trans (h.id t)
  published := by
    rw [h'.published, h.published, same, List.map_append, List.append_assoc]
    refine congrArg (s.bus.published ++ ·) (congrArg (_ ++ ·) (List.map_congr_left fun a _ => ?_))
    exact congrArg (fun id => a.event (.thread id)) (h.id e.thread)

/-- What comes after is no concern of evaluations. -/
theorem aside (h : Becomes n e badge said s s₁) (core : s'.core = s₁.core) : Becomes n e badge said s s' where
  tasks k := by
    rw [show s'.evaluations = s₁.evaluations from congrArg Core.evaluations core]
    exact h.tasks k
  size := (congrArg (fun c : Core σ => c.threads.size) core :).trans h.size
  badge := by
    rw [System.thread_congr (congrArg Core.threads core)]
    exact h.badge
  others ht := by
    rw [System.thread_congr (congrArg Core.threads core)]
    exact h.others ht
  id t := by
    rw [System.thread_congr (congrArg Core.threads core)]
    exact h.id t
  published := by
    rw [show s'.bus = s₁.bus from congrArg Core.bus core]
    exact h.published

/-- Nothing is said, and the evaluation stays as it is. -/
theorem of_keeps (task : s.evaluations[n]? = some e) (keeps : KeepsEvaluations s s')
    (size : s'.threads.size = s.threads.size) (bus : s'.bus = s.bus) :
    Becomes n e (s.thread e.thread).badge? [] s s' where
  tasks k := by
    rw [keeps.tasks]
    split
    · rename_i own
      rw [own, task]
    · rfl
  size := size
  badge := keeps.badge _
  others _ := keeps.badge _
  id t := by
    by_cases ht : t < s.threads.size
    · exact keeps.id ht
    · rw [System.thread_of_size_le (Nat.le_of_not_lt ht), System.thread_of_size_le (size ▸ Nat.le_of_not_lt ht)]
  published := by simp [bus]

/-- Something is noted in the task. -/
theorem set (task : s.evaluations[n]? = some e) {f : EvaluationTask → EvaluationTask}
    (same : (f e).thread = e.thread) : Becomes n (f e) (s.thread e.thread).badge? [] s (s.setEvaluation n f) where
  tasks k := by
    rw [System.setEvaluation, Array.getElem?_modify]
    by_cases own : n = k
    · rw [if_pos own, if_pos own.symm, ← own, task]
      rfl
    · rw [if_neg own, if_neg (Ne.symm own)]
  size := rfl
  badge := congrArg (fun t => (s.thread t).badge?) same
  others _ := rfl
  id _ := rfl
  published := by simp [System.setEvaluation]

/-- The thread is told what it runs, which is announced. -/
theorem announced (task : s.evaluations[n]? = some e) {m : Option Evaluation}
    (known : e.thread < s.threads.size ∨ m = none) (a : Announcement) :
    Becomes n e (m.map Evaluation.badge) [a] s ((s.setRuns e.thread m).fire (s.element e.thread) a) where
  tasks k := by
    split
    · rename_i own
      rw [own]
      exact task
    · rfl
  size := System.size_mapThread s e.thread _
  badge := badge?_setRuns known
  others ht := congrArg Thread.badge? (System.thread_mapThread_of_ne s ht.symm _)
  id t := System.id_mapThread (fun _ => by rfl) s e.thread t
  published := Bus.published_fire _ _

end Becomes

/-! ## Beginning and ending -/

section

variable {s : System σ} {n : Nat} {e : EvaluationTask}

theorem Thread.badge?_eq_none {th : Thread} : th.badge? = none ↔ th.evaluation = none := Option.map_eq_none_iff

/-- A thread that evaluates lets no other evaluation in. -/
theorem beginEvaluation_nested {t : ThreadRef} (marked : (s.thread t).evaluation.isSome) (detail : EventDetail)
    (honors : Bool) : beginEvaluation t detail honors s = .error .nested s := by
  rw [beginEvaluation, act_get_bind, if_pos marked]
  rfl

theorem beginEvaluation_free {t : ThreadRef} (free : (s.thread t).evaluation = none) (detail : EventDetail)
    (honors : Bool) : beginEvaluation t detail honors s = .ok s.nextToken
      (({ s with nextToken := s.nextToken + 1 }.setRuns t (some ⟨s.nextToken, honors, false⟩)).fire (s.element t)
        (.resume detail)) := by
  have id : ((s.setRuns t (some ⟨s.nextToken, honors, false⟩)).thread t).id = (s.thread t).id :=
    System.id_mapThread (fun _ => by rfl) s t t
  rw [beginEvaluation, act_get_bind, free]
  change EStateM.Result.ok s.nextToken (System.fire _ (.thread _) _) = _
  exact congrArg (fun id => EStateM.Result.ok s.nextToken (System.fire _ (.thread id) _)) id

theorem Becomes.begins (task : s.evaluations[n]? = some e) (known : e.thread < s.threads.size) (honors : Bool) :
    Becomes n e (some (s.nextToken, honors)) [.resume e.detail] s
      (({ s with nextToken := s.nextToken + 1 }.setRuns e.thread (some ⟨s.nextToken, honors, false⟩)).fire
        (s.element e.thread) (.resume e.detail)) := by
  have entered := Becomes.announced (s := { s with nextToken := s.nextToken + 1 }) task
    (m := some ⟨s.nextToken, honors, false⟩) (.inl known) (.resume e.detail)
  exact ⟨entered.tasks, entered.size, entered.badge, entered.others, entered.id, entered.published⟩

theorem Becomes.ends (task : s.evaluations[n]? = some e) (detail : EventDetail) :
    Becomes n e none [.suspend detail] s (s.endEvaluation e.thread detail) :=
  Becomes.announced task (m := none) (.inr rfl) (.suspend detail)

/-! ## A stretch of an evaluation -/

/-- The evaluation is at its start, in a thread that evaluates nothing. -/
def System.admits (s : System σ) (n : Nat) : Bool :=
  s.evaluations[n]?.any fun e => e.state matches .starting && (s.thread e.thread).evaluation.isNone

variable [Session σ]

omit [Session σ] in
theorem Progress.note_stay (task : s.evaluations[n]? = some e) (state : EvaluationState) :
    Becomes n { e with state } (s.thread e.thread).badge? [] s ((Progress.stay state).note n e s).2 :=
  Becomes.set task (f := fun e => { e with state }) rfl

omit [Session σ] in
theorem Progress.note_over (task : s.evaluations[n]? = some e) (result : Except DebugError EvaluationResult) :
    Becomes n { e with state := .done result } none [.suspend e.detail] s ((Progress.over result).note n e s).2 := by
  have ended := Becomes.ends task e.detail
  have kept : (s.endEvaluation e.thread e.detail).evaluations[n]? = some e := task
  have noted := Becomes.set kept (f := fun e => { e with state := .done result }) rfl
  rw [ended.badge] at noted
  exact ended.trans noted rfl

/-- An invocation begins without a word, and without a change to what the thread evaluates. -/
private theorem enterInvocation_becomes (task : s.evaluations[n]? = some e) (t : ThreadRef) (call : Invocation)
    (alive : s.targetAlive) (idle : (s.thread t).invoking = false) (suspended : (s.thread t).isSuspended) :
    Becomes n e (s.thread e.thread).badge? [] s
      ((s.enterInvocation t call).wake (.invocation s.invocations.size)) := by
  let running := (s.mapThread t fun th => { th with invoking := true }).startRunning t
  have lifted := System.liftTimeout_rest running s.session
  have path : Path s ((s.enterInvocation t call).wake (.invocation s.invocations.size)) :=
    (Path.single (.beginInvocation call alive idle suspended)).trans (wake_path _ rfl)
  have core := core_wake (s.enterInvocation t call) (.invocation s.invocations.size)
  have bus := (congrArg Core.bus core :).trans (congrArg System.bus lifted :)
  refine .of_keeps task (Path.keepsErrands path).evaluations ?_ bus
  have size : running.threads.size = s.threads.size := by
    simp [running, System.startRunning, System.preserveFrames]
  exact (congrArg (fun c : Core σ => c.threads.size) core :).trans
    ((congrArg (fun s : System σ => s.threads.size) lifted :).trans size)

omit [Session σ] in
/-- An evaluation that goes on waiting is still under way. -/
private theorem active_of_keepWaiting {state : EvaluationState} (h : keepWaiting s e = .stay state) : state.active := by
  unfold keepWaiting at h
  split at h
  · cases h
  · split at h
    · cases h
    · cases h
      rfl

omit [Session σ] in
private theorem active_of_awaitInvocation {m : Nat} {state : EvaluationState} (h : awaitInvocation s m = .stay state) :
    state.active := by
  unfold awaitInvocation at h
  split at h
  · cases h
  · cases h
    rfl

/-- The first stretch of a body, in a thread that evaluates already: nothing is said and nothing else begins there. -/
private theorem startBody_becomes (task : s.evaluations[n]? = some e) (marked : (s.thread e.thread).evaluation.isSome) :
    Becomes n e (s.thread e.thread).badge? [] s (startBody e s).2 ∧
      ∀ state, (startBody e s).1 = .stay state → state.active := by
  have idle : Becomes n e (s.thread e.thread).badge? [] s s := .of_keeps task (refl_of _ s) rfl rfl
  obtain ⟨t, detail, honors, body, token, finish, state⟩ := e
  cases body with
  | succeed => exact ⟨idle, fun _ h => by cases h⟩
  | fail => exact ⟨idle, fun _ h => by cases h⟩
  | wait => exact ⟨idle, fun state h => active_of_keepWaiting h⟩
  | nest =>
    have nested : evaluateInside t detail s = .error .nested s := by
      rw [evaluateInside]
      simp only [bind, EStateM.bind, beginEvaluation_nested marked]
    have ran : startBody ⟨t, detail, honors, .nest, token, finish, state⟩ s =
        (.over (.ok (.nested (.error .nested))), s) := by
      rw [startBody]
      dsimp only
      rw [run_bind (attempt_error nested)]
      rfl
    rw [ran]
    exact ⟨idle, fun _ h => by cases h⟩
  | invoke target method args nonvirtual =>
    rcases beginInvocation_cases t target method args nonvirtual s with
      ⟨err, refused⟩ | ⟨alive, free, suspended, call, begun⟩
    · have ran : startBody ⟨t, detail, honors, .invoke target method args nonvirtual, token, finish, state⟩ s =
          (.over (.error err), s) := by
        rw [startBody]
        dsimp only
        rw [run_bind (attempt_error refused)]
        rfl
      rw [ran]
      exact ⟨idle, fun _ h => by cases h⟩
    · have ran : startBody ⟨t, detail, honors, .invoke target method args nonvirtual, token, finish, state⟩ s =
          (.stay (.invoking s.invocations.size),
            (s.enterInvocation t call).wake (.invocation s.invocations.size)) := by
        rw [startBody]
        dsimp only
        rw [run_bind (attempt_ok begun)]
        rfl
      rw [ran]
      exact ⟨enterInvocation_becomes task t call alive free suspended, fun _ h => by cases h; rfl⟩

/-- A second evaluation is refused, of which nobody hears. -/
theorem runEvaluation_nested (task : s.evaluations[n]? = some e) (starting : e.state = .starting)
    (marked : (s.thread e.thread).evaluation.isSome) :
    runEvaluation n s = ((), s.setEvaluation n fun e => { e with state := .done (.error .nested) }) := by
  obtain ⟨t, detail, honors, body, token, finish, state⟩ := e
  obtain rfl : state = .starting := starting
  rw [runEvaluation, run_get_bind, task]
  dsimp only
  rw [run_bind (attempt_error (beginEvaluation_nested marked detail honors))]
  rfl

/-- An evaluation that is let in notes its token and then starts its body. -/
private theorem runEvaluation_starts {token : Nat} {s₁ : System σ} (task : s.evaluations[n]? = some e)
    (starting : e.state = .starting)
    (begun : beginEvaluation e.thread e.detail e.honorsBreakpoints s = .ok token s₁) :
    runEvaluation n s =
      let (p, s₂) := startBody { e with token } (s₁.setEvaluation n fun e => { e with token })
      p.note n { e with token } s₂ := by
  obtain ⟨t, detail, honors, body, old, finish, state⟩ := e
  obtain rfl : state = .starting := starting
  rw [runEvaluation, run_get_bind, task]
  dsimp only at begun ⊢
  rw [run_bind (attempt_ok begun)]
  dsimp only
  rw [run_modify_bind]
  rcases hp : startBody _ (s₁.setEvaluation n fun e => { e with token }) with ⟨p, s₃⟩
  rw [run_bind hp]
  cases p with
  | stay state => rfl
  | «over» result => rfl

/-- An evaluation that is let in has begun after its first stretch, or is over. -/
private theorem runEvaluation_admitted (task : s.evaluations[n]? = some e) (known : e.thread < s.threads.size)
    (starting : e.state = .starting) (free : (s.thread e.thread).evaluation = none) :
    ∃ e' badge said, Advance s e true e' badge said ∧ Becomes n e' badge said s (runEvaluation n s).2 := by
  have unmarked : (s.thread e.thread).badge? = none := Thread.badge?_eq_none.mpr free
  have begins := Becomes.begins task known e.honorsBreakpoints
  have begun := beginEvaluation_free free e.detail e.honorsBreakpoints
  generalize hs₁ : System.fire _ _ (.resume e.detail) = s₁ at begins begun
  have task₁ : s₁.evaluations[n]? = some e := hs₁ ▸ task
  -- the token is noted, and then the body starts
  have noted := Becomes.set task₁ (f := fun e => { e with token := s.nextToken }) rfl
  have entered := begins.trans noted rfl
  rw [begins.badge, List.append_nil] at entered
  generalize hs₂ : s₁.setEvaluation n (fun e => { e with token := s.nextToken }) = s₂ at entered noted
  have task₂ : s₂.evaluations[n]? = some { e with token := s.nextToken } := by
    rw [entered.tasks, if_pos rfl]
  have marked : (s₂.thread e.thread).evaluation.isSome := by
    have badge : (s₂.thread e.thread).badge? = some _ := entered.badge
    rw [Thread.badge?, Option.map_eq_some_iff] at badge
    obtain ⟨m, hm, -⟩ := badge
    rw [hm]
    rfl
  obtain ⟨started, stays⟩ := startBody_becomes task₂ marked
  have ran := runEvaluation_starts task starting begun
  rw [hs₂] at ran
  have through := entered.trans started rfl
  rw [entered.badge, List.append_nil] at through
  generalize hb : startBody { e with token := s.nextToken } s₂ = ran₂ at ran stays through
  obtain ⟨p, s₃⟩ := ran₂
  have task₃ : s₃.evaluations[n]? = some { e with token := s.nextToken } := by
    rw [through.tasks, if_pos rfl]
  rw [ran]
  cases p with
  | stay state =>
    have left := through.trans (Progress.note_stay task₃ state) rfl
    rw [through.badge, List.append_nil] at left
    exact ⟨_, _, _, .begins starting unmarked (stays state rfl), left⟩
  | «over» result =>
    exact ⟨_, _, _, .passes starting unmarked, through.trans (Progress.note_over task₃ result) rfl⟩

/-- What a stretch does for an evaluation that is not over. -/
theorem runEvaluation_advance (task : s.evaluations[n]? = some e) (known : e.thread < s.threads.size)
    (pending : ∀ r, e.state ≠ .done r) :
    ∃ e' badge said, Advance s e (s.admits n) e' badge said ∧ Becomes n e' badge said s (runEvaluation n s).2 := by
  have goes (p : Progress) (before : e.state.active) (stays : ∀ state, p = .stay state → state.active) :
      ∃ e' badge said, Advance s e false e' badge said ∧ Becomes n e' badge said s (p.note n e s).2 := by
    cases p with
    | stay state => exact ⟨_, _, _, .goesOn before (stays state rfl), Progress.note_stay task state⟩
    | «over» result => exact ⟨_, _, _, .ends before, Progress.note_over task result⟩
  have admitted (h : e.state.active) : s.admits n = false := by
    rw [System.admits, task]
    cases hs : e.state <;> simp_all [EvaluationState.active]
  cases hstate : e.state with
  | done r => exact (pending r hstate).elim
  | starting =>
    cases free : (s.thread e.thread).evaluation with
    | none =>
      have admitted : s.admits n = true := by rw [System.admits, task]; simp [hstate, free]
      rw [admitted]
      exact runEvaluation_admitted task known hstate free
    | some m =>
      have refused : s.admits n = false := by rw [System.admits, task]; simp [free]
      have marked : (s.thread e.thread).evaluation.isSome := by rw [free]; rfl
      rw [refused, runEvaluation_nested task hstate marked]
      exact ⟨_, _, _, .refused hstate, Becomes.set task (f := fun e => { e with state := .done _ }) rfl⟩
  | waiting =>
    have active : e.state.active := by rw [hstate]; rfl
    have ran : runEvaluation n s = (keepWaiting s e).note n e s := by
      rw [runEvaluation, run_get_bind, task]
      dsimp only
      rw [hstate]
      dsimp only
      rw [run_get_bind]
      cases keepWaiting s e <;> rfl
    rw [admitted active, ran]
    exact goes _ active fun _ => active_of_keepWaiting
  | invoking m =>
    have active : e.state.active := by rw [hstate]; rfl
    have ran : runEvaluation n s = (awaitInvocation s m).note n e s := by
      rw [runEvaluation, run_get_bind, task]
      dsimp only
      rw [hstate]
      dsimp only
      rw [run_get_bind]
      cases awaitInvocation s m <;> rfl
    rw [admitted active, ran]
    exact goes _ active fun _ => active_of_awaitInvocation

/-- A stretch of an evaluation that is over comes to nothing. -/
theorem runEvaluation_idle (h : ∀ e, s.evaluations[n]? = some e → ∃ r, e.state = .done r) :
    runEvaluation n s = ((), s) := by
  rw [runEvaluation, run_get_bind]
  cases task : s.evaluations[n]? with
  | none => rfl
  | some e =>
    obtain ⟨r, done⟩ := h e task
    dsimp only
    rw [done]
    rfl

/-! ## What a client asks for -/

omit [Session σ]

theorem finishEvaluation_told (task : s.evaluations[n]? = some e) (pending : ∀ r, e.state ≠ .done r) :
    Becomes n { e with finish := true } (s.thread e.thread).badge? [] s (finishEvaluation n s).2 := by
  have told := Becomes.set task (f := fun e => { e with finish := true }) rfl
  have ran : finishEvaluation n s =
      ((), (s.setEvaluation n fun e => { e with finish := true }).wake (.evaluation n)) := by
    rw [finishEvaluation, run_get_bind, task]
    obtain ⟨t, detail, honors, body, token, finish, state⟩ := e
    cases state with
    | done r => exact (pending r rfl).elim
    | _ => rfl
  rw [ran]
  exact told.aside (core_wake _ _)

theorem finishEvaluation_idle (h : ∀ e, s.evaluations[n]? = some e → ∃ r, e.state = .done r) :
    finishEvaluation n s = ((), s) := by
  rw [finishEvaluation, run_get_bind]
  rcases task : s.evaluations[n]? with _ | ⟨t, detail, honors, body, token, finish, state⟩
  · rfl
  · obtain ⟨r, rfl⟩ : ∃ r, state = .done r := h _ task
    rfl

theorem abandonEvaluation_advance (task : s.evaluations[n]? = some e) (pending : ∀ r, e.state ≠ .done r) :
    ∃ e' badge said, Advance s e false e' badge said ∧ Becomes n e' badge said s (abandonEvaluation n s).2 := by
  have ended (active : e.state.active)
      (h : abandonEvaluation n s = ((), (s.endEvaluation e.thread e.detail).setEvaluation n fun e =>
        { e with state := .done (.error (.refused .cancelled "")) })) :
      ∃ e' badge said, Advance s e false e' badge said ∧ Becomes n e' badge said s (abandonEvaluation n s).2 := by
    rw [h]
    exact ⟨_, _, _, .ends active, Progress.note_over task _⟩
  rw [abandonEvaluation, run_get_bind, task] at ended ⊢
  obtain ⟨t, detail, honors, body, token, finish, state⟩ := e
  cases state with
  | done r => exact (pending r rfl).elim
  | starting => exact ⟨_, _, _, .refused rfl, Becomes.set task (f := fun e => { e with state := .done _ }) rfl⟩
  | waiting => exact ended rfl rfl
  | invoking m => exact ended rfl rfl

theorem abandonEvaluation_idle (h : ∀ e, s.evaluations[n]? = some e → ∃ r, e.state = .done r) :
    abandonEvaluation n s = ((), s) := by
  rw [abandonEvaluation, run_get_bind]
  rcases task : s.evaluations[n]? with _ | ⟨t, detail, honors, body, token, finish, state⟩
  · rfl
  · obtain ⟨r, rfl⟩ : ∃ r, state = .done r := h _ task
    rfl

/-- Telling an evaluation to end changes neither its badge nor its task. -/
theorem terminateEvaluation_keeps (t : ThreadRef) (s : System σ) :
    KeepsEvaluations s (terminateEvaluation t s).2 ∧ (terminateEvaluation t s).2.bus = s.bus := by
  rw [terminateEvaluation, run_get_bind]
  cases runs : (s.thread t).evaluation with
  | none => exact ⟨refl_of _ s, rfl⟩
  | some m =>
    have told : KeepsEvaluations s (s.setRuns t (some { m with cancelled := true })) := by
      refine ⟨Nat.le_of_eq (System.size_mapThread s t _).symm, fun u => ?_, fun _ =>
        System.id_mapThread (fun _ => by rfl) s t _, rfl⟩
      by_cases own : t = u ∧ u < s.threads.size
      · obtain ⟨rfl, known⟩ := own
        rw [badge?_setRuns (.inl known), Thread.badge?, runs]
        rfl
      · rw [System.setRuns, System.thread_mapThread, if_neg own]
    exact ⟨trans_of _ told (.of_core (core_wakeEvaluations _ _)), (congrArg Core.bus (core_wakeEvaluations _ _) :)⟩

/-- A task that is new starts an evaluation. -/
theorem evaluate_creates (t : ThreadRef) (detail : EventDetail) (honors : Bool) (body : EvaluationBody) (s : System σ) :
    SameMarks s (evaluate t detail honors body s).2 ∧ (evaluate t detail honors body s).2.bus = s.bus ∧
      (evaluate t detail honors body s).2.evaluations =
        s.evaluations.push ⟨t, detail, honors, body, 0, false, .starting⟩ := by
  have core := core_wake { s with evaluations := s.evaluations.push ⟨t, detail, honors, body, 0, false, .starting⟩ }
    (.evaluation s.evaluations.size)
  exact ⟨.of_eq (congrArg Core.threads core :), (congrArg Core.bus core :), (congrArg Core.evaluations core :)⟩

end

end Debugger
