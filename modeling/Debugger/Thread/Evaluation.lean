import Debugger.Thread.Invocation

/-! # Evaluations

A thread runs at most one evaluation at a time.  Its start is announced as a resume and its end as a
suspend, however it ends.  While it runs, breakpoints may be ignored if it asked for that, and it can be
told to end early.
-/

namespace Debugger

variable {σ : Type}

/-- An evaluation begins in the thread. -/
def beginEvaluation (t : ThreadRef) (detail : EventDetail) (honors : Bool) : Client σ Nat := do
  if ((← get).thread t).evaluation.isSome then throw .nested
  let token := (← get).nextToken
  modify fun s => { s with nextToken := token + 1 }.mapThread t fun th =>
    { th with evaluation := some ⟨token, honors, false⟩ }
  modify fun s => s.fire (s.element t) (.resume detail)
  return token

/-- The evaluation in the thread is over. -/
def System.endEvaluation (s : System σ) (t : ThreadRef) (detail : EventDetail) : System σ :=
  (s.mapThread t fun th => { th with evaluation := none }).fire (s.element t) (.suspend detail)

/-- Tells the evaluation that runs in the thread to end. -/
def terminateEvaluation (t : ThreadRef) : Debug σ Unit := do
  match ((← get).thread t).evaluation with
  | none => return
  | some e =>
    modify (·.mapThread t fun th => { th with evaluation := some { e with cancelled := true } })
    modify (·.wakeEvaluations fun task =>
      task.thread = t && task.token = e.token && task.state matches .waiting)

/-- Leaves a task behind that evaluates. -/
def evaluate (t : ThreadRef) (detail : EventDetail) (honors : Bool) (body : EvaluationBody) :
    Debug σ Nat :=
  modifyGet fun s =>
    (s.evaluations.size,
      { s with evaluations := s.evaluations.push ⟨t, detail, honors, body, 0, false, .starting⟩ }.wake
        (.evaluation s.evaluations.size))

def System.setEvaluation (s : System σ) (n : Nat) (f : EvaluationTask → EvaluationTask) : System σ :=
  { s with evaluations := s.evaluations.modify n f }

/-- Tells a waiting evaluation to finish. -/
def finishEvaluation (n : Nat) : Debug σ Unit := do
  match (← get).evaluations[n]? with
  | none | some ⟨_, _, _, _, _, _, .done _⟩ => return
  | some _ => modify fun s => (s.setEvaluation n fun e => { e with finish := true }).wake (.evaluation n)

/-- Forgets an evaluation part way: one that has begun is over then. -/
def abandonEvaluation (n : Nat) : Debug σ Unit := do
  let forget (s : System σ) : System σ :=
    s.setEvaluation n fun e => { e with state := .done (.error (.refused .cancelled "")) }
  match (← get).evaluations[n]? with
  | none | some ⟨_, _, _, _, _, _, .done _⟩ => return
  | some ⟨_, _, _, _, _, _, .starting⟩ => modify forget
  | some e => modify fun s => forget (s.endEvaluation e.thread e.detail)

/-- What an evaluation that runs does next. -/
inductive Progress where
  | over (result : Except DebugError EvaluationResult)
  | stay (state : EvaluationState)

private def failure : DebugError := .requestFailed "evaluation failed"

private def cancelledError : DebugError := .refused .cancelled "evaluation cancelled"

/-- Whether the evaluation that bears the token was told to end. -/
def System.evaluationCancelled (s : System σ) (t : ThreadRef) (token : Nat) : Bool :=
  (s.thread t).evaluation.any fun e => e.token == token && e.cancelled

/-- Waits on; being told to end counts before being told to finish. -/
def keepWaiting (s : System σ) (e : EvaluationTask) : Progress :=
  if s.evaluationCancelled e.thread e.token then .over (.error cancelledError)
  else if e.finish then .over (.ok .finished)
  else .stay .waiting

/-- Waits for an invocation. -/
def awaitInvocation (s : System σ) (n : Nat) : Progress :=
  match s.invocation? n with
  | some r => .over (r.map .value)
  | none => .stay (.invoking n)

/-- Another evaluation inside one, which would end at once. -/
def evaluateInside (t : ThreadRef) (detail : EventDetail) : Client σ Unit := do
  let _ ← beginEvaluation t detail true
  modify (·.endEvaluation t detail)

variable [Session σ]

/-- The first stretch of an evaluation's body. -/
def startBody (e : EvaluationTask) : Debug σ Progress :=
  match e.body with
  | .succeed => return .over (.ok .succeeded)
  | .fail => return .over (.error failure)
  | .wait => return keepWaiting (← get) e
  | .nest => return .over (.ok (.nested (← attempt (evaluateInside e.thread e.detail))))
  | .invoke target method args nonvirtual => do
    match ← attempt (beginInvocation e.thread target method args nonvirtual) with
    | .ok n => return .stay (.invoking n)
    | .error err => return .over (.error err)

/-- Runs an evaluation until it waits or is over. -/
def runEvaluation (n : Nat) : Debug σ Unit := do
  let settle (e : EvaluationTask) : Progress → Debug σ Unit
    | .stay state => modify (·.setEvaluation n fun e => { e with state })
    | .over result => modify fun s =>
      (s.endEvaluation e.thread e.detail).setEvaluation n fun e => { e with state := .done result }
  match (← get).evaluations[n]? with
  | none => return
  | some e =>
    match e.state with
    | .done _ => return
    | .waiting => settle e (keepWaiting (← get) e)
    | .invoking m => settle e (awaitInvocation (← get) m)
    | .starting =>
      match ← attempt (beginEvaluation e.thread e.detail e.honorsBreakpoints) with
      | .error err => modify (·.setEvaluation n fun e => { e with state := .done (.error err) })
      | .ok token =>
        modify (·.setEvaluation n fun e => { e with token })
        let e := { e with token }
        settle e (← startBody e)

/-- The result of the evaluation, once it is over. -/
def System.evaluation? (s : System σ) (n : Nat) : Option (Except DebugError EvaluationResult) :=
  s.evaluations[n]?.bind fun e => match e.state with
    | .done r => some r
    | _ => none

end Debugger
