import Debugger.Scenario.Command
import Debugger.Schedule

/-! # Playing a scenario

A play carries out commands one after another.  After each it lets the background tasks run until only
time could move them, and then shows what came of the command, the state of every thread, and what was
published and recorded since the command before.
-/

namespace Debugger.Scenario

open Doc

/-- A background task that bears a label. -/
inductive Labelled where
  | invocation (n : Nat)
  | evaluation (n : Nat)
  deriving DecidableEq, Repr, Inhabited

/-- The state of a play. -/
structure Play (σ : Type) where
  system : System σ
  /-- Every thread seen so far, with its newest object. -/
  seen : List (ThreadId × ThreadRef) := []
  /-- The frames shown so far, in order. -/
  shown : Array FrameRef := #[]
  watches : List (String × Nat) := []
  tasks : List (String × Labelled) := []
  reader : Reader
  /-- The system as it was shown last. -/
  before : System σ
  /-- Conditions reported beside results are logged and not shown. -/
  logsStatus : Bool := false
  /-- It is shown how long an outcome took. -/
  showsWaits : Bool := true

/-- How many stretches of background tasks a play lets run at most. -/
def fuel : Nat := 1000000

namespace Play

variable {σ : Type}

def act {α : Type} (p : Play σ) (x : Debug σ α) : α × Play σ :=
  let (a, system) := x p.system
  (a, { p with system })

def mapSystem (p : Play σ) (f : System σ → System σ) : Play σ := { p with system := f p.system }

/-- Threads that the target lists now are seen. -/
def remember (p : Play σ) : Play σ :=
  if p.system.released then p
  else
    { p with seen := p.system.registry.foldl (fun seen t =>
        let id := (p.system.thread t).id
        (id, t) :: seen.filter (·.1 ≠ id)) p.seen }

/-- How a frame is shown. -/
def frameDoc (s : System σ) (w : Shown) (h : FrameRef) : Doc :=
  let f := s.frames[h]?.getD default
  let bound := match f.remote with
    | none => []
    | some r =>
      [("id", doc r.id), ("thread", doc f.thread),
        ("type", doc r.location.method.declaringType), ("name", doc r.location.method.name),
        ("line", doc r.location.line), ("bci", doc r.location.codeIndex)]
  record ([("w", doc w)] ++ bound ++ [("last", doc f.lastMethod)])

/-- Shows a frame, under its number or a new one. -/
def showFrame (p : Play σ) (h : FrameRef) : Doc × Play σ :=
  match p.shown.idxOf? h with
  | some w => (frameDoc p.system w h, p)
  | none => (frameDoc p.system p.shown.size h, { p with shown := p.shown.push h })

def showFrames (p : Play σ) : List FrameRef → List Doc × Play σ
  | [] => ([], p)
  | h :: hs =>
    let (d, p) := p.showFrame h
    let (ds, p) := p.showFrames hs
    (d :: ds, p)

/-- The result of a client operation. -/
def answer {α : Type} [Reported α] (p : Play σ) (op : Client σ α) : Doc × Play σ :=
  let (r, p) := p.act (attempt op)
  (resultDoc r, p)

/-- The frames that a client operation gives. -/
def answerFrames (p : Play σ) (op : Client σ (List FrameRef)) : Doc × Play σ :=
  match p.act (attempt op) with
  | (.ok hs, p) =>
    let (ds, p) := p.showFrames hs
    (list ds, p)
  | (.error e, p) => (doc e, p)

def said {α : Type} [Reported α] (p : Play σ) (x : Debug σ α) : Doc × Play σ :=
  let (a, p) := p.act x
  (doc a, p)

/-- Something done with a frame that was shown. -/
def withFrame (p : Play σ) (w : Shown) (f : FrameRef → Doc × Play σ) : Doc × Play σ :=
  (p.shown[w]?).elim (text "no wrapper", p) f

/-- Something done with the newest breakpoint of a request. -/
def withBreakpoint (p : Play σ) (request : RequestId) (f : BreakpointRef → Doc × Play σ) :
    Doc × Play σ :=
  let b := (List.range p.system.breakpoints.size).reverse.find? fun b =>
    (p.system.breakpoint b).request == request
  b.elim (text "no breakpoint", p) f

/-- What an operation on a thread refers to besides the thread, if that does not exist. -/
def missing? (p : Play σ) : ThreadCommand → Option String
  | .canDropToFrame w | .stepToFrame w | .dropToFrame w =>
    if w < p.shown.size then none else some "no wrapper"
  | .atBreakpoint request _ | .atBreakpointQuietly request =>
    if p.system.breakpoints.any (·.request == request) then none else some "no breakpoint"
  | _ => none

def publish (p : Play σ) (source : Element) (kind : DebugEventKind) (detail : EventDetail)
    (queued : Bool) : Doc × Play σ :=
  let e : DebugEvent := ⟨source, kind, detail⟩
  (doc source, p.mapSystem fun s =>
    { s with bus := if queued then s.bus.queue e else s.bus.fire e })

def outcomeDoc : Except DebugError SuspendOutcome → Doc
  | .ok .confirmed => text "Confirmed"
  | .ok .timedOut => text "TimedOut"
  | .ok .disconnected => text "Disconnected"
  | .error e => doc e

def evaluationDoc : Except DebugError EvaluationResult → Doc
  | .ok .succeeded => text "ok"
  | .ok .finished => text "finished"
  | .ok (.nested (.ok ())) => record [("nested", text "inner")]
  | .ok (.nested (.error e)) => record [("nested", doc e)]
  | .ok (.value v) => doc v
  | .error e => doc e

def label (p : Play σ) (name : String) (task : Labelled) : Play σ :=
  { p with tasks := (name, task) :: p.tasks.filter (·.1 ≠ name) }

def unlabel (p : Play σ) (name : String) : Play σ :=
  { p with tasks := p.tasks.filter (·.1 ≠ name) }

/-- The result of a labelled task, which is forgotten once it has one. -/
def join (p : Play σ) (name : String) : Doc × Play σ :=
  let collect (r : Option Doc) : Doc × Play σ := r.elim (text "pending", p) fun d => (d, p.unlabel name)
  match p.tasks.lookup name with
  | none => (text "no task", p)
  | some (.invocation n) => collect ((p.system.invocation? n).map resultDoc)
  | some (.evaluation n) => collect ((p.system.evaluation? n).map evaluationDoc)

variable [Session σ]

def settle (p : Play σ) : Play σ := (p.act (Debugger.settle fuel)).2

def thread (p : Play σ) (t : ThreadRef) : ThreadCommand → Doc × Play σ
  | .name => p.answer (threadName t)
  | .priority => p.answer (threadPriority t)
  | .groupName => p.answer (threadGroupName t)
  | .frames => p.answerFrames (stackFrames t)
  | .newFrames => p.answerFrames (newStackFrames t)
  | .topFrame =>
    match p.act (attempt (topFrame t)) with
    | (.ok (some h), p) => p.showFrame h
    | (.ok none, p) => (null, p)
    | (.error e, p) => (doc e, p)
  | .hasFrames => p.answer (hasStackFrames t)
  | .frameCount => p.answer (frameCount t)
  | .findVariable name => p.answer (findVariable t name)
  | .ownedMonitors => p.answer (ownedMonitors t)
  | .hasOwnedMonitors => p.answer (hasOwnedMonitors t)
  | .contendedMonitor => p.answer (contendedMonitor t)
  | .isOutOfSync => p.answer (isOutOfSync t)
  | .canStep => p.said (canStep t)
  | .canStepWithFilters => p.said (canStepWithFilters t)
  | .canDropToFrame w => p.withFrame w fun h => p.said (canDropToFrame t h)
  | .describe => (text (p.system.thread t).describe, p)
  | .resume => p.answer (Debugger.resume t)
  | .resumeQuietly => p.answer (resumeQuietly t)
  | .terminate => p.answer (terminateThread t)
  | .stepInto => p.answer (stepInto t)
  | .stepOver => p.answer (stepOver t)
  | .stepReturn => p.answer (stepReturn t)
  | .stepWithFilters => p.answer (stepWithFilters t)
  | .stepToFrame w => p.withFrame w fun h => p.answer (stepToFrame t h)
  | .dropToFrame w => p.withFrame w fun h => p.answer (dropToFrame t h)
  | .step kind filters => p.answer do
    Debugger.step t kind filters
    return kind.detail
  | .suspend name =>
    match p.act (attempt (Debugger.suspend t)) with
    | (.ok (some n), p) =>
      (text "ticket", { p with watches := (name, n) :: p.watches.filter (·.1 ≠ name) })
    | (.ok none, p) => (null, p)
    | (.error e, p) => (doc e, p)
  | .atBreakpoint request queued =>
    p.withBreakpoint request fun b => p.said (suspendAtBreakpoint t b queued)
  | .atBreakpointQuietly request =>
    p.withBreakpoint request fun b => p.said (suspendAtBreakpointQuietly t b)
  | .invoke name target method args nonvirtual =>
    match p.act (attempt (beginInvocation t target method args nonvirtual)) with
    | (.ok n, p) => (p.label name (.invocation n)).settle.join name
    | (.error e, p) => (doc e, p.unlabel name)
  | .evaluate name detail honors body =>
    let (n, p) := p.act (evaluate t detail honors body)
    (p.label name (.evaluation n)).settle.join name
  | .terminateEvaluation => p.said (terminateEvaluation t)
  | .publish kind detail queued => p.publish (p.system.element t) kind detail queued

/-- An operation on a target that the client still holds. -/
def target (p : Play σ) (c : TargetCommand) : Doc × Play σ :=
  let s := p.system
  let done (f : System σ → System σ) : Doc × Play σ := (null, p.mapSystem f)
  match c with
  | .suspend => p.answer suspendAll
  | .resume => p.answer resumeAll
  | .terminate => p.answer terminateTarget
  | .canTerminate => (doc s.targetCanTerminate, p)
  | .canPopFrames => (doc (Session.canPopFrames s.session), p)
  | .threads => (doc (s.registry.map fun t => (s.thread t).id), p)
  | .disconnected => done System.disconnect
  | .shutdown => done fun s => { s with shutdown := true }
  | .drop => (null, p.remember.mapSystem System.release)
  | .filters =>
    (record [("enabled", doc s.filters.enabled), ("active", doc s.filters.patterns)], p)
  | .setFilters filters => done fun s => { s with filters }
  | .install typeName line policy =>
    match p.act (attempt (installBreakpoint typeName line policy)) with
    | (.ok b, p) => (doc (p.system.breakpoint b), p)
    | (.error e, p) => (doc e, p)
  | .remove request => p.withBreakpoint request fun b => p.answer (removeBreakpoint b)
  | .breakpoints =>
    let bs := s.installed.values.map s.breakpoint
    (doc (bs.mergeSort fun a b => a.request ≤ b.request), p)
  | .addListener voter => done (·.addListener (.fixed voter.name voter.vote))
  | .removeListener name => done (·.removeListener name)
  | .setReplacing on => (doc on, p.mapSystem fun s => { s with replacingCode := on })
  | .recordReplaceFailure types => (doc true, p.mapSystem (·.recordReplaceFailure types))
  | .hasReplaceFailed => (doc s.replaceFailed, p)
  | .typeOutOfSync typeName => (doc (s.obsoleteTypes.contains typeName), p)
  | .frameOutOfSync w => p.withFrame w fun h => (doc (s.frameOutOfSync h), p)
  | .publish kind detail queued => p.publish .target kind detail queued

/-- Carries out a command; `machine` does what is done on the machine's side. -/
def perform {μ : Type} (machine : Play σ → μ → Doc × Play σ) (p : Play σ) :
    Command μ → Doc × Play σ
  | .thread id c =>
    match p.missing? c, p.seen.lookup id with
    | some what, _ => (text what, p)
    | none, none => (text "no thread", p)
    | none, some t => p.thread t c
  | .target c => if p.system.released then (text "no target", p) else p.target c
  | .machine c => machine p c
  | .advance ms => p.said (Debugger.advance fuel ms)
  | .shownFrames =>
    let (ds, p) := p.showFrames p.shown.toList
    (list ds, p)
  | .frameOutOfSync w types =>
    p.withFrame w fun h => (doc ((p.system.frames[h]?.getD default).runsOneOf types), p)
  | .outcome name =>
    match p.watches.lookup name with
    | none => (text "no ticket", p)
    | some n =>
      let start := p.system.now
      let (_, p) := p.act (awaitWatch fuel n fuel)
      let p := { p with watches := p.watches.filter (·.1 ≠ name) }
      let result := (p.system.outcome? n).elim null outcomeDoc
      (if p.showsWaits then doc (result, p.system.now - start) else result, p)
  | .cancel name => (p.watches.lookup name).elim (null, p) fun n => p.said (cancelWatch n)
  | .join name => p.join name
  | .finish name =>
    match p.tasks.lookup name with
    | some (.evaluation n) => (p.act (finishEvaluation n)).2.settle.join name
    | _ => p.join name
  | .abort name =>
    match p.tasks.lookup name with
    | none => (null, p)
    | some (.invocation _) => (null, p.unlabel name)
    | some (.evaluation n) => (p.unlabel name).said (abandonEvaluation n)

end Play

end Debugger.Scenario
