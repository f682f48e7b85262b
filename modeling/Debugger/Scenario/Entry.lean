import Debugger.Scenario.Play

/-! # Entries of a play

What is shown after each command of a play.
-/

namespace Debugger.Scenario

open Doc

variable {σ : Type}

/-- A number that is shown when it has changed. -/
def fieldIfChanged (name : String) (before after : Nat) : List (String × Doc) :=
  if before = after then [] else [(name, doc after)]

/-- The letters of a thread's state. -/
def threadFlags (s : System σ) (t : ThreadRef) : String :=
  let th := s.thread t
  let flags : List (Char × Bool) :=
    [('L', !s.released && s.registry.contains t), ('S', th.isSuspended), ('R', th.running),
      ('T', th.terminated), ('P', th.stepping.isSome), ('Y', th.system),
      ('E', th.evaluation.isSome), ('I', th.invoking), ('H', th.honorsBreakpoints),
      ('r', s.canResume t), ('s', th.canSuspend), ('t', s.canTerminate t),
      ('o', s.mayBeOutOfSync t), ('e', s.canTerminateEvaluation t)]
  String.ofList ((flags.filter (·.2)).map (·.1))

/-- The letters of the target's state. -/
def targetFlags (s : System σ) : String :=
  String.ofList ((if s.suspended then ['S'] else []) ++ if s.disconnected then ['D'] else [])

namespace Play

/-- The state of the target and of every thread seen so far. -/
def stateDoc (p : Play σ) : Doc :=
  let s := p.system
  let thread (e : ThreadId × ThreadRef) : Doc :=
    let bps := (s.thread e.2).breakpoints.map fun b => (s.breakpoint b).request
    list ([doc e.1, text (threadFlags s e.2)] ++ if bps.isEmpty then [] else [doc bps])
  record [("target", if s.released then null else text (targetFlags s)),
    ("threads", list ((p.seen.mergeSort fun a b => a.1 ≤ b.1).map thread))]

/-- The entry for a command; `recorded` tells two states of a session apart. -/
def entry (recorded : σ → σ → List (String × Doc)) (result : Doc) (p : Play σ) : Doc × Play σ :=
  let p := p.remember
  let s := p.system
  let (events, reader) := s.bus.channel.receiveAll p.reader
  let ballots := (s.ballots.drop p.before.ballots.length).map fun b =>
    list [text b.listener, doc b.thread, doc b.request]
  let notices := (s.notices.drop p.before.notices.length).map fun n =>
    list [doc n.1, doc n.2.code, text n.2.text]
  let fields := [("r", result), ("st", p.stateDoc)] ++ fieldUnlessEmpty "ev" events ++
    fieldUnlessEmpty "votes" ballots ++
    fieldUnlessEmpty "status" (if p.logsStatus then [] else notices) ++
    recorded p.before.session s.session
  (record fields, { p with reader, before := s })

variable [Session σ]

/-- Plays commands, and gives the entry before the first of them and after each. -/
def run {μ : Type} (machine : Play σ → μ → Doc × Play σ)
    (recorded : σ → σ → List (String × Doc)) (p : Play σ) (cs : List (Command μ)) : List Doc :=
  let rec go (p : Play σ) : List (Command μ) → List Doc
    | [] => []
    | c :: cs =>
      let (result, p) := p.perform machine c
      let (d, p) := p.settle.entry recorded result
      d :: go p cs
  let (d, p) := p.settle.entry recorded null
  d :: go p cs

end Play

end Debugger.Scenario
