import Debugger.Id

/-! # Arguments of the command line

A command with its options, as they stand on a command line.  Options that say which machine is meant may
stand before the command or behind it, and behind it they count.  Arguments are judged from left to right;
a value that stands apart from its option is judged only when the next option or argument is reached, so a
request for help may come first.
-/

namespace Debugger.CommandLine

/-- Where a step is to end. -/
inductive StepMode where
  | over
  | into
  | out
  deriving DecidableEq, Repr, Inhabited

/-- What is to be done with the machine. -/
inductive Action where
  | threads
  | stack (thread : ThreadId)
  /-- Steps a thread, and waits so many seconds for the end of the step. -/
  | step (thread : ThreadId) (mode : StepMode) (wait : Nat)
  deriving DecidableEq, Repr, Inhabited

/-- Something to do, and what the settings are to be replaced by. -/
structure Request where
  /-- The file to load settings from. -/
  config : Option String
  host : Option String
  port : Option UInt16
  action : Action
  deriving DecidableEq, Repr, Inhabited

/-- The commands, and the program as a whole. -/
inductive Command where
  | program
  | threads
  | stack
  | step
  | help
  deriving DecidableEq, Repr, Inhabited

/-- The command of that name. -/
def Command.ofName? : String → Option Command
  | "threads" => some .threads
  | "stack" => some .stack
  | "step" => some .step
  | "help" => some .help
  | _ => none

/-- What arguments ask for. -/
inductive Reading where
  | request (r : Request)
  | help (c : Command)
  | version
  /-- They make no sense. -/
  | misuse
  deriving DecidableEq, Repr, Inhabited

/-! ### Values -/

/-- A number in decimal digits, at most `max`. -/
def number? (max : Nat) (cs : List Char) : Option Nat :=
  if cs.isEmpty || !cs.all (·.isDigit) then none
  else
    let n := cs.foldl (fun n c => n * 10 + (c.toNat - 48)) 0
    if n ≤ max then some n else none

/-- A number that may have a plus sign in front. -/
def natural? (s : String) : Option Nat :=
  let max := UInt64.size - 1
  match s.toList with
  | '+' :: cs => number? max cs
  | cs => number? max cs

/-- A port may also be a zero with a minus sign. -/
def port? (s : String) : Option UInt16 :=
  match s.toList with
  | '-' :: cs => (number? 0 cs).map fun _ => 0
  | '+' :: cs => (number? (UInt16.size - 1) cs).map .ofNat
  | cs => (number? (UInt16.size - 1) cs).map .ofNat

def mode? : String → Option StepMode
  | "over" => some .over
  | "into" => some .into
  | "return" => some .out
  | _ => none

/-! ### Options -/

/-- The options that take a value. -/
inductive OptionKey where
  | config
  | host
  | port
  | mode
  | wait
  deriving DecidableEq, Repr, Inhabited

/-- The option of that name, if the command has it. -/
def OptionKey.ofName? (c : Command) : String → Option OptionKey
  | "config" => some .config
  | "host" => some .host
  | "port" => some .port
  | "mode" => if c = .step then some .mode else none
  | "wait" => if c = .step then some .wait else none
  | _ => none

/-- What was given for a command, or in front of it. -/
structure Given where
  config : Option String := none
  host : Option String := none
  port : Option UInt16 := none
  mode : Option StepMode := none
  wait : Option Nat := none
  thread : Option ThreadId := none
  /-- The last option, and its value unless that is missing so far. -/
  pending : Option (OptionKey × Option String) := none
  deriving Inhabited

namespace Given

/-- Gives an option a value, which it takes once. -/
def put (g : Given) (key : OptionKey) (v : String) : Option Given :=
  match key with
  | .config => if g.config.isSome || v.isEmpty then none else some { g with config := some v }
  | .host => if g.host.isSome then none else some { g with host := some v }
  | .port => if g.port.isSome then none else (port? v).map fun p => { g with port := some p }
  | .mode => if g.mode.isSome then none else (mode? v).map fun m => { g with mode := some m }
  | .wait => if g.wait.isSome then none else (natural? v).map fun n => { g with wait := some n }

/-- Judges the last option. -/
def settle (g : Given) : Option Given :=
  match g.pending with
  | none => some g
  | some (_, none) => none
  | some (key, some v) => { g with pending := none }.put key v

/-- An option waits for its value. -/
def awaitsValue (g : Given) : Bool := g.pending.any (·.2.isNone)

/-- An argument that belongs to no option: the thread of a command that needs one. -/
def positional (g : Given) (c : Command) (arg : String) : Option Given := do
  let g ← g.settle
  if (c = .stack || c = .step) && g.thread.isNone then
    let n ← natural? arg
    return { g with thread := some (.ofNat n) }
  none

/-- The same with what was given in front of the command, where that was not given again. -/
def behind (g outer : Given) : Given :=
  { g with
    config := g.config <|> outer.config
    host := g.host <|> outer.host
    port := g.port <|> outer.port }

end Given

/-- How far reading came: what was given, and the next command with what stands behind it. -/
abbrev Progress := Except Reading (Given × Option (Command × List String))

/-- Goes on if something made sense. -/
private def sensible (g : Option Given) (go : Given → Progress) : Progress :=
  g.elim (.error .misuse) go

/-- A word with two dashes: an option, with its value behind an equals sign or else in the next word, or
a flag. -/
private def long (c : Command) (g : Given) (word : String) : Except Reading Given :=
  let name := String.ofList ((word.toList.drop 2).takeWhile (· ≠ '='))
  let attached := match (word.toList.drop 2).dropWhile (· ≠ '=') with
    | _ :: v => some (String.ofList v)
    | [] => none
  match OptionKey.ofName? c name, attached, g.settle with
  | some key, some v, some g => (g.put key v).elim (.error .misuse) .ok
  | some key, none, some g => .ok { g with pending := some (key, none) }
  | none, none, some _ =>
    if name = "help" then .error (.help c)
    else if name = "version" && c = .program then .error .version
    else .error .misuse
  | _, _, _ => .error .misuse

/-- A word with one dash: flags, of which the first one decides. -/
private def short (c : Command) (g : Given) (word : String) : Reading :=
  match (word.toList.drop 1).head?, g.settle with
  | some 'h', some _ => .help c
  | some 'V', some _ => if c = .program then .version else .misuse
  | _, _ => .misuse

/-- Reads the words behind a command up to the next command; `literal` says that no more options are to
come. -/
def readWords (c : Command) : (literal : Bool) → Given → List String → Progress
  | _, g, [] => sensible g.settle fun g => .ok (g, none)
  | true, g, w :: ws => sensible (g.positional c w) fun g => readWords c true g ws
  | false, g, w :: ws =>
    match (if c = .program && !g.awaitsValue then Command.ofName? w else none) with
    | some next => .ok (g, some (next, ws))
    | none =>
      if w = "--" then readWords c true g ws
      else if w.startsWith "--" then
        match long c g w with
        | .ok g => readWords c false g ws
        | .error r => .error r
      else if w.startsWith "-" && w ≠ "-" then .error (short c g w)
      else if g.awaitsValue then
        readWords c false { g with pending := g.pending.map fun p => (p.1, some w) } ws
      else sensible (g.positional c w) fun g => readWords c false g ws

/-- Which help is asked for by the words behind the command for help. -/
def readHelp : List String → Reading
  | [] => .help .program
  | [name] => (Command.ofName? name).elim .misuse .help
  | _ => .misuse

/-- How long a step may take unless something else is asked for, in seconds. -/
def defaultWait : Nat := 30

/-- What a command asks for, once everything is given. -/
def actionOf (c : Command) (g : Given) : Option Action :=
  match c with
  | .threads => some .threads
  | .stack => g.thread.map .stack
  | .step => g.thread.map fun t => .step t (g.mode.getD .over) (g.wait.getD defaultWait)
  | .program | .help => none

/-- Reads the arguments of the program. -/
def read (args : List String) : Reading :=
  match readWords .program false {} args with
  | .error r => r
  | .ok (_, none) => .misuse
  | .ok (_, some (.help, words)) => readHelp words
  | .ok (outer, some (c, words)) =>
    match readWords c false {} words, outer.settle with
    | .error r, _ => r
    | .ok (g, _), some outer =>
      let g := g.behind outer
      match actionOf c g with
      | some action => .request { config := g.config, host := g.host, port := g.port, action }
      | none => .misuse
    | .ok _, none => .misuse

end Debugger.CommandLine
