import Debugger.Debuggee.Stop
import Debugger.Wire.Decode

/-! # Commands to a debuggee

A command is answered from its set, its number and its payload.  What the debuggee does not know or cannot
read it answers with an error code.
-/

namespace Debugger.Debuggee

open Wire

/-- A debuggee with what is left to read of a command. -/
structure Desk where
  debuggee : Debuggee
  input : Cursor
  deriving Inhabited

/-- Answering a command; a refusal is an error code. -/
abbrev Answering (α : Type) := EStateM UInt16 Desk α

/-- What is sent for a command that is carried out. -/
structure Response where
  payload : Bytes := []
  /-- Packets that follow the reply. -/
  events : List Packet := []
  /-- The connection is closed then. -/
  closes : Bool := false
  deriving DecidableEq, Repr, Inhabited

variable {α : Type}

/-- Reads on; what cannot be read is refused like what is not known. -/
def read (d : Decoder α) : Answering α := fun s =>
  match d s.input with
  | .ok (a, input) => .ok a { s with input }
  | .error _ => .error Code.notImplemented s

def debuggee : Answering Debuggee := return (← get).debuggee

def change (f : Debuggee → Debuggee) : Answering Unit :=
  modify fun s => { s with debuggee := f s.debuggee }

/-- What was looked up, or else a refusal. -/
def found (code : UInt16) (a : Option α) : Answering α :=
  match a with
  | some a => return a
  | none => throw code

def unknown : Answering α := throw Code.notImplemented

def reply (payload : Bytes) : Answering Response := return { payload }

/-! ### The machine -/

/-- Resumes every thread that is suspended: those that are suspended no more. -/
def resumeAll (d : Debuggee) : List ThreadId × Debuggee :=
  let resumed := d.threads.filter fun t => t.suspendCount = 1
  (resumed.map (·.id),
    { d with threads := d.threads.map ThreadEntry.resume, vmResumes := d.vmResumes + 1 })

/-- Lets threads run. -/
def runThreads (threads : List ThreadId) : Answering Response := do
  let (events, d) := (← debuggee).run threads
  change fun _ => d
  return { events }

def machineCommand (number : UInt8) : Answering Response := do
  let d ← debuggee
  match number.toNat with
  | 2 =>
    let signature ← read Decoder.text
    reply (Encode.list
      (fun c => Encode.u8 classTag ++ Encode.ident d.sizes.type c.id ++ Encode.u32 7)
      (d.classes.filter (·.signature = signature)))
  | 4 => reply (Encode.list (fun t => Encode.ident d.sizes.object t.id) d.threads)
  | 7 => reply (Encode.sizes d.sizes)
  | 8 =>
    change fun d => { d with threads := d.threads.map ThreadEntry.suspend }
    reply []
  | 9 =>
    let (resumed, d) := resumeAll d
    change fun _ => d
    runThreads resumed
  | 10 => return { closes := true }
  | 17 => reply (d.capabilities.flatMap Encode.bool)
  | _ => unknown

/-! ### Types and methods -/

def typeCommand (number : UInt8) : Answering Response := do
  let d ← debuggee
  let c ← found Code.invalidClass (d.class? (← read (Decoder.ident d.sizes.type)))
  match number.toNat with
  | 1 => reply (Encode.text c.signature)
  | 4 =>
    let fields := if c.id = threadClass then [priorityField] else []
    reply (Encode.list
      (fun f => Encode.ident d.sizes.field f ++ Encode.text "priority" ++ Encode.text "I" ++
        Encode.u32 2) fields)
  | 5 =>
    reply (Encode.list
      (fun m => Encode.ident d.sizes.method m.id ++ Encode.text m.name ++ Encode.text m.signature ++
        Encode.u32 m.modifiers) c.methods)
  | _ => unknown

/-- No type has a superclass. -/
def superclassCommand : Answering Response := do
  let d ← debuggee
  let _ ← read (Decoder.ident d.sizes.type)
  reply (Encode.ident d.sizes.type 0)

/-- A line table ends three code indices after its last line begins. -/
def lineTablePayload (lines : List LineEntry) : Bytes :=
  Encode.u64 0 ++ Encode.u64 (lines.getLast?.elim 0 fun e => e.index + 3) ++
    Encode.list (fun e => Encode.u64 e.index ++ Encode.i32 e.line) lines

/-- Every method has one variable, which exists everywhere in it. -/
def variableTablePayload : Bytes :=
  Encode.u32 0 ++ Encode.u32 1 ++ Encode.u64 0 ++ Encode.text "count" ++ Encode.text "I" ++
    Encode.u32 64 ++ Encode.u32 1

def methodCommand (number : UInt8) : Answering Response := do
  let d ← debuggee
  let type ← read (Decoder.ident d.sizes.type)
  let method ← read (Decoder.ident d.sizes.method)
  let m ← found Code.invalidMethod (d.method? type method)
  match number.toNat with
  | 1 => reply (lineTablePayload m.lines)
  | 2 => reply variableTablePayload
  | _ => unknown

/-! ### Objects -/

/-- Every object is a thread. -/
def objectTypeCommand : Answering Response := do
  let d ← debuggee
  let _ ← read (Decoder.ident d.sizes.object)
  reply (Encode.u8 classTag ++ Encode.ident d.sizes.type threadClass)

def fieldValue (f : FieldId) : Value := .int (if f = priorityField then 5 else 0)

def fieldValuesCommand : Answering Response := do
  let d ← debuggee
  let _ ← read (Decoder.ident d.sizes.object)
  let fields ← read (Decoder.list (Decoder.ident d.sizes.field))
  reply (Encode.list (fun f => Encode.value d.sizes (fieldValue f)) fields)

/-! ### Threads and their frames -/

/-- The tag of an object, and no object. -/
def noObject (s : IdSizes) : Bytes := Encode.u8 Value.objectTag ++ Encode.ident s.object 0

def resumeThread (t : ThreadEntry) : Answering Response := do
  change fun d =>
    { d.mapThread t.id ThreadEntry.resume with threadResumes := d.threadResumes + 1 }
  if t.suspendCount ≤ 1 then runThreads [t.id] else return {}

def framesCommand (t : ThreadEntry) : Answering Response := do
  let d ← debuggee
  unless t.isSuspended do throw Code.threadNotSuspended
  let _ ← read Decoder.i32
  let _ ← read Decoder.i32
  reply (Encode.list (fun f => Encode.ident d.sizes.frame f.id ++ Encode.place d.sizes f.place) t.frames)

def forceReturnCommand (t : ThreadEntry) : Answering Response := do
  let d ← debuggee
  let _ ← read (Decoder.value d.sizes)
  change (·.mapThread t.id fun t => { t with frames := t.frames.drop 1 })
  reply []

def threadCommand (number : UInt8) : Answering Response := do
  let d ← debuggee
  let t ← found Code.invalidThread (d.thread? (← read (Decoder.ident d.sizes.object)))
  match number.toNat with
  | 1 => reply (Encode.text t.name)
  | 2 =>
    change (·.mapThread t.id ThreadEntry.suspend)
    reply []
  | 3 => resumeThread t
  | 4 => reply (Encode.i32 1 ++ Encode.i32 (if t.isSuspended then 1 else 0))
  | 5 => reply (Encode.ident d.sizes.object t.group)
  | 6 => framesCommand t
  | 7 =>
    unless t.isSuspended do throw Code.threadNotSuspended
    reply (Encode.count t.frames.length)
  | 8 => reply (Encode.u32 0)
  | 9 => reply (noObject d.sizes)
  | 12 => reply (Encode.count t.suspendCount)
  | 14 => forceReturnCommand t
  | _ => unknown

def groupCommand (number : UInt8) : Answering Response := do
  let d ← debuggee
  let g ← found Code.invalidObject (d.group? (← read (Decoder.ident d.sizes.object)))
  match number.toNat with
  | 1 => reply (Encode.text g.name)
  | 2 => reply (Encode.ident d.sizes.object g.parent)
  | _ => unknown

/-- The value of a variable, of which only the type's tag is known. -/
def slotValue (tag : UInt8) : Value := if tag = 73 then .int 7 else .object tag 0

/-- The bytes of a value whose tag may be that of any type. -/
def slotPayload (s : IdSizes) (tag : UInt8) : Bytes := Encode.value s (slotValue tag)

def slotValuesCommand : Answering Response := do
  let d ← debuggee
  let _ ← read (Decoder.ident d.sizes.object)
  let _ ← read (Decoder.ident d.sizes.frame)
  let tags ← read (Decoder.list do
    let _ ← Decoder.u32
    Decoder.u8)
  reply (Encode.list (slotPayload d.sizes) tags)

def popFramesCommand : Answering Response := do
  let d ← debuggee
  let thread ← read (Decoder.ident d.sizes.object)
  let frame ← read (Decoder.ident d.sizes.frame)
  let t ← found Code.invalidThread (d.thread? thread)
  let depth ← found Code.invalidFrame (t.frames.findIdx? (·.id = frame))
  change fun d =>
    { d.mapThread thread fun t => { t with frames := t.frames.drop (depth + 1) } with
      popped := d.popped ++ [frame] }
  reply []

/-! ### Invocations -/

/-- What stands behind the receiver of an invocation: the method, the arguments and the options. -/
def invocationTail (s : IdSizes) (set number : UInt8) : Decoder InvocationEntry := do
  let method ← Decoder.ident s.method
  let args ← Decoder.list (Decoder.value s)
  let options ← Decoder.u32
  return { set, number, method, args, options }

/-- Carries an invocation out: it gives `value`, and throws nothing. -/
def invoke (receiver : Decoder Unit) (set number : UInt8) (value : Value) : Answering Response := do
  let d ← debuggee
  read receiver
  let i ← read (invocationTail d.sizes set number)
  change fun d => { d with invocations := d.invocations ++ [i] }
  reply (Encode.value d.sizes value ++ noObject d.sizes)

/-- A type and a thread. -/
def typeReceiver (s : IdSizes) : Decoder Unit := do
  let _ ← Decoder.ident s.type
  let _ ← Decoder.ident s.object
  return

/-- An object, a thread and a type. -/
def objectReceiver (s : IdSizes) : Decoder Unit := do
  let _ ← Decoder.ident s.object
  let _ ← Decoder.ident s.object
  let _ ← Decoder.ident s.type
  return

/-- The object that every constructor makes. -/
def newObject : ObjectId := 9000

def invokeStaticCommand : Answering Response := do
  invoke (typeReceiver (← debuggee).sizes) 3 3 (.int 42)

def newInstanceCommand : Answering Response := do
  invoke (typeReceiver (← debuggee).sizes) 3 4 (.object Value.objectTag newObject)

def invokeOnCommand : Answering Response := do
  invoke (objectReceiver (← debuggee).sizes) 9 6 (.int 42)

/-! ### Event requests -/

/-- Takes a condition down. -/
def modifier (s : IdSizes) (r : RequestEntry) : Decoder RequestEntry := do
  let kind ← Decoder.u8
  let r := { r with modifiers := r.modifiers ++ [kind] }
  match kind.toNat with
  | 1 => return { r with count := some (← Decoder.u32) }
  | 3 => do
    let _ ← Decoder.ident s.object
    return r
  | 4 => do
    let _ ← Decoder.ident s.type
    return r
  | 5 | 12 => do
    let _ ← Decoder.text
    return r
  | 6 => return { r with exclusions := r.exclusions ++ [← Decoder.text] }
  | 7 => return { r with place := some (← Decoder.place s) }
  | 10 => do
    let thread ← Decoder.ident s.object
    let size ← Decoder.u32
    return { r with step := some { thread, size, depth := ← Decoder.u32 } }
  | _ => throw (.other ("modifier of unknown kind " ++ toString kind))

def modifiers (s : IdSizes) : Nat → RequestEntry → Decoder RequestEntry
  | 0, r => return r
  | n + 1, r => do modifiers s n (← modifier s r)

/-- Takes a request down.  Its number is used up even if the rest cannot be read. -/
def setRequestCommand : Answering Response := do
  let kind ← read Decoder.u8
  let policy ← read Decoder.u8
  let d ← debuggee
  let id := d.nextRequest
  change fun d => { d with nextRequest := d.nextRequest + 1 }
  let n ← read Decoder.count
  let r ← read (modifiers d.sizes n { id, kind, policy })
  change fun d =>
    { d with
      requests := d.requests ++ [r]
      armed := d.armed ++
        if kind = EventKind.step then (r.step.map fun s => (id, s.thread)).toList else [] }
  reply (Encode.i32 id)

def clearRequestCommand : Answering Response := do
  let kind ← read Decoder.u8
  let id ← read Decoder.i32
  change fun d =>
    { d with armed := d.armed.filter (·.1 ≠ id), cleared := d.cleared ++ [(kind, id)] }
  reply []

/-! ### All commands -/

def command (set number : UInt8) : Answering Response :=
  match set.toNat, number.toNat with
  | 1, _ => machineCommand number
  | 2, _ => typeCommand number
  | 3, 1 => superclassCommand
  | 3, 3 => invokeStaticCommand
  | 3, 4 => newInstanceCommand
  | 6, _ => methodCommand number
  | 9, 1 => objectTypeCommand
  | 9, 2 => fieldValuesCommand
  | 9, 6 => invokeOnCommand
  | 11, _ => threadCommand number
  | 12, _ => groupCommand number
  | 15, 1 => setRequestCommand
  | 15, 2 => clearRequestCommand
  | 16, 1 => slotValuesCommand
  | 16, 5 => popFramesCommand
  | _, _ => unknown

/-- Carries a command out: the error code, and what is sent. -/
def respond (d : Debuggee) (set number : UInt8) (payload : Bytes) : (UInt16 × Response) × Debuggee :=
  match command set number ⟨d, ⟨0, payload⟩⟩ with
  | .ok r s => ((0, r), s.debuggee)
  | .error code s => ((code, {}), s.debuggee)

end Debugger.Debuggee
