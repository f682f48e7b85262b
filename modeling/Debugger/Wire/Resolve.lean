import Debugger.Wire.Client
import Debugger.VmEvent

/-! # Places in the code

The machine names places by numbers.  What the numbers stand for never changes while a type is loaded, so
every answer is kept, and nothing that was answered is asked again.
-/

namespace Debugger.Wire

/-- What is known of types and methods. -/
structure Knowledge where
  typeNames : Table TypeId String := .empty
  methods : Table TypeId (List Member) := .empty
  /-- Line tables; a method may have none. -/
  lineTables : Table (TypeId × MethodId) (Option LineTable) := .empty
  deriving Inhabited

/-- A client with what it has learned. -/
structure Resolver (π : Type) where
  client : Client π
  known : Knowledge := {}
  deriving Inhabited

/-- Something done with a resolver that may fail. -/
abbrev Resolve (π α : Type) := EStateM SessionError (Resolver π) α

namespace Resolver

variable {π α : Type} [Peer π]

/-- Makes use of the client; the answer may be a failure. -/
def attempt (x : Ask π α) : Resolve π (Except WireError α) := fun r =>
  match x r.client with
  | .ok a client => .ok (.ok a) { r with client }
  | .error e client => .ok (.error e) { r with client }

/-- Makes use of the client. -/
def within (x : Ask π α) : Resolve π α := do
  match ← attempt x with
  | .ok a => return a
  | .error e => throw e.toSession

def ask (q : Query α) : Resolve π α := within (Client.ask q)

private def learn (f : Knowledge → Knowledge) : Resolve π Unit :=
  modify fun r => { r with known := f r.known }

/-- The fully qualified name of a type. -/
def typeName (t : TypeId) : Resolve π String := do
  match (← get).known.typeNames.find? t with
  | some name => return name
  | none =>
    let name := Signature.typeName (← ask (.signature t))
    learn fun k => { k with typeNames := k.typeNames.put t name }
    return name

def methods (t : TypeId) : Resolve π (List Member) := do
  match (← get).known.methods.find? t with
  | some ms => return ms
  | none =>
    let ms ← ask (.methods t)
    learn fun k => { k with methods := k.methods.put t ms }
    return ms

/-- The line table of a method, unless the method has none. -/
def lineTable? (t : TypeId) (m : MethodId) : Resolve π (Option LineTable) := do
  match (← get).known.lineTables.find? (t, m) with
  | some table => return table
  | none =>
    let table ← match ← attempt (Client.ask (.lineTable t m)) with
      | .ok table => pure (some table)
      | .error (.refused code) =>
        if code = Code.absentInformation || code = Code.notImplemented then pure none
        else throw (WireError.refused code).toSession
      | .error e => throw e.toSession
    learn fun k => { k with lineTables := k.lineTables.put (t, m) table }
    return table

def method (t : TypeId) (m : MethodId) : Resolve π Method := do
  let declaringType ← typeName t
  match (← methods t).find? (·.id = m) with
  | some member =>
    return { id := ⟨t, m⟩
             name := member.name
             declaringType
             signature := member.signature
             modifiers := member.modifiers }
  | none => throw (.protocol ("unknown method " ++ toString m ++ " in " ++ declaringType))

/-- What the numbers of a place stand for. -/
def location (p : CodePlace) : Resolve π Location := do
  let method ← method p.type p.method
  let table ← lineTable? p.type p.method
  return { method, codeIndex := p.index, line := table.bind (·.lineAt? p.index) }

/-- A place of which nothing but the numbers is known. -/
def unknownLocation (p : CodePlace) : Location :=
  { method := ⟨⟨p.type, p.method⟩, "", "", "", 0⟩, codeIndex := p.index, line := none }

/-- The same for the place of an event, which must not be lost because of its place. -/
def eventLocation (p : CodePlace) : StateM (Resolver π) Location := fun r =>
  match location p r with
  | .ok l r => (l, r)
  | .error _ r => (unknownLocation p, r)

/-- What an event says to the debugger, if anything. -/
def event? : WireEvent → StateM (Resolver π) (Option VmEvent)
  | .step request thread p => return some (.step request thread (← eventLocation p))
  | .breakpoint request thread p => return some (.breakpoint request thread (← eventLocation p))
  | .threadStart _ thread => return some (.threadStart thread)
  | .threadDeath _ thread => return some (.threadDeath thread)
  | .vmDeath => return some .vmDeath
  | .vmStart .. => return none

/-- What the machine suspended. -/
def policy? (code : UInt8) : Option SuspendPolicy :=
  if code = Policy.thread then some .thread else if code = Policy.all then some .vm else none

def events : List WireEvent → StateM (Resolver π) (List VmEvent)
  | [] => return []
  | e :: es => do
    let first ← event? e
    let rest ← events es
    return first.toList ++ rest

/-- What an event set says to the debugger; one without events matters only if something is suspended for
it. -/
def eventSet? (s : WireEventSet) : StateM (Resolver π) (Option EventSet) := do
  let policy := policy? s.policy
  let events ← events s.events
  return if events.isEmpty && policy.isNone then none else some ⟨policy, events⟩

/-- The place where the code of a line begins, in the first method of the type that has such code. -/
def placeOfLine (typeName : String) (line : Int32) : Resolve π CodePlace := do
  match ← ask (.loadedTypes (Signature.ofClassName typeName)) with
  | [] => throw (.protocol ("class " ++ typeName ++ " is not loaded"))
  | type :: _ =>
    let rec search : List Member → Resolve π (Option CodePlace)
      | [] => return none
      | m :: ms => do
        match (← lineTable? type.type m.id).bind (·.firstIndexOf? line) with
        | some index => return some ⟨type.tag, type.type, m.id, index⟩
        | none => search ms
    match ← search (← methods type.type) with
    | some p => return p
    | none => throw (.protocol ("no code at " ++ typeName ++ ":" ++ toString line))

end Resolver

end Debugger.Wire
