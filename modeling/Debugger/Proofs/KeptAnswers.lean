import Debugger.Proofs.BreakpointPlaces

/-! # Answers that are kept

A resolver keeps the names of types, the methods of types and the line tables of methods.  While the machine gives
the same account of its code, failures included, nothing that is told depends on what is kept; and of each type and
each method the machine is asked at most once, unless it fails to answer.  A method that has no line table is an
answer like any other.
-/

namespace Debugger.Wire

variable {π α β : Type}

/-- What the machine can be asked of its code. -/
inductive Lookup where
  | name (t : TypeId)
  | members (t : TypeId)
  | lines (t : TypeId) (m : MethodId)
  deriving DecidableEq

/-- The commands by which the code is asked for. -/
def codeCommands : List (UInt8 × UInt8) := [(2, 1), (2, 5), (6, 1)]

/-- A query as it stands on the record. -/
def Query.command (q : Query α) (sizes : IdSizes) : UInt8 × UInt8 × Bytes := (q.set, q.number, q.payload sizes)

def Lookup.command (sizes : IdSizes) : Lookup → UInt8 × UInt8 × Bytes
  | .name t => (Query.signature t).command sizes
  | .members t => (Query.methods t).command sizes
  | .lines t m => (Query.lineTable t m).command sizes

namespace Connection

/-- The commands on the record that asked for the code, in order. -/
def lookups (c : Connection) : List (UInt8 × UInt8 × Bytes) :=
  c.commands.filter fun k => (k.1, k.2.1) ∈ codeCommands

variable {c c' : Connection} {sizes : IdSizes}

theorem lookups_of_lookup {k : Lookup} (h : c'.commands = c.commands ++ [k.command sizes]) :
    c'.lookups = c.lookups ++ [k.command sizes] := by
  have code : ((k.command sizes).1, (k.command sizes).2.1) ∈ codeCommands := by
    cases k <;> simp [codeCommands, Lookup.command, Query.command, Query.signature, Query.methods, Query.lineTable]
  rw [lookups, h, List.filter_append, ← lookups]
  simp [code]

theorem lookups_of_other {q : Query α} (aside : (q.set, q.number) ∉ codeCommands)
    (h : c'.commands = c.commands ++ [q.command sizes]) : c'.lookups = c.lookups := by
  rw [lookups, h, List.filter_append, ← lookups]
  simp [Query.command, aside]

end Connection

/-- The machine answers the question; that a method has no line table is an answer. -/
def Account.Settles (a : Account) : Lookup → Prop
  | .name t => ∃ signature, a.signature t = .ok signature
  | .members t => ∃ ms, a.methods t = .ok ms
  | .lines t m => (∃ table, a.lineTable t m = .ok table) ∨
      a.lineTable t m = .error (.refused Code.absentInformation) ∨
      a.lineTable t m = .error (.refused Code.notImplemented)

namespace Account

variable {a : Account} {t : TypeId} {m : MethodId}

theorem Settles.name (h : a.Settles (.name t)) : ∃ name, a.typeName t = .ok name := by
  obtain ⟨signature, told⟩ := h
  rw [typeName, told]
  exact ⟨_, rfl⟩

theorem Settles.members (h : a.Settles (.members t)) : ∃ ms, a.members t = .ok ms := by
  obtain ⟨ms, told⟩ := h
  rw [Account.members, told]
  exact ⟨_, rfl⟩

theorem Settles.lines (h : a.Settles (.lines t m)) : ∃ table, a.lineTable? t m = .ok table := by
  rw [lineTable?]
  rcases h with ⟨table, told⟩ | told | told
  all_goals rw [told]
  · exact ⟨some table, rfl⟩
  · exact ⟨none, rfl⟩
  · exact ⟨none, rfl⟩

/-- The account as it stands while a client is as it is: of the code it says the same, of types and stacks what the
machine would say now. -/
def amid [Peer π] (a : Account) (c : Client π) : Account :=
  { a with
    loadedTypes := fun signature => resultOf (Client.ask (.loadedTypes signature)) c
    frames := fun t => resultOf (Client.ask (.frames t 0 (-1))) c }

section

variable [Peer π] (a : Account) (c : Client π)

theorem loadedTypes_amid (signature : String) :
    (a.amid c).loadedTypes signature = resultOf (Client.ask (.loadedTypes signature)) c := by
  rw [amid]

theorem frames_amid (t : ThreadId) : (a.amid c).frames t = resultOf (Client.ask (.frames t 0 (-1))) c := by
  rw [amid]

@[simp] theorem signature_amid (t : TypeId) : (a.amid c).signature t = a.signature t := rfl

@[simp] theorem methods_amid (t : TypeId) : (a.amid c).methods t = a.methods t := rfl

@[simp] theorem lineTable_amid (t : TypeId) (m : MethodId) : (a.amid c).lineTable t m = a.lineTable t m := rfl

@[simp] theorem typeName_amid (t : TypeId) : (a.amid c).typeName t = a.typeName t := by
  rw [typeName, typeName, signature_amid]

@[simp] theorem members_amid (t : TypeId) : (a.amid c).members t = a.members t := by
  rw [Account.members, Account.members, methods_amid]

@[simp] theorem lineTable?_amid (t : TypeId) (m : MethodId) : (a.amid c).lineTable? t m = a.lineTable? t m := by
  rw [lineTable?, lineTable?, lineTable_amid]

end

end Account

namespace Knowledge

/-- The answer is known. -/
def Has (known : Knowledge) : Lookup → Prop
  | .name t => (known.typeNames.find? t).isSome
  | .members t => (known.methods.find? t).isSome
  | .lines t m => (known.lineTables.find? (t, m)).isSome

variable {known : Knowledge} {k : Lookup} {t : TypeId} {m : MethodId}

end Knowledge

section

variable [Peer π] {P : Client π → Prop} {a : Account}

/-- Every client that satisfies `P` is told this account of the code, failures included, and whatever it asks, `P`
stays; what else it is told is open. -/
structure FixedCode (P : Client π → Prop) (a : Account) : Prop where
  signature {c : Client π} (h : P c) (t : TypeId) : Gives P (Client.ask (.signature t)) c (a.signature t)
  methods {c : Client π} (h : P c) (t : TypeId) : Gives P (Client.ask (.methods t)) c (a.methods t)
  lineTable {c : Client π} (h : P c) (t : TypeId) (m : MethodId) :
    Gives P (Client.ask (.lineTable t m)) c (a.lineTable t m)
  aside {c : Client π} (h : P c) {β : Type} (q : Query β) (aside : (q.set, q.number) ∉ codeCommands) :
    P (stateAfter (Client.ask q) c)

theorem FixedCode.consults (fixed : FixedCode P a) : Consults (Informed P a) a :=
  consults_informed fixed.signature fixed.methods fixed.lineTable

/-- What is said of types and stacks does not matter where only the code is looked up. -/
theorem Consults.amid {Q : Resolver π → Prop} (consults : Consults Q a) (c : Client π) : Consults Q (a.amid c) where
  agrees h :=
    ⟨fun known => by simpa using (consults.agrees h).typeNames known,
      fun known => by simpa using (consults.agrees h).methods known,
      fun known => by simpa using (consults.agrees h).lineTables known⟩
  signature h _ new := by simpa only [Account.signature_amid, Account.typeName_amid] using consults.signature h new
  methods h _ new := by simpa only [Account.methods_amid, Account.members_amid] using consults.methods h new
  lineTable h _ _ new := by
    simpa only [Account.lineTable_amid, Account.lineTable?_amid] using consults.lineTable h new

/-! ### The record -/

/-- Since these lookups a resolver has asked for the code of everything at most once, as far as it was answered; the
answers are known. -/
structure Remembers (P : Client π → Prop) (a : Account) (before : List (UInt8 × UInt8 × Bytes)) (sizes : IdSizes)
    (r : Resolver π) : Prop where
  stands : P r.client
  agrees : r.known.Agrees a
  written : r.client.connection.sizes = sizes
  looked : ∃ looked : List Lookup, r.client.connection.lookups = before ++ looked.map (·.command sizes) ∧
    (∀ k ∈ looked, a.Settles k → r.known.Has k) ∧ ∀ k, a.Settles k → looked.count k ≤ 1

section

variable {before : List (UInt8 × UInt8 × Bytes)} {sizes : IdSizes} {r : Resolver π} {q : Query α}

/-- What is unknown may be asked for, if the answer is kept. -/
theorem Remembers.look (h : Remembers P a before sizes r) {k : Lookup}
    (same : q.command sizes = k.command sizes) {c : Client π}
    (asked : stateAfter (Client.ask q) r.client = c) (stands : P c) (new : ¬ r.known.Has k) {known : Knowledge}
    (agrees : known.Agrees a) (grows : ∀ k, r.known.Has k → known.Has k) (kept : a.Settles k → known.Has k) :
    Remembers P a before sizes ⟨c, known⟩ := by
  have recorded := Client.commands_ask q r.client
  rw [asked, h.written, ← Query.command, same] at recorded
  obtain ⟨looked, lookups, settled, once⟩ := h.looked
  refine ⟨stands, agrees, recorded.2, looked ++ [k], ?_, fun k' mem settles => ?_, fun k' settles => ?_⟩
  · rw [Connection.lookups_of_lookup recorded.1, lookups]
    simp
  · rcases List.mem_append.mp mem with mem | mem
    · exact grows k' (settled k' mem settles)
    · obtain rfl := List.mem_singleton.mp mem
      exact kept settles
  · rw [List.count_append, List.count_singleton]
    by_cases this : k = k'
    · -- it has not been looked up, as it would be known then
      subst this
      have never : looked.count k = 0 := List.count_eq_zero.mpr fun mem => new (settled k mem settles)
      simp [never]
    · simp [this, once k' settles]

/-- Anything else may be asked at any time. -/
theorem Remembers.aside (fixed : FixedCode P a) (h : Remembers P a before sizes r)
    (aside : (q.set, q.number) ∉ codeCommands) {c : Client π} (asked : stateAfter (Client.ask q) r.client = c) :
    Remembers P a before sizes { r with client := c } := by
  have recorded := Client.commands_ask q r.client
  have stands := fixed.aside h.stands q aside
  rw [asked] at recorded stands
  refine ⟨stands, h.agrees, recorded.2.trans h.written, ?_⟩
  rw [Connection.lookups_of_other aside recorded.1]
  exact h.looked

/-- An answer is kept, and what is no answer is not. -/
theorem Remembers.noted (h : Remembers P a before sizes r) {k : Lookup} (same : q.command sizes = k.command sizes)
    {c : Client π} {answer : Except WireError α} (asked : Client.ask q r.client = resultIn answer c) (stands : P c)
    (new : ¬ r.known.Has k) {e : Except SessionError β} {note : β → Knowledge}
    (agrees : ∀ b, e = .ok b → (note b).Agrees a) (learns : ∀ b k', k' = k ∨ r.known.Has k' → (note b).Has k')
    (answers : a.Settles k → ∃ b, e = .ok b) : Noted (Remembers P a before sizes) c r.known note e := by
  have ended : stateAfter (Client.ask q) r.client = c := Gives.state (P := (· = c)) ⟨c, asked, rfl⟩
  cases e with
  | ok b =>
    have grows (k' : Lookup) (had : r.known.Has k') : (note b).Has k' := learns b k' (.inr had)
    exact h.look same ended stands new (agrees b rfl) grows fun _ => learns b k (.inl rfl)
  | error e =>
    exact h.look same ended stands new h.agrees (fun _ had => had) fun settles => nomatch answers settles

private theorem unknown {known : Option β} (h : known = none) : ¬ known.isSome := by simp [h]

end

/-! ### Resolutions -/

/-- What a session does with a resolver. -/
inductive Resolution where
  | frames (t : ThreadId)
  | events (set : WireEventSet)
  | breakpoint (b : BreakpointRequest)

/-- What comes of it; a breakpoint comes to a place. -/
inductive Resolved where
  | stack (result : Except SessionError (List RemoteFrame))
  | told (set : Option EventSet)
  | place (result : Except SessionError CodePlace)

namespace Resolution

def result : Resolution → Resolver π → Resolved
  | .frames t, r => .stack (resultOf (WireSession.frames t) r)
  | .events set, r => .told (Resolver.eventSet? set r).1
  | .breakpoint b, r => .place (resultOf (Resolver.placeOfLine b.typeName b.line) r)

/-- The resolver afterwards; of a breakpoint, once it was requested at its place. -/
def after : Resolution → Resolver π → Resolver π
  | .frames t, r => stateAfter (WireSession.frames t) r
  | .events set, r => (Resolver.eventSet? set r).2
  | .breakpoint b, r => stateAfter (WireSession.requestBreakpoint b) r

end Resolution

/-- A resolver may be asked anything but the code without harm. -/
structure Undisturbed (Q : Resolver π → Prop) (a : Account) : Prop where
  consults : Consults Q a
  aside {r : Resolver π} (h : Q r) {β : Type} {q : Query β} (aside : (q.set, q.number) ∉ codeCommands)
    {c : Client π} (asked : stateAfter (Client.ask q) r.client = c) : Q { r with client := c }

namespace Undisturbed

variable {Q : Resolver π → Prop} {r : Resolver π} (undisturbed : Undisturbed Q a) (h : Q r)
include undisturbed h

theorem gives_ask (q : Query α) (aside : (q.set, q.number) ∉ codeCommands) :
    Gives Q (Resolver.ask q) r ((resultOf (Client.ask q) r.client).mapError WireError.toSession) := by
  have asked : Gives (· = stateAfter (Client.ask q) r.client) (Client.ask q) r.client _ := .of_state rfl
  refine (Resolver.gives_within asked).mono ?_
  rintro _ ⟨c, ended, rfl⟩
  exact undisturbed.aside h aside ended.symm

theorem gives_frames (t : ThreadId) : Gives Q (WireSession.frames t) r ((a.amid r.client).stack t) := by
  refine WireSession.gives_stack (undisturbed.consults.amid r.client) ?_
  rw [Account.frames_amid]
  exact undisturbed.gives_ask h _ (by simp [codeCommands, Query.frames])

theorem gives_placeOfLine (typeName : String) (line : Int32) :
    Gives Q (Resolver.placeOfLine typeName line) r ((a.amid r.client).placeOfLine typeName line) := by
  refine Resolver.gives_placeOfLine (undisturbed.consults.amid r.client) line ?_
  rw [Account.loadedTypes_amid]
  exact undisturbed.gives_ask h _ (by simp [codeCommands, Query.loadedTypes])

theorem after (x : Resolution) : Q (x.after r) := by
  cases x with
  | frames t => exact (undisturbed.gives_frames h t).state
  | events set => exact (Resolver.alike_eventSet? undisturbed.consults set).keeps h
  | breakpoint b =>
    rw [Resolution.after, WireSession.requestBreakpoint]
    have looked := undisturbed.gives_placeOfLine h b.typeName b.line
    cases found : Resolver.placeOfLine b.typeName b.line r with
    | ok p r' =>
      have h' : Q r' := stateAfter_of_ok found ▸ looked.state
      rw [stateAfter_bind_ok found]
      exact (undisturbed.gives_ask h' _ (by simp [codeCommands, Query.setRequest])).state
    | error e r' =>
      rw [stateAfter_bind_error found]
      exact stateAfter_of_error found ▸ looked.state

end Undisturbed

end

end Debugger.Wire
