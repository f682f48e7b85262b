import Debugger.Proofs.AskedCommands
import Debugger.Proofs.Exchange
import Debugger.Proofs.ReadingBack
import Debugger.Wire.Session

/-! # What the machine says of its code

While the machine gives the same account of its code whenever it is asked, a session tells what the account says,
whatever it has learned before and whatever events come in between: nothing that is kept is ever out of date.
-/

namespace Debugger.Wire

variable {ε τ α β : Type}

/-- The result of an action, and the state in which it ends. -/
def resultIn (r : Except ε α) (s : τ) : EStateM.Result ε τ α :=
  match r with
  | .ok a => .ok a s
  | .error e => .error e s

/-- The result of an action, without the state. -/
def resultOf (x : EStateM ε τ α) (s : τ) : Except ε α :=
  match x s with
  | .ok a _ => .ok a
  | .error e _ => .error e

/-- The action has that result, and ends in a state that satisfies `P`. -/
def Gives (P : τ → Prop) (x : EStateM ε τ α) (s : τ) (r : Except ε α) : Prop :=
  ∃ s', x s = resultIn r s' ∧ P s'

namespace Gives

variable {P Q : τ → Prop} {x : EStateM ε τ α} {s : τ} {r : Except ε α}

theorem mono (h : Gives P x s r) (weaker : ∀ s, P s → Q s) : Gives Q x s r := by
  obtain ⟨s', run, hP⟩ := h
  exact ⟨s', run, weaker s' hP⟩

theorem congr {x' : EStateM ε τ α} {s' : τ} (same : x s = x' s') (h : Gives P x' s' r) : Gives P x s r := by
  rwa [Gives, same]

theorem pure (a : α) (h : P s) : Gives P (Pure.pure a : EStateM ε τ α) s (.ok a) := ⟨s, rfl, h⟩

theorem throw (e : ε) (h : P s) : Gives P (MonadExcept.throw e : EStateM ε τ α) s (.error e) := ⟨s, rfl, h⟩

/-- What comes after may lead from what `P` says to what `Q` says; where it is not reached, `P` itself has to. -/
theorem seq {f : α → EStateM ε τ β} {g : α → Except ε β} (h : Gives P x s r)
    (hf : ∀ a s', r = .ok a → P s' → Gives Q (f a) s' (g a)) (he : ∀ e s', r = .error e → P s' → Q s') :
    Gives Q (x >>= f) s (r >>= g) := by
  obtain ⟨s', run, hP⟩ := h
  cases r with
  | ok a =>
    rw [resultIn] at run
    obtain ⟨s'', rest, hQ⟩ := hf a s' rfl hP
    exact ⟨s'', (run_ok_bind run).trans rest, hQ⟩
  | error e =>
    refine ⟨s', ?_, he e s' rfl hP⟩
    simp only [Bind.bind, EStateM.bind, run, resultIn, Except.bind]

theorem bind {f : α → EStateM ε τ β} {g : α → Except ε β} (h : Gives P x s r)
    (hf : ∀ a s', r = .ok a → P s' → Gives P (f a) s' (g a)) : Gives P (x >>= f) s (r >>= g) :=
  h.seq hf fun _ _ _ hP => hP

theorem state (h : Gives P x s r) : P (stateAfter x s) := by
  obtain ⟨s', run, hP⟩ := h
  rw [stateAfter, run]
  cases r <;> exact hP

theorem result (h : Gives P x s r) : resultOf x s = r := by
  obtain ⟨s', run, -⟩ := h
  rw [resultOf, run]
  cases r <;> rfl

/-- Every action has some result, and ends in some state. -/
theorem of_state (h : P (stateAfter x s)) : Gives P x s (resultOf x s) := by
  rw [stateAfter] at h
  rw [Gives, resultOf]
  cases run : x s with
  | ok a s' =>
    rw [run] at h
    exact ⟨s', rfl, h⟩
  | error e s' =>
    rw [run] at h
    exact ⟨s', rfl, h⟩

theorem ok {a : α} (h : Gives P x s (.ok a)) : ∃ s', x s = .ok a s' ∧ P s' := h

theorem error {e : ε} (h : Gives P x s (.error e)) : ∃ s', x s = .error e s' ∧ P s' := h

end Gives

/-- Wherever `P` holds there is the same result, and `P` stays. -/
def Alike (P : τ → Prop) (x : StateM τ β) : Prop := ∃ b, ∀ s, P s → (x s).1 = b ∧ P (x s).2

namespace Alike

variable {P : τ → Prop} {x : StateM τ α} {s s' : τ}

theorem pure (b : β) : Alike P (Pure.pure b : StateM τ β) := ⟨b, fun _ h => ⟨rfl, h⟩⟩

theorem bind {f : α → StateM τ β} (h : Alike P x) (hf : ∀ a, Alike P (f a)) : Alike P (x >>= f) := by
  obtain ⟨a, first⟩ := h
  obtain ⟨b, second⟩ := hf a
  refine ⟨b, fun s hP => ?_⟩
  obtain ⟨rfl, hP'⟩ := first s hP
  exact second _ hP'

theorem keeps (h : Alike P x) (hP : P s) : P (x s).2 := (h.choose_spec s hP).2

theorem same (h : Alike P x) (hP : P s) (hP' : P s') : (x s).1 = (x s').1 :=
  (h.choose_spec s hP).1.trans (h.choose_spec s' hP').1.symm

end Alike

/-- What a machine says of its code and of its stacks. -/
structure Account where
  loadedTypes : String → Except WireError (List LoadedType)
  signature : TypeId → Except WireError String
  methods : TypeId → Except WireError (List Member)
  lineTable : TypeId → MethodId → Except WireError LineTable
  variableTable : TypeId → MethodId → Except WireError (List VariableEntry)
  frames : ThreadId → Except WireError (List FrameEntry)

namespace Account

variable (a : Account)

def typeName (t : TypeId) : Except SessionError String := do
  return Signature.typeName (← (a.signature t).mapError WireError.toSession)

def members (t : TypeId) : Except SessionError (List Member) := (a.methods t).mapError WireError.toSession

/-- The line table of a method, unless the method has none. -/
def lineTable? (t : TypeId) (m : MethodId) : Except SessionError (Option LineTable) :=
  match a.lineTable t m with
  | .ok table => .ok (some table)
  | .error (.refused code) =>
    if code = Code.absentInformation || code = Code.notImplemented then .ok none
    else .error (WireError.refused code).toSession
  | .error e => .error e.toSession

/-- The variables of a method; a method without a table has none. -/
def locals (m : MethodRef) : Except SessionError (List VariableEntry) :=
  match a.variableTable m.type m.method with
  | .ok vs => .ok vs
  | .error (.refused code) =>
    if code = Code.absentInformation then .ok [] else .error (WireError.refused code).toSession
  | .error e => .error e.toSession

def method (t : TypeId) (m : MethodId) : Except SessionError Method := do
  let declaringType ← a.typeName t
  match (← a.members t).find? (·.id = m) with
  | some member =>
    return { id := ⟨t, m⟩
             name := member.name
             declaringType
             signature := member.signature
             modifiers := member.modifiers }
  | none => throw (.protocol ("unknown method " ++ toString m ++ " in " ++ declaringType))

def location (p : CodePlace) : Except SessionError Location := do
  let method ← a.method p.type p.method
  let table ← a.lineTable? p.type p.method
  return { method, codeIndex := p.index, line := table.bind (·.lineAt? p.index) }

def remoteFrame (f : FrameEntry) : Except SessionError RemoteFrame := return ⟨f.id, ← a.location f.place⟩

/-- The stack of a thread, top first. -/
def stack (t : ThreadId) : Except SessionError (List RemoteFrame) := do
  ((← (a.frames t).mapError WireError.toSession).mapM a.remoteFrame)

end Account

section

variable {π : Type} [Peer π] {P : Client π → Prop} {a : Account}

/-- The machine gives this account to every client that satisfies `P`, and what it is asked then leaves `P` as it
is. -/
structure Faithful (P : Client π → Prop) (a : Account) : Prop where
  loadedTypes {c : Client π} (h : P c) (signature : String) :
    Gives P (Client.ask (.loadedTypes signature)) c (a.loadedTypes signature)
  signature {c : Client π} (h : P c) (t : TypeId) : Gives P (Client.ask (.signature t)) c (a.signature t)
  methods {c : Client π} (h : P c) (t : TypeId) : Gives P (Client.ask (.methods t)) c (a.methods t)
  lineTable {c : Client π} (h : P c) (t : TypeId) (m : MethodId) :
    Gives P (Client.ask (.lineTable t m)) c (a.lineTable t m)
  variableTable {c : Client π} (h : P c) (t : TypeId) (m : MethodId) :
    Gives P (Client.ask (.variableTable t m)) c (a.variableTable t m)
  frames {c : Client π} (h : P c) (t : ThreadId) : Gives P (Client.ask (.frames t 0 (-1))) c (a.frames t)

/-- The commands by which the account is asked for. -/
def accountCommands : List (UInt8 × UInt8) := [(1, 2), (2, 1), (2, 5), (6, 1), (6, 2), (11, 6)]

/-- A client of that kind which has asked these commands of one set and number, and writes identifiers so. -/
structure HasAsked (P : Client π → Prop) (set number : UInt8) (payloads : List Bytes) (sizes : IdSizes)
    (c : Client π) : Prop where
  stands : P c
  asked : c.connection.asked set number = payloads
  sizes : c.connection.sizes = sizes

section

variable {set number : UInt8} {payloads : List Bytes} {sizes : IdSizes} {c : Client π} {q : Query α}
  {e : Except WireError α}

/-- A query is on the record once it was asked, and is alone there. -/
theorem HasAsked.gives (has : HasAsked P set number payloads sizes c) (h : Gives P (Client.ask q) c e) :
    Gives (HasAsked P set number
      (payloads ++ if q.set = set ∧ q.number = number then [q.payload sizes] else []) sizes) (Client.ask q) c e := by
  obtain ⟨c', run, stands⟩ := h
  have recorded := Client.commands_ask q c
  have after : stateAfter (Client.ask q) c = c' := by
    rw [stateAfter, run]
    cases e <;> rfl
  rw [after] at recorded
  refine ⟨c', run, stands, ?_, recorded.2.trans has.sizes⟩
  rw [Connection.asked_of_commands set number recorded.1, has.asked, has.sizes]

private theorem HasAsked.gives_aside (has : HasAsked P set number payloads sizes c) (h : Gives P (Client.ask q) c e)
    (aside : ¬ (q.set = set ∧ q.number = number)) :
    Gives (HasAsked P set number payloads sizes) (Client.ask q) c e := by
  have given := has.gives h
  rwa [if_neg aside, List.append_nil] at given

/-- The account is given without any command but its own. -/
theorem Faithful.hasAsked (faithful : Faithful P a) (apart : (set, number) ∉ accountCommands) :
    Faithful (HasAsked P set number payloads sizes) a := by
  simp only [accountCommands, List.mem_cons, List.not_mem_nil, or_false, not_or, Prod.mk.injEq] at apart
  obtain ⟨h₁, h₂, h₃, h₄, h₅, h₆⟩ := apart
  exact
    { loadedTypes := fun has signature =>
        has.gives_aside (faithful.loadedTypes has.stands signature) fun h => h₁ ⟨h.1.symm, h.2.symm⟩
      signature := fun has t => has.gives_aside (faithful.signature has.stands t) fun h => h₂ ⟨h.1.symm, h.2.symm⟩
      methods := fun has t => has.gives_aside (faithful.methods has.stands t) fun h => h₃ ⟨h.1.symm, h.2.symm⟩
      lineTable := fun has t m => has.gives_aside (faithful.lineTable has.stands t m) fun h => h₄ ⟨h.1.symm, h.2.symm⟩
      variableTable := fun has t m =>
        has.gives_aside (faithful.variableTable has.stands t m) fun h => h₅ ⟨h.1.symm, h.2.symm⟩
      frames := fun has t => has.gives_aside (faithful.frames has.stands t) fun h => h₆ ⟨h.1.symm, h.2.symm⟩ }

end

/-- What is known is what the account says. -/
structure Knowledge.Agrees (k : Knowledge) (a : Account) : Prop where
  typeNames {t : TypeId} {name : String} (h : k.typeNames.find? t = some name) : a.typeName t = .ok name
  methods {t : TypeId} {ms : List Member} (h : k.methods.find? t = some ms) : a.members t = .ok ms
  lineTables {t : TypeId} {m : MethodId} {table : Option LineTable} (h : k.lineTables.find? (t, m) = some table) :
    a.lineTable? t m = .ok table

/-- Nothing is known at first. -/
theorem Knowledge.agrees_nothing (a : Account) : Knowledge.Agrees {} a :=
  ⟨fun h => (nomatch h), fun h => (nomatch h), fun h => (nomatch h)⟩

private theorem learned {κ β ε : Type} [DecidableEq κ] {table : Table κ β} {f : κ → Except ε β} {k : κ} {b : β}
    (known : ∀ {k b}, table.find? k = some b → f k = .ok b) (new : f k = .ok b) {k' : κ} {b' : β}
    (h : (table.put k b).find? k' = some b') : f k' = .ok b' := by
  by_cases same : k' = k
  · subst same
    rw [Table.find?_put_self] at h
    cases h
    exact new
  · rw [Table.find?_put_of_ne _ _ same] at h
    exact known h

theorem Knowledge.Agrees.put_typeName {k : Knowledge} (agrees : k.Agrees a) {t : TypeId} {name : String}
    (told : a.typeName t = .ok name) : Knowledge.Agrees { k with typeNames := k.typeNames.put t name } a :=
  ⟨learned agrees.typeNames told, agrees.methods, agrees.lineTables⟩

theorem Knowledge.Agrees.put_methods {k : Knowledge} (agrees : k.Agrees a) {t : TypeId} {ms : List Member}
    (told : a.members t = .ok ms) : Knowledge.Agrees { k with methods := k.methods.put t ms } a :=
  ⟨agrees.typeNames, learned agrees.methods told, agrees.lineTables⟩

theorem Knowledge.Agrees.put_lineTable {k : Knowledge} (agrees : k.Agrees a) {t : TypeId} {m : MethodId}
    {table : Option LineTable} (told : a.lineTable? t m = .ok table) :
    Knowledge.Agrees { k with lineTables := k.lineTables.put (t, m) table } a :=
  ⟨agrees.typeNames, agrees.methods, fun h =>
    learned (f := fun (k : TypeId × MethodId) => a.lineTable? k.1 k.2) agrees.lineTables told h⟩

/-- `Q` holds once an answer is kept; a failure is not kept. -/
def Noted (Q : Resolver π → Prop) (client : Client π) (known : Knowledge) (note : β → Knowledge) :
    Except SessionError β → Prop
  | .ok b => Q { client, known := note b }
  | .error _ => Q { client, known }

/-- Where nothing is known, the machine is asked, and gives this account; what it says is kept then, and leaves `Q` as
it is. -/
structure Consults (Q : Resolver π → Prop) (a : Account) : Prop where
  agrees {r : Resolver π} (h : Q r) : r.known.Agrees a
  signature {r : Resolver π} (h : Q r) {t : TypeId} (new : r.known.typeNames.find? t = none) :
    Gives (Noted Q · r.known (fun name => { r.known with typeNames := r.known.typeNames.put t name }) (a.typeName t))
      (Client.ask (.signature t)) r.client (a.signature t)
  methods {r : Resolver π} (h : Q r) {t : TypeId} (new : r.known.methods.find? t = none) :
    Gives (Noted Q · r.known (fun ms => { r.known with methods := r.known.methods.put t ms }) (a.members t))
      (Client.ask (.methods t)) r.client (a.methods t)
  lineTable {r : Resolver π} (h : Q r) {t : TypeId} {m : MethodId} (new : r.known.lineTables.find? (t, m) = none) :
    Gives (Noted Q · r.known (fun table => { r.known with lineTables := r.known.lineTables.put (t, m) table })
        (a.lineTable? t m))
      (Client.ask (.lineTable t m)) r.client (a.lineTable t m)

/-- A resolver that has learned nothing but what the account says, over such a client. -/
def Informed (P : Client π → Prop) (a : Account) (r : Resolver π) : Prop := P r.client ∧ r.known.Agrees a

omit [Peer π] in
/-- What has been learned still agrees when something new is told. -/
theorem Informed.learn {c : Client π} {known : Knowledge} {e : Except SessionError β} {note : β → Knowledge}
    (stands : P c) (agrees : known.Agrees a) (new : ∀ b, e = .ok b → (note b).Agrees a) :
    Noted (Informed P a) c known note e := by
  cases e with
  | ok b => exact ⟨stands, new b rfl⟩
  | error e => exact ⟨stands, agrees⟩

/-- A client to which the machine gives the account's word on its code. -/
theorem consults_informed
    (signature : ∀ {c : Client π}, P c → ∀ t : TypeId, Gives P (Client.ask (.signature t)) c (a.signature t))
    (methods : ∀ {c : Client π}, P c → ∀ t, Gives P (Client.ask (.methods t)) c (a.methods t))
    (lineTable : ∀ {c : Client π}, P c → ∀ t m, Gives P (Client.ask (.lineTable t m)) c (a.lineTable t m)) :
    Consults (Informed P a) a where
  agrees informed := informed.2
  signature {_} informed {t} _ :=
    (signature informed.1 t).mono fun _ stands => Informed.learn stands informed.2 fun _ told => informed.2.put_typeName told
  methods {_} informed {t} _ :=
    (methods informed.1 t).mono fun _ stands => Informed.learn stands informed.2 fun _ told => informed.2.put_methods told
  lineTable {_} informed {t m} _ :=
    (lineTable informed.1 t m).mono fun _ stands => Informed.learn stands informed.2 fun _ told => informed.2.put_lineTable told

theorem Faithful.consults (faithful : Faithful P a) : Consults (Informed P a) a :=
  consults_informed faithful.signature faithful.methods faithful.lineTable

namespace Resolver

variable {Q : Resolver π → Prop} {r : Resolver π}

omit [Peer π] in
/-- What a client is asked changes nothing of what is known. -/
theorem gives_attempt {x : Ask π α} {e : Except WireError α} (h : Gives P x r.client e) :
    Gives (fun r' => ∃ client, P client ∧ r' = { r with client }) (attempt x) r (.ok e) := by
  obtain ⟨client, run, hP⟩ := h
  refine ⟨{ r with client }, ?_, client, hP, rfl⟩
  cases e with
  | ok b => simp only [attempt, run, resultIn]
  | error e => simp only [attempt, run, resultIn]

omit [Peer π] in
theorem gives_within {x : Ask π α} {e : Except WireError α} (h : Gives P x r.client e) :
    Gives (fun r' => ∃ client, P client ∧ r' = { r with client }) (within x) r (e.mapError WireError.toSession) := by
  refine (gives_attempt h).bind (g := fun e => e.mapError WireError.toSession) fun e' r' _ hr => ?_
  cases e' with
  | ok b => exact .pure b hr
  | error e => exact .throw _ hr

variable (consults : Consults Q a) (h : Q r)
include consults h

theorem gives_typeName (t : TypeId) : Gives Q (typeName t) r (a.typeName t) := by
  unfold typeName
  refine Gives.congr (act_get_bind _ _) ?_
  cases known : r.known.typeNames.find? t with
  | some name =>
    rw [(consults.agrees h).typeNames known]
    exact .pure name h
  | none =>
    have asked := gives_within (consults.signature h known)
    rw [Account.typeName] at asked ⊢
    refine asked.seq (fun signature r' given hr => ?_) fun e r' given hr => ?_
    · rw [given] at hr
      obtain ⟨client, noted, rfl⟩ := hr
      exact ⟨_, rfl, noted⟩
    · rw [given] at hr
      obtain ⟨client, noted, rfl⟩ := hr
      exact noted

theorem gives_methods (t : TypeId) : Gives Q (methods t) r (a.members t) := by
  unfold methods
  refine Gives.congr (act_get_bind _ _) ?_
  cases known : r.known.methods.find? t with
  | some ms =>
    rw [(consults.agrees h).methods known]
    exact .pure ms h
  | none =>
    have asked := gives_within (consults.methods h known)
    rw [Account.members] at asked ⊢
    rw [← bind_pure ((a.methods t).mapError WireError.toSession)]
    refine asked.seq (fun ms r' given hr => ?_) fun e r' given hr => ?_
    · rw [given] at hr
      obtain ⟨client, noted, rfl⟩ := hr
      exact ⟨_, rfl, noted⟩
    · rw [given] at hr
      obtain ⟨client, noted, rfl⟩ := hr
      exact noted

theorem gives_lineTable? (t : TypeId) (m : MethodId) : Gives Q (lineTable? t m) r (a.lineTable? t m) := by
  unfold lineTable?
  refine Gives.congr (act_get_bind _ _) ?_
  cases known : r.known.lineTables.find? (t, m) with
  | some table =>
    rw [(consults.agrees h).lineTables known]
    exact .pure table h
  | none =>
    have asked := gives_attempt (consults.lineTable h known)
    rw [Account.lineTable?] at asked ⊢
    generalize a.lineTable t m = answer at asked ⊢
    obtain ⟨r', run, client, noted, rfl⟩ := asked
    refine Gives.congr (run_ok_bind run) ?_
    cases answer with
    | ok table => exact ⟨_, rfl, noted⟩
    | error e =>
      cases e with
      | refused code =>
        dsimp only at noted ⊢
        split
        · next absent =>
          rw [if_pos absent] at noted
          exact ⟨_, rfl, noted⟩
        · next failed =>
          rw [if_neg failed] at noted
          exact ⟨_, rfl, noted⟩
      | _ => exact ⟨_, rfl, noted⟩

theorem gives_method (t : TypeId) (m : MethodId) : Gives Q (method t m) r (a.method t m) := by
  refine (gives_typeName consults h t).bind fun name r' _ hr => ?_
  refine (gives_methods consults hr t).bind fun ms r'' _ hr => ?_
  cases ms.find? (·.id = m) with
  | some member => exact .pure _ hr
  | none => exact .throw _ hr

theorem gives_location (p : CodePlace) : Gives Q (location p) r (a.location p) := by
  refine (gives_method consults h p.type p.method).bind fun method r' _ hr => ?_
  exact (gives_lineTable? consults hr p.type p.method).bind fun table r'' _ hr => .pure _ hr

/-! ### Events -/

omit h

theorem alike_eventLocation (p : CodePlace) : Alike Q (eventLocation p) := by
  refine ⟨match a.location p with | .ok l => l | .error _ => unknownLocation p, fun r h => ?_⟩
  obtain ⟨r', run, hr⟩ := gives_location consults h p
  rw [eventLocation, run]
  cases a.location p with
  | ok l => exact ⟨rfl, hr⟩
  | error e => exact ⟨rfl, hr⟩

theorem alike_event? (e : WireEvent) : Alike Q (event? e) := by
  cases e with
  | step _ _ p => exact (alike_eventLocation consults p).bind fun _ => .pure _
  | breakpoint _ _ p => exact (alike_eventLocation consults p).bind fun _ => .pure _
  | _ => exact .pure _

theorem alike_events (es : List WireEvent) : Alike Q (events es) := by
  induction es with
  | nil => exact .pure _
  | cons e es ih => exact (alike_event? consults e).bind fun first => ih.bind fun rest => .pure _

/-- What is told of an event set does not depend on what is known. -/
theorem alike_eventSet? (set : WireEventSet) : Alike Q (eventSet? set) :=
  (alike_events consults set.events).bind fun _ => .pure _

end Resolver

section

variable {r : Resolver π} {x : Ask π α} {e : Except WireError α} (agrees : r.known.Agrees a)
  (h : Gives P x r.client e)
include agrees h

omit [Peer π] in
theorem Knowledge.Agrees.gives_attempt : Gives (Informed P a) (Resolver.attempt x) r (.ok e) :=
  (Resolver.gives_attempt h).mono fun _ ⟨_, hP, same⟩ => same ▸ ⟨hP, agrees⟩

omit [Peer π] in
theorem Knowledge.Agrees.gives_within : Gives (Informed P a) (Resolver.within x) r (e.mapError WireError.toSession) :=
  (Resolver.gives_within h).mono fun _ ⟨_, hP, same⟩ => same ▸ ⟨hP, agrees⟩

end

namespace WireSession

variable {s : WireSession π}

theorem informed_publish (faithful : Faithful P a) (n : Nat) {s : WireSession π} (informed : Informed P a s.resolver) :
    Informed P a (s.publish n).resolver := by
  induction n generalizing s with
  | zero => exact informed
  | succ n ih =>
    rw [publish]
    split
    · exact informed
    · split
      · exact ih informed
      · exact ih ((Resolver.alike_eventSet? faithful.consults _).keeps informed)
      · split
        · exact informed
        · exact informed

/-- What is published meanwhile changes nothing of what the session tells. -/
theorem gives_within (faithful : Faithful P a) {x : Resolve π α} {e : Except SessionError α}
    (h : Gives (Informed P a) x s.resolver e) : Gives (Informed P a ·.resolver) (within x) s e := by
  obtain ⟨r, run, hr⟩ := h
  have told := informed_publish faithful publishLimit (s := { s with resolver := r }) hr
  refine ⟨_, ?_, told⟩
  rw [within, run]
  cases e <;> rfl

variable {r : Resolver π}

theorem gives_locate {Q : Resolver π → Prop} (consults : Consults Q a) (es : List FrameEntry) {r : Resolver π}
    (h : Q r) : Gives Q (locate es) r (es.mapM a.remoteFrame) := by
  induction es generalizing r with
  | nil => exact .pure [] h
  | cons f fs ih =>
    rw [List.mapM_cons, Account.remoteFrame, bind_assoc]
    refine (Resolver.gives_location consults h f.place).bind fun l r' _ hr => ?_
    rw [pure_bind]
    exact (ih hr).bind fun rest r'' _ hr => .pure _ hr

/-- The stack, when the machine has told its frames. -/
theorem gives_stack {Q : Resolver π → Prop} (consults : Consults Q a) {t : ThreadId}
    (asked : Gives Q (Resolver.ask (.frames t 0 (-1))) r ((a.frames t).mapError WireError.toSession)) :
    Gives Q (frames t) r (a.stack t) :=
  asked.bind fun es _ _ hr => gives_locate consults es hr

theorem gives_frames (faithful : Faithful P a) (informed : Informed P a r) (t : ThreadId) :
    Gives (Informed P a) (frames t) r (a.stack t) :=
  gives_stack faithful.consults (informed.2.gives_within (faithful.frames informed.1 t))

theorem gives_methodVariables (faithful : Faithful P a) (informed : Informed P a r) (m : MethodRef) :
    Gives (Informed P a) (methodVariables m) r (a.locals m) := by
  have asked := informed.2.gives_attempt (faithful.variableTable informed.1 m.type m.method)
  rw [Account.locals]
  generalize a.variableTable m.type m.method = answer at asked ⊢
  obtain ⟨r', run, hr⟩ := asked
  refine Gives.congr (run_ok_bind run) ?_
  cases answer with
  | ok vs => exact .pure vs hr
  | error e =>
    cases e with
    | refused code =>
      dsimp only
      split
      · exact .pure [] hr
      · exact .throw _ hr
    | _ => exact .throw _ hr

end WireSession

end

/-! ### A machine that always says the same -/

/-- A machine of which every command of a kind has the same reply. -/
structure Recital where
  replies : UInt8 → UInt8 → Bytes

instance : Peer Recital where
  greet _ := return { bytes := greeting }
  answer p r := ({ bytes := (Packet.reply p.id 0 (r.replies p.high p.low)).encode }, r)

namespace Recital

/-- No call of the client waits, and the next reply will be heard. -/
structure Hears (p : Recital) (c : Client Recital) : Prop where
  idle : c.connection.Idle
  waits : c.connection.replyTimeout ≠ some 0
  sizes : c.connection.sizes = {}
  peer : c.peer = p

variable {p : Recital} {c : Client Recital}

/-- The reply is heard, whatever is read from it. -/
private theorem calls {q : Query α} (hears : p.Hears c)
    (short : Packet.headerSize + (p.replies q.set q.number).length ≤ Packet.maxSize) :
    ∃ connection, Client.call q.set q.number (q.payload c.connection.sizes) c =
      .ok (p.replies q.set q.number) { c with connection } ∧ p.Hears { c with connection } := by
  have answer : Peer.answer (.command c.connection.nextId q.set q.number (q.payload c.connection.sizes)) c.peer =
      ({ bytes := (Packet.reply c.connection.nextId 0 (p.replies q.set q.number)).encode }, c.peer) := by
    rw [hears.peer]
    rfl
  obtain ⟨connection, called, answered⟩ := Client.call_answered hears.idle hears.waits answer short
  refine ⟨connection, called, answered.idle, ?_, answered.sizes.trans hears.sizes, hears.peer⟩
  dsimp only
  rw [answered.replyTimeout]
  exact hears.waits

theorem gives {q : Query α} {b : α} (hears : p.Hears c)
    (short : Packet.headerSize + (p.replies q.set q.number).length ≤ Packet.maxSize)
    (reads : (q.reply {}).run (p.replies q.set q.number) = .ok b) : Gives p.Hears (Client.ask q) c (.ok b) := by
  obtain ⟨connection, called, hears'⟩ := calls hears short
  refine ⟨{ c with connection }, ?_, hears'⟩
  rw [Client.ask, act_get_bind, run_ok_bind called, act_get_bind]
  dsimp only
  rw [hears'.sizes, reads]
  rfl

/-- The code of line 10 is in two places of a method, and is not listed in order. -/
def sampleLines : LineTable := ⟨0, 20, [⟨9, 10⟩, ⟨0, 12⟩, ⟨5, 10⟩]⟩

def sampleEntries : List VariableEntry := [⟨0, "x", "I", 5, 0⟩, ⟨0, "x", "I", 20, 1⟩]

def sampleMembers : List Member := [⟨1, "main", "()V", 9⟩, ⟨2, "run", "()V", 1⟩]

/-- A frame without a code index, and its caller. -/
def sampleFrames : List FrameEntry := [⟨1, 1, 7, 1, 18446744073709551615⟩, ⟨2, 1, 7, 2, 10⟩]

/-- A machine with one class, of which all methods are the same. -/
def sample : Recital where
  replies set number :=
    match set.toNat, number.toNat with
    | 1, 2 => Encode.count 1 ++ Encode.u8 1 ++ Encode.u64 7 ++ Encode.u32 0
    | 2, 1 => Encode.text "LMain;"
    | 2, 5 => Encode.list (fun m => Encode.u64 m.id ++ Encode.text m.name ++ Encode.text m.signature ++
        Encode.u32 m.modifiers) sampleMembers
    | 6, 1 => Encode.u64 0 ++ Encode.u64 20 ++
        Encode.list (fun e => Encode.u64 e.index ++ Encode.i32 e.line) sampleLines.lines
    | 6, 2 => Encode.u32 0 ++ Encode.list (fun v => Encode.u64 v.index ++ Encode.text v.name ++
        Encode.text v.signature ++ Encode.u32 v.length ++ Encode.u32 v.slot) sampleEntries
    | 11, 6 => Encode.list (fun f => Encode.u64 f.id ++ Encode.place {} f.place) sampleFrames
    | 15, 1 => Encode.i32 3
    | 16, 1 => Encode.list (Encode.value {}) [.int 42]
    | _, _ => []

def sampleAccount : Account where
  loadedTypes signature := .ok [⟨1, 7, signature, 0⟩]
  signature _ := .ok "LMain;"
  methods _ := .ok sampleMembers
  lineTable _ _ := .ok sampleLines
  variableTable _ _ := .ok sampleEntries
  frames _ := .ok sampleFrames

private theorem sampleMembers_read :
    ((Query.methods 7).reply {}).run (sample.replies 2 5) = .ok sampleMembers := by decide +kernel

private theorem sampleEntries_read :
    ((Query.variableTable 7 1).reply {}).run (sample.replies 6 2) = .ok sampleEntries := by decide +kernel

private theorem sampleFrames_read :
    ((Query.frames 1 0 (-1)).reply {}).run (sample.replies 11 6) = .ok sampleFrames := by decide +kernel

theorem sample_faithful : Faithful sample.Hears sampleAccount where
  loadedTypes hears _ := gives hears (Nat.le_of_ble_eq_true rfl) rfl
  signature hears _ := gives hears (Nat.le_of_ble_eq_true rfl) (Decoder.reads_text (by decide)).run
  methods hears _ := gives hears (Nat.le_of_ble_eq_true rfl) sampleMembers_read
  lineTable hears _ _ := gives hears (Nat.le_of_ble_eq_true rfl) rfl
  variableTable hears _ _ := gives hears (Nat.le_of_ble_eq_true rfl) sampleEntries_read
  frames hears _ := gives hears (Nat.le_of_ble_eq_true rfl) sampleFrames_read

def sampleSession : WireSession Recital := .new { connection := .new none 4, peer := sample }

theorem sampleSession_informed : Informed sample.Hears sampleAccount sampleSession.resolver :=
  ⟨⟨⟨rfl, rfl, rfl, rfl⟩, nofun, rfl, rfl⟩, Knowledge.agrees_nothing _⟩

end Recital

end Debugger.Wire
