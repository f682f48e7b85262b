import Debugger.Debuggee.Peer
import Debugger.Proofs.DebuggeeAnswers
import Debugger.Proofs.Exchange
import Debugger.Wire.Session

/-! # A session with a debuggee

While a debuggee reports nothing, what a session asks of it is answered at once: the session is as quiet as
before, and the debuggee is what the query made of it.
-/

namespace Debugger.Wire

open Debuggee (Grants)

variable {α : Type}

namespace Client

variable {c : Client Debuggee} {q : Query α} {a : α} {d : Debuggee}

/-- A query that is granted is answered, provided that the client writes and reads it as the debuggee does. -/
private theorem ask_granted' (idle : c.connection.Idle) (waits : c.connection.replyTimeout ≠ some 0)
    (payload : q.payload c.connection.sizes = q.payload c.peer.sizes)
    (reply : q.reply c.connection.sizes = q.reply c.peer.sizes) (h : c.peer.Grants q a d) :
    ∃ connection, ask q c = .ok a { c with connection, peer := d } ∧ c.connection.Answered connection := by
  obtain ⟨⟨bytes, responds, reads, short⟩, -⟩ := h
  have answer : Peer.answer (.command c.connection.nextId q.set q.number (q.payload c.connection.sizes)) c.peer =
      ({ bytes := (Packet.reply c.connection.nextId 0 bytes).encode }, d) := by
    simp [Peer.answer, Packet.command, payload, responds, Debuggee.Response.bytes]
  obtain ⟨connection, called, answered⟩ := call_answered idle waits answer short
  refine ⟨connection, ?_, answered⟩
  rw [ask, act_get_bind, run_ok_bind called, act_get_bind]
  dsimp only
  rw [answered.sizes, reply, reads]
  rfl

theorem ask_granted (idle : c.connection.Idle) (waits : c.connection.replyTimeout ≠ some 0)
    (sizes : c.connection.sizes = c.peer.sizes) (h : c.peer.Grants q a d) :
    ∃ connection, ask q c = .ok a { c with connection, peer := d } ∧ c.connection.Answered connection :=
  ask_granted' idle waits (by rw [sizes]) (by rw [sizes]) h

end Client

/-! ### Connecting -/

theorem Connection.idle_new (limit : Option Nat) (capacity : Nat) : (Connection.new limit capacity).Idle :=
  ⟨rfl, rfl, rfl, rfl⟩

/-- What a client has once it is connected with a debuggee. -/
structure Client.Connected (s : ConnectionSettings) (d : Debuggee) (c : Client Debuggee) : Prop where
  idle : c.connection.Idle
  replyTimeout : c.connection.replyTimeout = s.reply
  sizes : c.connection.sizes = d.sizes
  peer : c.peer = d

private theorem Client.askSizes_granted {c : Client Debuggee} (idle : c.connection.Idle)
    (waits : c.connection.replyTimeout ≠ some 0) (h : c.peer.Grants .idSizes c.peer.sizes c.peer) :
    ∃ connection, askSizes c = .ok c.peer.sizes { c with connection } ∧ connection.Idle ∧
      connection.replyTimeout = c.connection.replyTimeout ∧ connection.sizes = c.peer.sizes := by
  obtain ⟨connection, asked, answered⟩ := ask_granted' idle waits rfl rfl h
  refine ⟨connection.perform (.setSizes c.peer.sizes), ?_, ?_, answered.replyTimeout, rfl⟩
  · rw [askSizes, run_ok_bind asked]
    rfl
  · exact ⟨answered.idle.unended, answered.idle.listening, answered.idle.none_waits, answered.idle.input⟩

theorem Client.connect_debuggee {s : ConnectionSettings} {d : Debuggee} (handshake : s.handshake ≠ 0)
    (waits : s.reply ≠ some 0)
    (small : ∀ n ∈ [d.sizes.field, d.sizes.method, d.sizes.object, d.sizes.type, d.sizes.frame], n < UInt32.size)
    (few : Packet.headerSize + d.capabilities.length ≤ Packet.maxSize) :
    ∃ c, Client.connect s d = (.ok (), c) ∧ Client.Connected s d c := by
  obtain ⟨c₁, sized, idle₁, timeout₁, sizes₁⟩ := askSizes_granted (c := ⟨.new s.reply s.capacity, d, false⟩)
    (Connection.idle_new _ _) waits (Debuggee.grants_idSizes small)
  obtain ⟨c₂, flagged, second⟩ := ask_granted (c := ⟨c₁, d, false⟩) idle₁ (by rwa [timeout₁]) sizes₁
    (Debuggee.grants_capabilityFlags few)
  have heard : hear ⟨.new s.reply s.capacity, d, false⟩ { bytes := [] } =
      (⟨.new s.reply s.capacity, d, false⟩ : Client Debuggee) := rfl
  refine ⟨⟨c₂.perform (.setCapabilities (.ofFlags d.capabilities)), d, false⟩, ?_, ?_⟩
  · rw [connect]
    have greets : Peer.greet greeting d = ({ bytes := greeting }, d) := rfl
    rw [greets]
    dsimp only
    rw [if_neg handshake, List.take_length, if_neg (Nat.lt_irrefl _), if_neg (fun h => h rfl), List.drop_length, heard,
      run_ok_bind sized, run_ok_bind flagged]
    rfl
  · have idle := second.idle
    exact ⟨⟨idle.unended, idle.listening, idle.none_waits, idle.input⟩, second.replyTimeout.trans timeout₁,
      second.sizes.trans sizes₁, rfl⟩

/-! ### Asking -/

namespace WireSession

/-- The machine at the other end. -/
def peer {π : Type} (s : WireSession π) : π := s.resolver.client.peer

/-- Nothing is under way between the session and its debuggee, and all that was reported is published. -/
structure Quiet (s : WireSession Debuggee) : Prop where
  idle : s.connection.Idle
  waits : s.connection.replyTimeout ≠ some 0
  sizes : s.connection.sizes = s.peer.sizes
  published : s.connection.events.receive? s.reader = none

variable {s s' s'' : WireSession Debuggee} {q : Query α} {a : α} {d d' : Debuggee}

theorem Quiet.publish (h : s.Quiet) (n : Nat) : s.publish n = s := by
  cases n with
  | zero => rfl
  | succ n =>
    rw [WireSession.publish, h.published]
    simp [h.idle.unended]

/-- The session is quiet again, it has published nothing, and its debuggee is `d`. -/
structure Answered (s : WireSession Debuggee) (d : Debuggee) (s' : WireSession Debuggee) : Prop where
  quiet : s'.Quiet
  peer : s'.peer = d
  events : s'.events = s.events

theorem Answered.trans (h : s.Answered d s') (h' : s'.Answered d' s'') : s.Answered d' s'' :=
  ⟨h'.quiet, h'.peer, h'.events.trans h.events⟩

theorem ask_granted (quiet : s.Quiet) (h : s.peer.Grants q a d) :
    ∃ s', WireSession.ask q s = .ok a s' ∧ s.Answered d s' := by
  obtain ⟨connection, asked, answered⟩ := Client.ask_granted quiet.idle quiet.waits quiet.sizes h
  have quiet' :
      { s with resolver := { s.resolver with client := { s.resolver.client with connection, peer := d } } }.Quiet :=
    { idle := answered.idle
      waits := by
        change connection.replyTimeout ≠ some 0
        rw [answered.replyTimeout]
        exact quiet.waits
      sizes := (answered.sizes.trans quiet.sizes).trans h.sizes.symm
      published := by
        change connection.events.receive? s.reader = none
        rw [answered.events]
        exact quiet.published }
  refine ⟨_, ?_, quiet', rfl, rfl⟩
  have resolved : Resolver.ask q s.resolver =
      .ok a { s.resolver with client := { s.resolver.client with connection, peer := d } } := by
    have attempted : Resolver.attempt (Client.ask q) s.resolver =
        .ok (.ok a) { s.resolver with client := { s.resolver.client with connection, peer := d } } := by
      rw [Resolver.attempt, asked]
    rw [Resolver.ask, Resolver.within, run_ok_bind attempted]
    rfl
  rw [ask, within, resolved]
  exact congrArg (EStateM.Result.ok a) (quiet'.publish publishLimit)

/-- The debugger learns whether the debuggee has the thread suspended. -/
theorem threadIsSuspended_granted (quiet : s.Quiet) (peer : s.peer = d) {t : ThreadId} {e : Debuggee.ThreadEntry}
    (known : d.thread? t = some e) (fits : d.Fits t) :
    ∃ s', Session.threadIsSuspended t s = .ok e.isSuspended s' ∧ s.Answered d s' := by
  subst peer
  obtain ⟨s', looked, answered⟩ := ask_granted quiet (Debuggee.grants_threadStatus known fits)
  refine ⟨s', (run_ok_bind looked).trans ?_, answered⟩
  cases e.isSuspended <;> rfl

end WireSession

end Debugger.Wire
