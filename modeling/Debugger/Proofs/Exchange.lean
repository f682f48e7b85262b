import Debugger.Proofs.ConnectionTurns
import Debugger.Proofs.Framing
import Debugger.Proofs.Within
import Debugger.Wire.Client

/-! # Calls that are answered

A connection on which no call waits is idle.  When the peer answers a command with one whole reply, the call
has the reply's payload, or fails with its error code, and the connection is idle again.
-/

namespace Debugger.Wire

namespace Connection

/-- The connection is open, no call waits, and nothing that arrived is left to act on. -/
structure Idle (c : Connection) : Prop where
  unended : c.ended = false
  listening : c.intake = .listening
  none_waits : c.pending = .empty
  input : c.input = []

variable {c : Connection}

private theorem modify_push {α : Type} (xs : Array α) (x : α) (f : α → α) :
    (xs.push x).modify xs.size f = xs.push (f x) := by
  refine Array.ext_getElem? fun i => ?_
  rw [Array.getElem?_modify, Array.getElem?_push, Array.getElem?_push]
  split
  · next h =>
    subst h
    simp
  · next h => rw [if_neg (Ne.symm h), if_neg (Ne.symm h)]

/-- The connection once a call has sent its command. -/
private def sending (c : Connection) (set number : UInt8) (payload : Bytes) : Connection :=
  { c with
    nextId := c.nextId + 1
    calls := c.calls.push ⟨set, number, payload, .waiting c.nextId c.replyTimeout false, none⟩
    pending := Table.empty.put c.nextId c.calls.size }

private theorem send_of_idle (idle : c.Idle) (set number : UInt8) (payload : Bytes) :
    c.send set number payload =
      ((c.calls.size, some (.command c.nextId set number payload)), c.sending set number payload) := by
  simp [send, performAll, perform, begin, Connection.number, register, write, stage?, setStage, sent?, modify_push,
    sending, idle.unended, idle.none_waits]

/-- The connection once the reply to that command has come. -/
private def answered (c : Connection) (set number : UInt8) (payload : Bytes) (r : Reply) : Connection :=
  { c with
    nextId := c.nextId + 1
    calls := c.calls.push ⟨set, number, payload, .finished (some c.nextId) r.result, some (.ok r)⟩ }

private theorem reply?_reply (id : UInt32) (code : UInt16) (payload : Bytes) :
    (Packet.reply id code payload).reply? = some ⟨code, payload⟩ := by
  rw [Packet.reply?, if_pos (Packet.isReply_reply id code payload), Packet.code_reply]
  rfl

private theorem accept_reply (idle : c.Idle) (set number : UInt8) (payload : Bytes) (code : UInt16) (bytes : Bytes) :
    (c.sending set number payload).accept (.reply c.nextId code bytes) =
      c.answered set number payload ⟨code, bytes⟩ := by
  have erased : (Table.empty.put c.nextId c.calls.size).erase c.nextId = c.pending := by
    rw [idle.none_waits]
    simp [Table.put, Table.erase, Table.keep, Table.empty]
  have taken : (c.sending set number payload).perform (.take (.reply c.nextId code bytes)) =
      { c.sending set number payload with pending := c.pending, intake := .handing c.calls.size ⟨code, bytes⟩ } := by
    have same : (Packet.reply c.nextId code bytes).id = c.nextId := rfl
    simp [perform, take, sending, idle.listening, reply?_reply, same, erased]
  rw [accept, taken]
  simp [performAll, perform, hand, collect, setMail, setStage, stage?, mail?, modify_push, sending, answered,
    Except.bind, idle.listening]

private theorem receive_reply (idle : c.Idle) (set number : UInt8) (payload : Bytes) {code : UInt16} {bytes : Bytes}
    (fits : (Packet.reply c.nextId code bytes).Fits) :
    (c.sending set number payload).receive (Packet.reply c.nextId code bytes).encode =
      c.answered set number payload ⟨code, bytes⟩ := by
  have unended : (c.sending set number payload).ended = false := idle.unended
  have nothing : (c.sending set number payload).input = [] := idle.input
  have kept : (c.sending set number payload).perform (.keep []) = c.sending set number payload := by
    rw [← nothing]
    rfl
  have whole : ∀ p ∈ [Packet.reply c.nextId code bytes], p.Fits := List.forall_mem_singleton.mpr fits
  have room : [Packet.reply c.nextId code bytes].length ≤ (Packet.reply c.nextId code bytes).encode.length := by
    rw [Packet.length_encode]
    exact Nat.le_add_right_of_le (by decide : 1 ≤ 11)
  have one := Packet.split_flatMap_encode whole room
  rw [List.flatMap_singleton] at one
  rw [receive, if_neg (by simp [unended]), nothing, List.nil_append]
  dsimp only
  rw [one]
  simp [kept, acceptAll, unended, accept_reply idle]

/-- The connection is idle again, and nothing but its calls has changed. -/
structure Answered (c c' : Connection) : Prop where
  idle : c'.Idle
  sizes : c'.sizes = c.sizes
  capabilities : c'.capabilities = c.capabilities
  replyTimeout : c'.replyTimeout = c.replyTimeout
  events : c'.events = c.events

private theorem answered_answered (idle : c.Idle) (set number : UInt8) (payload : Bytes) (r : Reply) :
    Answered c (c.answered set number payload r) :=
  ⟨⟨idle.unended, idle.listening, idle.none_waits, idle.input⟩, rfl, rfl, rfl, rfl⟩

private theorem result?_answered (set number : UInt8) (payload : Bytes) (r : Reply) :
    (c.answered set number payload r).result? c.calls.size = some r.result := by
  simp [result?, stage?, answered]

end Connection

namespace Client

variable {π : Type} [Peer π] {c : Client π}

/-- A call that the peer answers with success, and with no packet more, returns what the reply says. -/
theorem call_answered (idle : c.connection.Idle) (waits : c.connection.replyTimeout ≠ some 0)
    {set number : UInt8} {payload bytes : Bytes} {peer : π}
    (answer : Peer.answer (.command c.connection.nextId set number payload) c.peer =
      ({ bytes := (Packet.reply c.connection.nextId 0 bytes).encode }, peer))
    (fits : (Packet.reply c.connection.nextId 0 bytes).Fits) :
    ∃ connection, call set number payload c = .ok bytes { c with connection, peer } ∧
      c.connection.Answered connection := by
  refine ⟨_, ?_, Connection.answered_answered idle set number payload ⟨0, bytes⟩⟩
  have result := Connection.result?_answered (c := c.connection) set number payload ⟨0, bytes⟩
  have heard : hear ⟨c.connection.sending set number payload, peer, c.hangs⟩
        { bytes := (Packet.reply c.connection.nextId 0 bytes).encode } =
      ⟨c.connection.answered set number payload ⟨0, bytes⟩, peer, c.hangs⟩ :=
    congrArg (Client.mk · peer c.hangs) (Connection.receive_reply idle set number payload fits)
  have asks : (c.connection.sending set number payload).replyTimeout ≠ some 0 := waits
  simp only [call, act_get_bind, Connection.send_of_idle idle, act_modify_bind, answer]
  rw [if_neg asks, act_modify_bind, act_get_bind, heard]
  dsimp only
  rw [result]
  rfl

end Client

end Debugger.Wire
