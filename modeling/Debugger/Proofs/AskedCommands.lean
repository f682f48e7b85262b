import Debugger.Proofs.ConnectionRuns
import Debugger.Proofs.Parts
import Debugger.Wire.Resolve

/-! # What has been asked of the machine

A connection keeps every call that ever began, with its command.  A query adds its own command and no other, and the
commands that are there stay as they are; so the record tells what a session asked, and in which order.
-/

namespace Debugger.Wire

namespace Connection

/-- Every command that a call began with, in order: its set, its number and its payload. -/
def commands (c : Connection) : List (UInt8 × UInt8 × Bytes) :=
  c.calls.toList.map fun k => (k.set, k.number, k.payload)

/-- The payloads of the commands of one kind, in order. -/
def asked (c : Connection) (set number : UInt8) : List Bytes :=
  (c.commands.filter fun k => k.1 = set && k.2.1 = number).map (·.2.2)

/-- The same commands have been sent, and identifiers are written as before. -/
structure SameAsked (c c' : Connection) : Prop where
  commands : c'.commands = c.commands
  sizes : c'.sizes = c.sizes

instance : IsPreorder Connection SameAsked where
  refl _ := ⟨rfl, rfl⟩
  trans _ _ _ h h' := ⟨h'.commands.trans h.commands, h'.sizes.trans h.sizes⟩

variable {c : Connection}

theorem commands_setStage (c : Connection) (n : Nat) (stage : CallStage) : (c.setStage n stage).commands = c.commands :=
  map_modify c.calls n fun _ => rfl

theorem commands_setMail (c : Connection) (n : Nat) (mail : Except WireError Reply) :
    (c.setMail n mail).commands = c.commands :=
  map_modify c.calls n fun _ => rfl

theorem commands_begin (c : Connection) (set number : UInt8) (payload : Bytes) :
    (c.begin set number payload).commands = c.commands ++ [(set, number, payload)] := by
  rw [commands, commands, Connection.begin, Array.toList_push, List.map_append]
  rfl

private theorem sameAsked_setStage (c : Connection) (n : Nat) (stage : CallStage) : SameAsked c (c.setStage n stage) :=
  ⟨commands_setStage c n stage, rfl⟩

/-- Nothing is asked by an action that continues the connection. -/
theorem sameAsked_perform (c : Connection) (a : Action) (h : a.Continues) : SameAsked c (c.perform a) := by
  have same : SameAsked c c := refl_of SameAsked c
  cases a with
  | begin => exact h.elim
  | setSizes => exact h.elim
  | number n =>
    rw [perform, Connection.number]
    split
    · exact ⟨commands_setStage c n _, rfl⟩
    · exact same
  | register n =>
    rw [perform, register]
    split
    · exact ⟨commands_setStage c n _, rfl⟩
    · exact same
  | write n failure =>
    rw [perform]
    unfold write
    split
    · exact sameAsked_setStage c n _
    · exact sameAsked_setStage c n _
    · exact same
  | sleep n =>
    rw [perform, sleep]
    split
    · split
      · exact same
      · exact sameAsked_setStage c n _
    · exact same
  | expire n =>
    rw [perform, expire]
    split
    · split
      · exact sameAsked_setStage c n _
      · exact same
    · exact same
  | cancel n =>
    rw [perform, cancel]
    split
    · split
      · exact sameAsked_setStage c n _
      · exact same
    · exact same
  | collect n =>
    rw [perform, collect]
    split
    · exact sameAsked_setStage c n _
    · exact same
  | withdraw n =>
    rw [perform, withdraw]
    split
    · exact ⟨commands_setStage c n _, rfl⟩
    · exact same
  | take p =>
    rw [perform, take]
    split
    · repeat' split
      all_goals exact ⟨rfl, rfl⟩
    · exact same
  | hand =>
    rw [perform, hand]
    split
    · exact ⟨commands_setMail c _ _, rfl⟩
    · exact same
  | breakOff =>
    rw [perform, breakOff]
    split
    · exact ⟨rfl, rfl⟩
    · exact same
  | heed =>
    rw [perform, heed, breakOff]
    repeat' split
    all_goals exact ⟨rfl, rfl⟩
  | announce =>
    rw [perform, announce]
    split
    · exact ⟨rfl, rfl⟩
    · exact same
  | empty =>
    rw [perform, empty]
    split
    · exact ⟨rfl, rfl⟩
    · exact same
  | tell =>
    rw [perform, tell]
    split
    · exact ⟨commands_setMail c _ _, rfl⟩
    · exact ⟨rfl, rfl⟩
    · exact same
  | shutdown => exact ⟨rfl, rfl⟩
  | setTimeout => exact ⟨rfl, rfl⟩
  | setCapabilities => exact ⟨rfl, rfl⟩
  | keep => exact ⟨rfl, rfl⟩

theorem asked_of_commands {c c' : Connection} {set number : UInt8} {payload : Bytes} (set' number' : UInt8)
    (h : c'.commands = c.commands ++ [(set, number, payload)]) :
    c'.asked set' number' = c.asked set' number' ++ if set = set' ∧ number = number' then [payload] else [] := by
  rw [asked, h, List.filter_append, List.map_append, ← asked]
  congr 1
  by_cases kind : set = set' ∧ number = number'
  · simp [kind]
  · simp [kind]

end Connection

namespace Client

variable {π α : Type} [Peer π]

/-- A call adds its command to the record. -/
theorem commands_call (set number : UInt8) (payload : Bytes) (c : Client π) :
    (stateAfter (call set number payload) c).connection.commands = c.connection.commands ++ [(set, number, payload)] ∧
      (stateAfter (call set number payload) c).connection.sizes = c.connection.sizes := by
  have continued := related_call Connection.sameAsked_perform set number payload c
  exact ⟨continued.commands.trans (Connection.commands_begin ..), continued.sizes⟩

/-- A query adds its own command to the record. -/
theorem commands_ask (q : Query α) (c : Client π) :
    (stateAfter (ask q) c).connection.commands =
        c.connection.commands ++ [(q.set, q.number, q.payload c.connection.sizes)] ∧
      (stateAfter (ask q) c).connection.sizes = c.connection.sizes := by
  have called := commands_call q.set q.number (q.payload c.connection.sizes) c
  unfold ask
  rw [stateAfter_get_bind]
  cases run : call q.set q.number (q.payload c.connection.sizes) c with
  | ok bytes c' =>
    rw [stateAfter_of_ok run] at called
    rw [stateAfter_bind_ok run, stateAfter_get_bind]
    split
    · exact called
    · exact called
  | error e c' =>
    rw [stateAfter_of_error run] at called
    rwa [stateAfter_bind_error run]

end Client

end Debugger.Wire
