import Debugger.Proofs.CallTable
import Debugger.Proofs.Within
import Debugger.Wire.Client

/-! # Connections in use

What a client does with its connection is a sequence of actions: to send a command, to give up waiting, to
act on what arrives and to close the connection are all made of the turns of callers and of the receiver.
-/

namespace Debugger.Wire

/-- The actions by which a connection goes on with the calls that it has, and reads as it did. -/
def Action.Continues : Action → Prop
  | .begin .. | .setSizes _ => False
  | _ => True

/-- The actions by which a receiver that hears no more ends the connection. -/
def Action.Closes : Action → Prop
  | .breakOff | .announce | .cancel _ | .withdraw _ | .empty | .tell => True
  | _ => False

theorem Action.Closes.continues {a : Action} (h : a.Closes) : a.Continues := by
  cases a <;> trivial

/-! ### What every action that continues a connection stays within -/

namespace Connection

section

variable {R : Connection → Connection → Prop} [IsPreorder Connection R]

theorem related_performAll {A : Action → Prop} (step : ∀ c a, A a → R c (c.perform a)) {as : List Action}
    (h : ∀ a ∈ as, A a) (c : Connection) : R c (c.performAll as) := by
  induction as generalizing c with
  | nil => exact refl_of R c
  | cons a as ih =>
    have first := step c a (h a List.mem_cons_self)
    exact trans_of R first (ih (fun b hb => h b (List.mem_cons_of_mem a hb)) _)

theorem related_giveUp (step : ∀ c a, a.Continues → R c (c.perform a)) (c : Connection) (n : Nat) :
    R c (c.giveUp n) :=
  related_performAll step (by simp [Action.Continues]) c

theorem related_windUp (step : ∀ c a, a.Closes → R c (c.perform a)) (c : Connection) : R c c.windUp := by
  have announced := step c .announce trivial
  have told (c : Connection) : R c (c.performAll [.empty, .tell]) :=
    related_performAll step (by simp [Action.Closes]) c
  have cancelled (ns : List Nat) (c : Connection) : R c (c.performAll (ns.flatMap fun n => [.cancel n, .withdraw n])) :=
    related_performAll step (by
      intro a ha
      obtain ⟨n, -, ha⟩ := List.mem_flatMap.mp ha
      rcases List.mem_pair.mp ha with rfl | rfl
      · trivial
      · trivial) c
  exact trans_of R announced (trans_of R (cancelled _ _) (told _))

theorem related_stop (step : ∀ c a, a.Closes → R c (c.perform a)) (c : Connection) : R c c.stop := by
  rw [Connection.stop]
  split
  · exact refl_of R c
  · exact trans_of R (step c .breakOff trivial) (related_windUp step _)

theorem related_close (step : ∀ c a, a.Continues → R c (c.perform a)) (c : Connection) : R c c.close := by
  rw [Connection.close]
  split
  · exact refl_of R c
  · have closed : R c (c.performAll [.shutdown, .heed]) := related_performAll step (by simp [Action.Continues]) c
    exact trans_of R closed (related_windUp (fun c a h => step c a h.continues) _)

theorem related_accept (step : ∀ c a, a.Continues → R c (c.perform a)) (c : Connection) (p : Packet) :
    R c (c.accept p) := by
  have taken := step c (.take p) trivial
  rw [Connection.accept]
  split
  · exact trans_of R taken (related_performAll step (by simp [Action.Continues]) _)
  · exact trans_of R taken (related_windUp (fun c a h => step c a h.continues) _)
  · exact taken

theorem related_acceptAll (step : ∀ c a, a.Continues → R c (c.perform a)) (c : Connection) (ps : List Packet) :
    R c (c.acceptAll ps) := by
  rw [Connection.acceptAll]
  induction ps generalizing c with
  | nil => exact refl_of R c
  | cons p ps ih =>
    refine trans_of R ?_ (ih _)
    dsimp only
    split
    · exact refl_of R c
    · exact related_accept step c p

theorem related_receive (step : ∀ c a, a.Continues → R c (c.perform a)) (c : Connection) (bytes : Bytes) :
    R c (c.receive bytes) := by
  rw [Connection.receive]
  split
  · exact refl_of R c
  · have acted (rest : Bytes) (ps : List Packet) : R c ((c.perform (.keep rest)).acceptAll ps) :=
      trans_of R (step c (.keep rest) trivial) (related_acceptAll step _ ps)
    dsimp only
    split
    · exact trans_of R (acted _ _) (related_stop (fun c a h => step c a h.continues) _)
    · exact acted _ _

end

/-- The connection comes about by actions. -/
def Runs (c c' : Connection) : Prop := ∃ as, c' = c.performAll as

instance : IsPreorder Connection Runs where
  refl _ := ⟨[], rfl⟩
  trans _ _ _ := fun ⟨as, h⟩ ⟨bs, h'⟩ => ⟨as ++ bs, by rw [h', h, performAll_append]⟩

theorem Runs.perform (c : Connection) (a : Action) : Runs c (c.perform a) := ⟨[a], rfl⟩

end Connection

namespace Client

variable {π α : Type}

/-- The connection of the client runs on. -/
def Runs (c c' : Client π) : Prop := Connection.Runs c.connection c'.connection

instance : IsPreorder (Client π) Runs where
  refl c := refl_of Connection.Runs c.connection
  trans _ _ _ h h' := trans_of Connection.Runs h h'

section

variable {R : Connection → Connection → Prop} [IsPreorder Connection R]

/-- The connections of the clients are related. -/
private def Along (R : Connection → Connection → Prop) (c c' : Client π) : Prop := R c.connection c'.connection

private instance : IsPreorder (Client π) (Along R) where
  refl c := refl_of R c.connection
  trans _ _ _ h h' := trans_of R h h'

theorem related_hear (step : ∀ c a, a.Continues → R c (c.perform a)) (c : Client π) (o : Output) :
    R c.connection (c.hear o).connection := by
  have received : R c.connection (c.mapConnection (·.receive o.bytes)).connection :=
    Connection.related_receive step c.connection o.bytes
  rw [hear]
  split
  · exact trans_of R received (Connection.related_stop (fun c a h => step c a h.continues) _)
  · exact received

private theorem related_result (step : ∀ c a, a.Continues → R c (c.perform a)) (n : Nat) : Within (Along R) (do
    match (← get).connection.result? n with
    | some (.ok bytes) => return bytes
    | some (.error e) => throw e
    | none =>
      if (← get).connection.replyTimeout.isNone then modify ({ · with hangs := true })
      modify (·.mapConnection (·.giveUp n))
      throw .timeout : Ask π Bytes) :=
  .get_bind fun c => by
    split
    · exact refl_of R c.connection
    · exact refl_of R c.connection
    · refine Within.get_bind (fun c => ?_) c
      split
      · exact Connection.related_giveUp step c.connection n
      · exact Connection.related_giveUp step c.connection n

variable [Peer π]

/-- A call begins, and then the connection continues until the call is over. -/
theorem related_call (step : ∀ c a, a.Continues → R c (c.perform a)) (set number : UInt8) (payload : Bytes)
    (c : Client π) :
    R (c.connection.begin set number payload) (stateAfter (call set number payload) c).connection := by
  have continued (b : Connection) (n : Nat) : R b (b.performAll [.number n, .register n, .write n none]) :=
    Connection.related_performAll step (by simp [Action.Continues]) b
  have sent : R (c.connection.begin set number payload) (c.connection.send set number payload).2 := continued _ _
  unfold call
  rw [stateAfter_get_bind]
  dsimp only
  generalize c.connection.send set number payload = r at sent ⊢
  obtain ⟨⟨n, packet⟩, connection⟩ := r
  refine trans_of R sent ?_
  change Along R { c with connection } _
  cases packet with
  | none =>
    rw [stateAfter_modify_bind]
    exact related_result step n _
  | some packet =>
    rw [stateAfter_modify_bind]
    refine Within.get_bind (fun c' => ?_) { c with connection }
    dsimp only
    generalize Peer.answer packet c'.peer = answer
    obtain ⟨output, peer⟩ := answer
    have listened : Within (Along R) (modify (·.hear output) : Ask π Unit) := .modify (related_hear step · output)
    have given : Within (Along R) (modify (·.mapConnection (·.giveUp n)) : Ask π Unit) :=
      .modify fun c => Connection.related_giveUp step c.connection n
    rw [stateAfter_modify_bind]
    refine trans_of (Along R) (show Along R c' { c' with peer } from refl_of R c'.connection) ?_
    rw [stateAfter_get_bind]
    split
    · exact Within.bind given (fun _ => .bind listened fun _ => related_result step n) _
    · exact Within.bind listened (fun _ => related_result step n) _

end

theorem runs_hear (c : Client π) (o : Output) : Runs c (c.hear o) :=
  related_hear (fun c a _ => Connection.Runs.perform c a) c o

theorem runs_shutdown (c : Client π) : Runs c c.shutdown :=
  Connection.related_close (fun c a _ => Connection.Runs.perform c a) c.connection

variable [Peer π]

/-- A call is a run of the connection. -/
theorem runs_call (set number : UInt8) (payload : Bytes) : Within Runs (call set number payload : Ask π Bytes) :=
  fun c => trans_of Connection.Runs (.perform c.connection (.begin set number payload))
    (related_call (fun c a _ => Connection.Runs.perform c a) set number payload c)

theorem runs_ask (q : Query α) : Within Runs (ask q : Ask π α) :=
  .get_bind fun c => Within.bind (runs_call _ _ _) (fun bytes => .get_bind fun c => by
    split
    · exact refl_of Runs c
    · exact refl_of Runs c) c

theorem runs_askSizes : Within Runs (askSizes : Ask π IdSizes) :=
  .bind (runs_ask _) fun sizes =>
    .bind (.modify fun c => Connection.Runs.perform c.connection (.setSizes sizes)) fun _ => .pure _

/-- Whatever comes of the attempt to connect, the connection has run from its beginning. -/
theorem runs_connect (s : ConnectionSettings) (peer : π) :
    Connection.Runs (.new s.reply s.capacity) (connect s peer).2.connection := by
  have prepared : Within Runs (do
      let _ ← askSizes
      let flags ← ask Query.capabilityFlags
      modify (·.mapConnection (·.perform (.setCapabilities (.ofFlags flags)))) : Ask π Unit) :=
    .bind runs_askSizes fun _ => .bind (runs_ask _) fun flags =>
      .modify fun c => Connection.Runs.perform c.connection (.setCapabilities (.ofFlags flags))
  rw [connect]
  generalize Peer.greet greeting peer = greeted
  obtain ⟨output, peer⟩ := greeted
  dsimp only
  split
  · exact runs_shutdown _
  split
  · exact runs_shutdown _
  split
  · exact runs_shutdown _
  · have heard := runs_hear { connection := .new s.reply s.capacity, peer }
      { output with bytes := output.bytes.drop greeting.length }
    have ready := trans_of Runs heard (prepared _)
    split
    · next run => rwa [stateAfter_of_ok run] at ready
    · next run => rwa [stateAfter_of_error run] at ready

end Client

end Debugger.Wire
