import Debugger.Proofs.CompositeEvents
import Debugger.Proofs.ConnectionEnd
import Debugger.Proofs.ConnectionRuns
import Debugger.Proofs.Framing

/-! # Packets in a stream that comes in pieces

However a stream of bytes is cut into reads, the receiver takes from it the packets of which it consists, in order:
the calls get their replies, the events are published, and other commands are passed over.  What follows the last
whole packet is kept until more arrives; if it never can become a packet, or nothing more arrives, the connection
ends, and nothing has been delivered but what came before.
-/

namespace Debugger.Wire

namespace Packet

/-! ### What a stream begins with -/

/-- The length that the first bytes announce. -/
def announced (bytes : Bytes) : Nat := Bytes.toNat (bytes.take 4)

/-- There is a whole header, and it announces a length that no packet has. -/
def Misfit (bytes : Bytes) : Prop :=
  headerSize ≤ bytes.length ∧ (announced bytes < headerSize ∨ maxSize < announced bytes)

/-- The bytes are less than a header, or the beginning of a packet. -/
def Unfinished (bytes : Bytes) : Prop :=
  bytes.length < headerSize ∨ ∃ p : Packet, p.Fits ∧ bytes <+: p.encode ∧ bytes ≠ p.encode

/-- The bytes begin with no whole packet. -/
def Front.Stuck : Front → Prop
  | .packet .. => False
  | _ => True

def Front.isBad : Front → Bool
  | .badLength _ => true
  | _ => false

variable {p : Packet} {a b rest tail : Bytes} {n : Nat}

theorem announced_append (b : Bytes) (h : 4 ≤ a.length) : announced (a ++ b) = announced a := by
  rw [announced, announced, List.take_append_of_le_length h]

theorem announced_encode (h : p.Fits) (rest : Bytes) : announced (p.encode ++ rest) = p.encode.length := by
  have fits : headerSize + p.payload.length ≤ maxSize := h
  have first : (p.encode ++ rest).take 4 = Encode.count (headerSize + p.payload.length) := by simp [encode]
  rw [announced, first, length_encode, Bytes.toNat_count (Nat.lt_of_le_of_lt fits (by decide))]

theorem front_eq_short_iff : front a = .short ↔
    a.length < headerSize ∨ ¬ Misfit a ∧ a.length < announced a := by
  unfold front
  dsimp only
  rw [← announced]
  split
  · next brief => simp [brief]
  next whole =>
    have header : ∃ flags high low rest, a.drop 8 = flags :: high :: low :: rest := by
      simp only [headerSize] at whole
      rcases h : a.drop 8 with _ | ⟨flags, _ | ⟨high, _ | ⟨low, rest⟩⟩⟩
      case cons.cons.cons => exact ⟨flags, high, low, rest, rfl⟩
      all_goals
        have := congrArg List.length h
        simp at this
        omega
    obtain ⟨flags, high, low, rest, header⟩ := header
    rw [header]
    simp only [Misfit, Nat.not_lt.mp whole, whole, true_and, false_or, Bool.or_eq_true, decide_eq_true_eq]
    split
    · next bad => simp [bad]
    · next good =>
      split
      · next few => simp [good, few]
      · next enough => simp [enough]

theorem front_isBad_iff : (front a).isBad ↔ Misfit a := by
  unfold front
  dsimp only
  rw [← announced]
  split
  · next brief => simp [Front.isBad, Misfit, Nat.not_le.mpr brief]
  next whole =>
    simp only [Misfit, Nat.not_lt.mp whole, true_and, Bool.or_eq_true, decide_eq_true_eq]
    split
    · next bad => simp [Front.isBad, bad]
    · next good =>
      simp only [good, iff_false, Bool.not_eq_true]
      split
      · rfl
      · split <;> rfl

theorem not_isBad_short (h : front a = .short) : ¬ Misfit a := by simp [← front_isBad_iff, h, Front.isBad]

/-- What begins with no whole packet may go on as one, or never can. -/
theorem Front.Stuck.cases (h : (front a).Stuck) : front a = .short ∨ Misfit a := by
  cases found : front a with
  | packet p rest => exact (found ▸ h).elim
  | badLength n => exact .inr (front_isBad_iff.mp (by rw [found]; rfl))
  | short => exact .inl rfl

theorem stuck_of_short (h : front a = .short) : (front a).Stuck := h ▸ trivial

theorem Misfit.stuck (h : Misfit a) : (front a).Stuck := by
  cases found : front a with
  | packet p rest => simpa [found, Front.isBad] using front_isBad_iff.mpr h
  | badLength n => trivial
  | short => trivial

theorem misfit_append (b : Bytes) (h : headerSize ≤ a.length) : Misfit (a ++ b) ↔ Misfit a := by
  have longer : headerSize ≤ (a ++ b).length := by
    rw [List.length_append]
    omega
  simp only [Misfit, announced_append b (Nat.le_trans (by decide) h), h, longer]

/-- The beginning of a packet is not the packet yet. -/
theorem front_beginning (fits : p.Fits) (same : a ++ b = p.encode ++ rest) (few : a.length < p.encode.length) :
    front a = .short := by
  rw [front_eq_short_iff]
  by_cases brief : a.length < headerSize
  · exact .inl brief
  · have size : announced a = p.encode.length := by
      rw [← announced_append b (Nat.le_trans (by decide) (Nat.not_lt.mp brief)), same, announced_encode fits]
    rw [Misfit, size]
    rw [length_encode] at few ⊢
    rw [Packet.Fits] at fits
    omega

theorem Unfinished.short (h : Unfinished a) : front a = .short := by
  rcases h with brief | ⟨p, fits, ⟨b, same⟩, ne⟩
  · exact front_eq_short_iff.mpr (.inl brief)
  · have whole : a ++ b = p.encode ++ [] := by rw [same, List.append_nil]
    refine front_beginning fits whole ?_
    rw [← same, List.length_append, Nat.lt_add_right_iff_pos, List.length_pos_iff]
    rintro rfl
    exact ne (by rw [← same, List.append_nil])

/-- What is no whole packet was none before. -/
theorem short_of_short_append (h : front (a ++ b) = .short) : front a = .short := by
  rw [front_eq_short_iff] at h ⊢
  by_cases brief : a.length < headerSize
  · exact .inl brief
  · have long := Nat.not_lt.mp brief
    rw [List.length_append, misfit_append b long, announced_append b (Nat.le_trans (by decide) long)] at h
    rcases h with h | ⟨good, few⟩
    · omega
    · exact .inr ⟨good, by omega⟩

theorem stuck_of_stuck_append (h : (front (a ++ b)).Stuck) : (front a).Stuck := by
  rcases h.cases with short | misfit
  · exact stuck_of_short (short_of_short_append short)
  · by_cases brief : a.length < headerSize
    · exact stuck_of_short (front_eq_short_iff.mpr (.inl brief))
    · exact ((misfit_append b (Nat.not_lt.mp brief)).mp misfit).stuck

/-! ### Pieces of a stream -/

/-- Cut anywhere, a stream of packets consists of the packets before the cut and those after it; between them is what
was begun before the cut. -/
theorem exists_cut {ps : List Packet} (fits : ∀ p ∈ ps, p.Fits) (stuck : (front tail).Stuck)
    (stream : a ++ b = ps.flatMap encode ++ tail) :
    ∃ before after rest, ps = before ++ after ∧ a = before.flatMap encode ++ rest ∧
      rest ++ b = after.flatMap encode ++ tail ∧ (front rest).Stuck := by
  induction ps generalizing a with
  | nil => exact ⟨[], [], a, rfl, rfl, stream, stuck_of_stuck_append (b := b) (stream ▸ stuck)⟩
  | cons p ps ih =>
    have fits' := List.forall_mem_cons.mp fits
    rw [List.flatMap_cons, List.append_assoc] at stream
    by_cases few : a.length < p.encode.length
    · refine ⟨[], p :: ps, a, rfl, rfl, ?_, stuck_of_short (front_beginning fits'.1 stream few)⟩
      rw [stream, List.flatMap_cons, List.append_assoc]
    · obtain ⟨a, rfl⟩ := List.prefix_of_prefix_length_le ⟨_, stream.symm⟩ ⟨b, rfl⟩ (Nat.not_lt.mp few)
      rw [List.append_assoc, List.append_cancel_left_eq] at stream
      obtain ⟨before, after, rest, rfl, rfl, later, stuck'⟩ := ih fits'.2 stream
      exact ⟨p :: before, after, rest, rfl, by simp, later, stuck'⟩

theorem split_stuck (stuck : (front rest).Stuck) (h : rest.length ≤ n) :
    split n rest = ([], rest, (front rest).isBad) := by
  cases n with
  | zero =>
    obtain rfl := List.eq_nil_of_length_eq_zero (Nat.le_zero.mp h)
    rfl
  | succ n =>
    rw [split]
    cases found : front rest with
    | packet p more => exact (found ▸ stuck).elim
    | badLength n => rfl
    | short => rfl

theorem split_flatMap_encode_append {ps : List Packet} (fits : ∀ p ∈ ps, p.Fits) (stuck : (front rest).Stuck)
    (h : (ps.flatMap encode ++ rest).length ≤ n) :
    split n (ps.flatMap encode ++ rest) = (ps, rest, (front rest).isBad) := by
  induction ps generalizing n with
  | nil => exact split_stuck stuck h
  | cons p ps ih =>
    have fits' := List.forall_mem_cons.mp fits
    rw [List.flatMap_cons, List.append_assoc, List.length_append, length_encode, headerSize] at h
    obtain ⟨n, rfl⟩ : ∃ k, n = k + 1 := ⟨n - 1, by omega⟩
    rw [List.flatMap_cons, List.append_assoc, split_encode fits'.1, ih fits'.2 (by omega)]

/-- The packets that are taken from a stream, read after read, what is left of the stream, and whether it goes on with
a length that no packet has; then no more is read. -/
def gather (input : Bytes) : List Bytes → List Packet × Bytes × Bool
  | [] => ([], input, false)
  | bytes :: reads =>
    let (ps, rest, bad) := split (input ++ bytes).length (input ++ bytes)
    if bad then (ps, rest, true)
    else
      let (ps', rest, bad) := gather rest reads
      (ps ++ ps', rest, bad)

/-- Read in any pieces, a stream of packets gives the packets. -/
theorem gather_stream {ps : List Packet} (fits : ∀ p ∈ ps, p.Fits) (stuck : (front tail).Stuck) {input : Bytes}
    (short : front input = .short) {reads : List Bytes} (stream : input ++ reads.flatten = ps.flatMap encode ++ tail) :
    ∃ rest, gather input reads = (ps, rest, (front tail).isBad) ∧ (front tail = .short → rest = tail) := by
  induction reads generalizing input ps with
  | nil =>
    rw [List.flatten_nil, List.append_nil] at stream
    cases ps with
    | nil =>
      obtain rfl : input = tail := stream
      exact ⟨input, by rw [gather, short]; rfl, fun _ => rfl⟩
    | cons p ps =>
      rw [List.flatMap_cons, List.append_assoc] at stream
      rw [stream, front_encode (fits p List.mem_cons_self)] at short
      cases short
  | cons bytes reads ih =>
    rw [List.flatten_cons, ← List.append_assoc] at stream
    obtain ⟨before, after, rest, rfl, cut, later, stuck'⟩ := exists_cut fits stuck stream
    have fits' := List.forall_mem_append.mp fits
    have taken := split_flatMap_encode_append fits'.1 stuck' (Nat.le_refl _)
    rw [gather, cut, taken]
    rcases stuck'.cases with short' | misfit
    · obtain ⟨rest', gathered, left⟩ := ih fits'.2 short' later
      exact ⟨rest', by simp [short', Front.isBad, gathered], left⟩
    · -- what follows now is part of no packet
      have bad : Misfit (after.flatMap encode ++ tail) := by
        rw [← later, misfit_append _ misfit.1]
        exact misfit
      cases after with
      | nil =>
        have bad : Misfit tail := bad
        refine ⟨rest, ?_, fun short => (not_isBad_short short bad).elim⟩
        simp [front_isBad_iff.mpr misfit, front_isBad_iff.mpr bad]
      | cons p ps =>
        rw [List.flatMap_cons, List.append_assoc, ← front_isBad_iff,
          front_encode (fits'.2 p List.mem_cons_self)] at bad
        cases bad

end Packet

/-! ### Messages -/

/-- What a packet says: a command, or how it went with one. -/
inductive Message where
  | command (id : UInt32) (set number : UInt8) (payload : Bytes)
  | reply (id : UInt32) (code : UInt16) (payload : Bytes)

namespace Message

def packet : Message → Packet
  | command id set number payload => .command id set number payload
  | reply id code payload => .reply id code payload

/-- The events of which a command tells, if it is one that does and they can be read. -/
def eventSet? (sizes : IdSizes) : Message → Option WireEventSet
  | command _ set number payload =>
    if set = 64 ∧ number = 100 then ((eventSet sizes).run payload).toOption else none
  | reply .. => none

/-- Events of which it tells can be read. -/
def Readable (sizes : IdSizes) : Message → Prop
  | command _ set number payload => set = 64 → number = 100 → ∃ events, (eventSet sizes).run payload = .ok events
  | reply .. => True

end Message

theorem Packet.isReply_command (id : UInt32) (set number : UInt8) (payload : Bytes) :
    (Packet.command id set number payload).isReply = false :=
  (by decide : ((0 : UInt8) &&& replyFlag != 0) = false)

/-- What a packet says, by its flag. -/
def Packet.message (p : Packet) : Message :=
  if p.isReply then .reply p.id p.code p.payload else .command p.id p.high p.low p.payload

/-- A packet says what it was made of. -/
theorem Message.message_packet (m : Message) : m.packet.message = m := by
  cases m with
  | command id set number payload => rw [Message.packet, Packet.message, Packet.isReply_command, if_neg Bool.false_ne_true]; rfl
  | reply id code payload =>
    rw [Message.packet, Packet.message, if_pos (Packet.isReply_reply id code payload), Packet.code_reply]
    rfl

namespace Connection

/-- A call reads the reply for which it waited under that number. -/
def answer (c : Connection) (id : UInt32) (n : Nat) (reply : Reply) : Connection :=
  (({ c with pending := c.pending.erase id }).setMail n (.ok reply)).collect n

/-- A message reaches whom it concerns: a reply the call that waits under its number, which reads it, and events
those who listen for them. -/
def deliver (c : Connection) : Message → Connection
  | .reply id code payload =>
    match c.pending.find? id with
    | some n => c.answer id n ⟨code, payload⟩
    | none => c
  | .command id set number payload =>
    match (Message.command id set number payload).eventSet? c.sizes with
    | some events => { c with events := c.events.send events }
    | none => c

def deliverAll (c : Connection) (ms : List Message) : Connection := ms.foldl deliver c

/-- The connection after a number of reads. -/
def receiveAll (c : Connection) (reads : List Bytes) : Connection := reads.foldl receive c

/-- The receiver goes on as before, and identifiers are written as before. -/
structure Open (c : Connection) (sizes : IdSizes) : Prop where
  listening : c.intake = .listening
  unended : c.ended = false
  sizes : c.sizes = sizes

variable {c : Connection} {sizes : IdSizes} {m : Message} {ms : List Message}

theorem collect_open (h : c.Open sizes) (n : Nat) : (c.collect n).Open sizes := by
  rw [collect]
  split
  · exact ⟨h.listening, h.unended, h.sizes⟩
  · exact h

theorem answer_open (h : c.Open sizes) (id : UInt32) (n : Nat) (reply : Reply) : (c.answer id n reply).Open sizes := by
  have mailed : (({ c with pending := c.pending.erase id }).setMail n (.ok reply)).Open sizes :=
    ⟨h.listening, h.unended, h.sizes⟩
  exact collect_open mailed n

theorem Open.deliver (h : c.Open sizes) (m : Message) : (c.deliver m).Open sizes := by
  cases m with
  | reply id code payload =>
    rw [Connection.deliver]
    split
    · exact answer_open h _ _ _
    · exact h
  | command id set number payload =>
    rw [Connection.deliver]
    split
    · exact ⟨h.listening, h.unended, h.sizes⟩
    · exact h

theorem Open.deliverAll (h : c.Open sizes) (ms : List Message) : (c.deliverAll ms).Open sizes := by
  induction ms generalizing c with
  | nil => exact h
  | cons m ms ih => exact ih (h.deliver m)

theorem answer_input (c : Connection) (input : Bytes) (id : UInt32) (n : Nat) (reply : Reply) :
    ({ c with input }).answer id n reply = { c.answer id n reply with input } := by
  rw [answer, answer]
  generalize mailed : ({ c with pending := c.pending.erase id }).setMail n (.ok reply) = d
  have same : ({ ({ c with input }) with pending := c.pending.erase id }).setMail n (.ok reply) = { d with input } := by
    rw [← mailed]
    rfl
  have stage : ({ d with input }).stage? n = d.stage? n := rfl
  have mail : ({ d with input }).mail? n = d.mail? n := rfl
  rw [same, collect, collect, stage, mail]
  split <;> rfl

theorem deliver_input (c : Connection) (input : Bytes) (m : Message) :
    ({ c with input }).deliver m = { c.deliver m with input } := by
  cases m with
  | reply id code payload =>
    rw [deliver, deliver]
    dsimp only
    split
    · exact answer_input c input id _ _
    · rfl
  | command id set number payload =>
    rw [deliver, deliver]
    dsimp only
    split <;> rfl

theorem deliverAll_input (c : Connection) (input : Bytes) (ms : List Message) :
    ({ c with input }).deliverAll ms = { c.deliverAll ms with input } := by
  induction ms generalizing c with
  | nil => rfl
  | cons m ms ih =>
    rw [deliverAll, List.foldl_cons, deliver_input]
    exact ih _

/-- The receiver delivers what it takes, if it can be read. -/
theorem Open.accept (h : c.Open sizes) (readable : m.Readable sizes) : c.accept m.packet = c.deliver m := by
  obtain ⟨listening, -, rfl⟩ := h
  cases m with
  | reply id code payload =>
    have reply : (Packet.reply id code payload).reply? = some ⟨code, payload⟩ := by
      rw [Packet.reply?, if_pos (Packet.isReply_reply id code payload), Packet.code_reply]
      rfl
    rw [Connection.accept, Connection.deliver, Message.packet]
    simp only [perform, take, listening, reply]
    have same : (Packet.reply id code payload).id = id := rfl
    rw [same]
    cases waits : c.pending.find? id with
    | none => simp only [listening]
    | some n =>
      simp only [performAll, List.foldl_cons, List.foldl_nil, perform, hand, answer]
      congr 1
      rw [setMail, setMail, ← listening]
  | command id set number payload =>
    have command : (Packet.command id set number payload).reply? = none := by
      rw [Packet.reply?, Packet.isReply_command, if_neg Bool.false_ne_true]
    have event : (Packet.command id set number payload).isEvent ↔ set = 64 ∧ number = 100 := by
      rw [Packet.isEvent, Packet.isReply_command, Bool.not_false, Bool.true_and, Bool.and_eq_true]
      exact and_congr decide_eq_true_iff decide_eq_true_iff
    rw [Connection.accept, Connection.deliver, Message.packet, Message.eventSet?]
    by_cases composite : set = 64 ∧ number = 100
    · obtain ⟨events, read⟩ := readable composite.1 composite.2
      have run : (eventSet c.sizes).run (Packet.command id set number payload).payload = .ok events := read
      have taken : c.perform (.take (.command id set number payload)) = { c with events := c.events.send events } := by
        rw [take_event listening (event.mpr composite), run]
      simp only [taken, listening, if_pos composite, read, Except.toOption]
    · have taken : c.perform (.take (.command id set number payload)) = c := by
        simp only [perform, take, listening, command, if_neg (mt event.mp composite)]
      simp only [taken, listening, if_neg composite]

theorem Open.acceptAll (h : c.Open sizes) (readable : ∀ m ∈ ms, m.Readable sizes) :
    c.acceptAll (ms.map Message.packet) = c.deliverAll ms := by
  induction ms generalizing c with
  | nil => rfl
  | cons m ms ih =>
    have readable' := List.forall_mem_cons.mp readable
    rw [Connection.acceptAll, List.map_cons, List.foldl_cons, if_neg (by simp [h.unended]), h.accept readable'.1]
    exact ih (h.deliver m) readable'.2

theorem events_answer (c : Connection) (id : UInt32) (n : Nat) (reply : Reply) :
    (c.answer id n reply).events = c.events := by
  rw [answer, collect]
  split <;> rfl

/-- What is published are the events of which the messages tell, in order. -/
theorem Open.log_deliverAll (h : c.Open sizes) (ms : List Message) :
    (c.deliverAll ms).events.log.toList = c.events.log.toList ++ ms.filterMap (·.eventSet? sizes) := by
  induction ms generalizing c with
  | nil => exact (List.append_nil _).symm
  | cons m ms ih =>
    rw [Connection.deliverAll, List.foldl_cons]
    refine (ih (h.deliver m)).trans ?_
    cases m with
    | reply id code payload =>
      have same : (c.deliver (.reply id code payload)).events = c.events := by
        rw [Connection.deliver]
        split
        · exact events_answer c id _ _
        · rfl
      rw [same, List.filterMap_cons_none rfl]
    | command id set number payload =>
      rw [Connection.deliver, h.sizes]
      cases found : (Message.command id set number payload).eventSet? sizes with
      | some events =>
        rw [List.filterMap_cons_some found]
        simp [Channel.send]
      | none => rw [List.filterMap_cons_none found]

/-! ### Reads -/

theorem receiveAll_ended (h : c.ended) (reads : List Bytes) : c.receiveAll reads = c := by
  induction reads with
  | nil => rfl
  | cons bytes reads ih =>
    rw [receiveAll, List.foldl_cons, receive, if_pos h]
    exact ih

theorem ended_stop (h : c.intake = .listening) : c.stop.ended := by
  rw [stop]
  split
  · assumption
  · have announced : ((c.perform .breakOff).perform .announce).ended := by
      simp [perform, breakOff, announce, h]
    rw [windUp]
    exact performAll_keeps Turn.ended_stays (performAll_keeps Turn.ended_stays announced _) _

theorem deliverAll_append (c : Connection) (ms ms' : List Message) :
    c.deliverAll (ms ++ ms') = (c.deliverAll ms).deliverAll ms' := List.foldl_append

/-- What comes of reads from which those messages are taken, and after which that is left. -/
def heard (c : Connection) (ms : List Message) (rest : Bytes) (bad : Bool) : Connection :=
  if bad then ({ c.deliverAll ms with input := rest }).stop else { c.deliverAll ms with input := rest }

theorem Open.keep (h : c.Open sizes) (input : Bytes) : ({ c with input }).Open sizes :=
  ⟨h.listening, h.unended, h.sizes⟩

theorem Open.receive (h : c.Open sizes) (readable : ∀ m ∈ ms, m.Readable sizes) {bytes rest : Bytes} {bad : Bool}
    (taken : Packet.split (c.input ++ bytes).length (c.input ++ bytes) = (ms.map Message.packet, rest, bad)) :
    c.receive bytes = c.heard ms rest bad := by
  have kept : ({ c with input := rest }).acceptAll (ms.map Message.packet) =
      { c.deliverAll ms with input := rest } := by
    rw [(h.keep rest).acceptAll readable, deliverAll_input]
  rw [Connection.receive, if_neg (by simp [h.unended])]
  simp only [taken, perform, kept, heard]

theorem Open.receiveAll (h : c.Open sizes) (readable : ∀ m ∈ ms, m.Readable sizes) {reads : List Bytes}
    {rest : Bytes} {bad : Bool} (taken : Packet.gather c.input reads = (ms.map Message.packet, rest, bad)) :
    c.receiveAll reads = c.heard ms rest bad := by
  induction reads generalizing c ms with
  | nil =>
    rw [Packet.gather, Prod.mk.injEq, Prod.mk.injEq] at taken
    obtain ⟨none, rfl, rfl⟩ := taken
    obtain rfl := List.map_eq_nil_iff.mp none.symm
    rfl
  | cons bytes reads ih =>
    rw [Packet.gather] at taken
    rw [Connection.receiveAll, List.foldl_cons]
    rcases first : Packet.split (c.input ++ bytes).length (c.input ++ bytes) with ⟨ps, left, stuck⟩
    rw [first] at taken
    cases stuck with
    | true =>
      simp only [if_true, Prod.mk.injEq] at taken
      obtain ⟨rfl, rfl, rfl⟩ := taken
      rw [h.receive readable first]
      exact receiveAll_ended (ended_stop ((h.deliverAll ms).keep left).listening) reads
    | false =>
      rcases later : Packet.gather left reads with ⟨ps', left', bad'⟩
      simp only [later, Bool.false_eq_true, if_false, Prod.mk.injEq] at taken
      obtain ⟨both, rfl, rfl⟩ := taken
      obtain ⟨ms, ms', rfl, rfl, rfl⟩ := List.map_eq_append_iff.mp both.symm
      have readable' := List.forall_mem_append.mp readable
      have heard := ih ((h.deliverAll ms).keep left) readable'.2 later
      rw [h.receive readable'.1 first]
      refine heard.trans ?_
      rw [Connection.heard, Connection.heard, deliverAll_input, deliverAll_append]

/-! ### The end -/

/-- Nothing is delivered between the two states. -/
structure Silent (c c' : Connection) : Prop where
  events : c'.events = c.events
  results : ∀ {n : Nat} {id : Option UInt32} {result : Except WireError Bytes},
    c.stage? n = some (.finished id result) → c'.stage? n = some (.finished id result)
  replies : ∀ {n : Nat} {reply : Reply}, c'.mail? n = some (.ok reply) → c.mail? n = some (.ok reply)

instance : IsPreorder Connection Silent where
  refl _ := ⟨rfl, id, id⟩
  trans _ _ _ h h' :=
    ⟨h'.events.trans h.events, fun done => h'.results (h.results done), fun mail => h.replies (h'.replies mail)⟩

/-- A receiver that hears no more tells the calls nothing else. -/
theorem silent_of_closes (c : Connection) (a : Action) (h : a.Closes) : Silent c (c.perform a) := by
  have told : (c.perform a).events = c.events ∧
      ∀ n reply, (c.perform a).mail? n = some (.ok reply) → c.mail? n = some (.ok reply) := by
    cases a with
    | breakOff =>
      rw [perform, breakOff]
      split <;> exact ⟨rfl, fun _ _ => id⟩
    | announce =>
      rw [perform, announce]
      split <;> exact ⟨rfl, fun _ _ => id⟩
    | cancel n =>
      rw [perform, cancel]
      repeat' split
      all_goals exact ⟨rfl, by simp⟩
    | withdraw n =>
      rw [perform, withdraw]
      split
      · exact ⟨rfl, fun m reply mail => by rwa [← mail?_setStage c n]⟩
      · exact ⟨rfl, fun _ _ => id⟩
    | empty =>
      rw [perform, empty]
      split <;> exact ⟨rfl, fun _ _ => id⟩
    | tell =>
      rw [perform, tell]
      split
      · next n ns _ =>
        refine ⟨rfl, fun m reply mail => ?_⟩
        rcases mail?_setMail c n (.error .closed) m with same | ⟨-, closed⟩
        · exact same.symm.trans mail
        · cases closed.symm.trans mail
      · exact ⟨rfl, fun _ _ => id⟩
      · exact ⟨rfl, fun _ _ => id⟩
    | _ => exact h.elim
  exact ⟨told.1, (perform_turn c a).finished_stays, told.2 _ _⟩

theorem silent_stop (c : Connection) : Silent c c.stop := related_stop silent_of_closes c

/-- What is left of the stream is nobody's business. -/
theorem silent_keep (c : Connection) (input : Bytes) : Silent c { c with input } := ⟨rfl, id, id⟩

theorem Open.ends (h : c.Open sizes) (input : Bytes) :
    ({ c with input }).stop.ended ∧ Silent c ({ c with input }).stop :=
  ⟨ended_stop (h.keep input).listening, trans_of Silent (silent_keep c input) (silent_stop _)⟩

end Connection

open Packet (Misfit Unfinished gather) in
/-- However a stream of packets is cut into reads, the packets are taken from it in order, replies and events are
delivered and other commands are not; what follows is kept while it can become a packet.  If it cannot, or the stream
ends there, the connection ends with exactly that delivered. -/
theorem packets_delivered_in_order {c : Connection} {ms : List Message} {tail : Bytes} {reads : List Bytes}
    (listening : c.intake = .listening) (unended : c.ended = false) (begun : Unfinished c.input)
    (fits : ∀ m ∈ ms, m.packet.Fits) (readable : ∀ m ∈ ms, m.Readable c.sizes)
    (stream : c.input ++ reads.flatten = ms.flatMap (·.packet.encode) ++ tail) :
    (c.deliverAll ms).events.log.toList = c.events.log.toList ++ ms.filterMap (·.eventSet? c.sizes) ∧
    (Unfinished tail →
      (gather c.input reads).1.map Packet.message = ms ∧
      c.receiveAll reads = { c.deliverAll ms with input := tail } ∧
      (c.receiveAll reads).stop.ended ∧ (c.deliverAll ms).Silent (c.receiveAll reads).stop) ∧
    (Misfit tail →
      (gather c.input reads).1.map Packet.message = ms ∧
      (c.receiveAll reads).ended ∧ (c.deliverAll ms).Silent (c.receiveAll reads)) := by
  have opened : c.Open c.sizes := ⟨listening, unended, rfl⟩
  have opened' := opened.deliverAll ms
  have fits' : ∀ p ∈ ms.map Message.packet, p.Fits := List.forall_mem_map.mpr fits
  rw [← List.flatMap_map] at stream
  have told : (ms.map Message.packet).map Packet.message = ms := by
    simp [Function.comp_def, Message.message_packet]
  refine ⟨opened.log_deliverAll ms, fun unfinished => ?_, fun misfit => ?_⟩
  · have stuck := Packet.stuck_of_short unfinished.short
    obtain ⟨rest, taken, left⟩ := Packet.gather_stream fits' stuck begun.short stream
    obtain rfl := left unfinished.short
    rw [unfinished.short] at taken
    have heard : c.receiveAll reads = c.heard ms rest false := opened.receiveAll readable taken
    rw [Connection.heard, if_neg Bool.false_ne_true] at heard
    rw [taken, heard]
    exact ⟨told, rfl, opened'.ends rest⟩
  · obtain ⟨rest, taken, -⟩ := Packet.gather_stream fits' misfit.stuck begun.short stream
    rw [Packet.front_isBad_iff.mpr misfit] at taken
    have heard := opened.receiveAll readable taken
    rw [Connection.heard, if_pos rfl] at heard
    rw [taken, heard]
    exact ⟨told, opened'.ends rest⟩

/-- Two calls wait. -/
def sampleConnection : Connection := (((Connection.new none 4).send 1 4 []).2.send 1 7 []).2

/-- Both are replied to, the second one first; in between the machine tells of its death, and commands something. -/
def sampleMessages : List Message :=
  [.reply 2 0 [7], .command 9 64 100 [1, 0, 0, 0, 1, 99, 0, 0, 0, 0], .command 10 5 5 [1], .reply 1 21 []]

/-- What follows has ten bytes, by its own account. -/
def sampleTail : Bytes := [0, 0, 0, 10, 0, 0, 0, 0, 0, 0, 0, 0]

/-- Neither cut is between two packets. -/
def sampleReads : List Bytes :=
  let bytes := sampleMessages.flatMap (·.packet.encode) ++ sampleTail
  [bytes.take 5, (bytes.drop 5).take 20, bytes.drop 25]

theorem packets_delivered_before_misfit :
    (sampleConnection.receiveAll sampleReads).ended ∧
    (sampleConnection.receiveAll sampleReads).events.log.toList = [⟨1, [.vmDeath]⟩] ∧
    (sampleConnection.receiveAll sampleReads).stage? 1 = some (.finished (some 2) (.ok [7])) ∧
    (sampleConnection.receiveAll sampleReads).stage? 0 = some (.finished (some 1) (.error (.refused 21))) := by
  have begun : Packet.Unfinished sampleConnection.input := .inl (by decide)
  have fits : ∀ m ∈ sampleMessages, m.packet.Fits := by
    simp [sampleMessages, Message.packet, Packet.Fits, Packet.reply, Packet.command, Packet.headerSize, Packet.maxSize]
  have readable : ∀ m ∈ sampleMessages, m.Readable sampleConnection.sizes := by
    simp only [sampleMessages, List.forall_mem_cons]
    refine ⟨trivial, fun _ _ => ⟨⟨1, [.vmDeath]⟩, rfl⟩, fun composite => ?_, trivial, fun _ => ?_⟩
    · cases composite
    · rintro ⟨⟩
  have stream : sampleConnection.input ++ sampleReads.flatten =
      sampleMessages.flatMap (·.packet.encode) ++ sampleTail := by decide +kernel
  obtain ⟨published, -, ends⟩ := packets_delivered_in_order rfl rfl begun fits readable stream
  obtain ⟨-, ended, silent⟩ := ends ⟨by decide, by decide⟩
  exact ⟨ended, (silent.events ▸ published).trans rfl, silent.results rfl, silent.results rfl⟩

end Debugger.Wire
