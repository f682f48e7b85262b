import Debugger.Proofs.PacketItems
import Debugger.Proofs.QuietSession

/-! # Requests as a debuggee records them

What a client asks for is what a debuggee records: of an event request all its conditions, and of an
invocation its method, its arguments and its options, whatever the sizes of identifiers.  The debuggee reads
the whole payload.
-/

namespace Debugger

namespace Wire.EventModifier

open Debuggee (StepOrder)

/-! ### Conditions -/

/-- The identifiers of the condition have room, and its text is not too long to count. -/
def Fits (s : IdSizes) : EventModifier → Prop
  | thread t => s.Holds .object t
  | classMatch p | classExclude p => (Text.Utf8.encode p).length < UInt32.size
  | location p => p.Fits s
  | step t _ _ => s.Holds .object t
  | count _ => True

instance (s : IdSizes) : (m : EventModifier) → Decidable (m.Fits s)
  | thread t => inferInstanceAs (Decidable (s.Holds .object t))
  | classMatch _ | classExclude _ => inferInstanceAs (Decidable (_ < _))
  | location p => inferInstanceAs (Decidable (p.Fits s))
  | step t _ _ => inferInstanceAs (Decidable (s.Holds .object t))
  | count _ => .isTrue trivial

def count? : EventModifier → Option UInt32
  | count n => some n
  | _ => none

def step? : EventModifier → Option StepOrder
  | step t size depth => some ⟨t, size, depth⟩
  | _ => none

def exclusion? : EventModifier → Option String
  | classExclude p => some p
  | _ => none

def place? : EventModifier → Option CodePlace
  | location p => some p
  | _ => none

end Wire.EventModifier

namespace Debuggee

open Wire Decoder

/-- The request with one more condition. -/
def RequestEntry.record (r : RequestEntry) (m : EventModifier) : RequestEntry :=
  { r with
    modifiers := r.modifiers ++ [m.kind]
    count := m.count?.or r.count
    step := m.step?.or r.step
    exclusions := m.exclusion?.elim r.exclusions (r.exclusions ++ [·])
    place := m.place?.or r.place }

/-- Of conditions that are given more than once the last one counts, except that all patterns are kept. -/
theorem RequestEntry.foldl_record (ms : List EventModifier) (r : RequestEntry) :
    ms.foldl record r =
      { r with
        modifiers := r.modifiers ++ ms.map (·.kind)
        count := (ms.filterMap (·.count?)).getLast?.or r.count
        step := (ms.filterMap (·.step?)).getLast?.or r.step
        exclusions := r.exclusions ++ ms.filterMap (·.exclusion?)
        place := (ms.filterMap (·.place?)).getLast?.or r.place } := by
  have last {α : Type} (f : EventModifier → Option α) (m : EventModifier) (ms : List EventModifier) (a : Option α) :
      ((m :: ms).filterMap f).getLast?.or a = (ms.filterMap f).getLast?.or ((f m).or a) := by
    cases h : f m <;> simp [h, List.getLast?_cons]
  induction ms generalizing r with
  | nil => simp
  | cons m ms ih =>
    rw [List.foldl_cons, ih]
    simp only [last, record, List.map_cons, List.append_assoc, List.cons_append, List.nil_append]
    cases m with
    | classExclude p =>
      simp only [EventModifier.exclusion?, Option.elim_some, List.append_assoc, List.cons_append, List.nil_append]
      rfl
    | _ => rfl

/-! ### Event requests -/

variable {α : Type} {s : IdSizes} {d : Debuggee}

theorem reads_modifier (sizes : s.Valid) {m : EventModifier} (h : m.Fits s) (r : RequestEntry) :
    Reads (modifier s r) (Encode.modifier s m) (r.record m) := by
  refine (reads_u8 m.kind).bind ?_
  cases m with
  | count n => exact (reads_u32 n).bind_return _
  | thread t => exact (needs_id .object sizes h).reads.bind_return _
  | classMatch p => exact (reads_text h).bind_return _
  | classExclude p => exact (reads_text h).bind_return _
  | location p => exact (needs_place sizes h).reads.bind_return _
  | step t size depth =>
    change Reads _ (Encode.ident s.object t ++ Encode.u32 size ++ Encode.u32 depth) _
    rw [List.append_assoc]
    exact (needs_id .object sizes h).reads.bind ((reads_u32 size).bind ((reads_u32 depth).bind_return _))

theorem reads_modifiers (sizes : s.Valid) : {ms : List EventModifier} → (∀ m ∈ ms, m.Fits s) → (r : RequestEntry) →
    Reads (modifiers s ms.length r) (ms.flatMap (Encode.modifier s)) (ms.foldl RequestEntry.record r)
  | [], _, r => .pure r
  | m :: _, h, r =>
    (reads_modifier sizes (h m (.head _)) r).bind (reads_modifiers sizes (fun n hn => h n (.tail _ hn)) (r.record m))

/-- The debuggee carries the query out and becomes `d'`; it has read the whole payload. -/
def TakesDown (d : Debuggee) (q : Query α) (d' : Debuggee) : Prop :=
  ∃ reply, command q.set q.number ⟨d, 0, q.payload d.sizes⟩ =
    .ok { payload := reply } ⟨d', (q.payload d.sizes).length, []⟩

theorem read_front {dec : Decoder α} {bs : Bytes} {a : α} (h : Reads dec bs a) (d : Debuggee) (offset : Nat)
    (rest : Bytes) : read dec ⟨d, offset, bs ++ rest⟩ = .ok a ⟨d, offset + bs.length, rest⟩ := by
  rw [read, h]

/-- The debuggee once it has recorded a request. -/
def recording (d : Debuggee) (r : RequestEntry) : Debuggee :=
  { d with
    nextRequest := d.nextRequest + 1
    requests := d.requests ++ [r]
    armed := d.armed ++ if r.kind = EventKind.step then (r.step.map fun o => (d.nextRequest, o.thread)).toList else [] }

theorem setRequest_recorded {kind policy : UInt8} {ms : List EventModifier} {r : RequestEntry} (sizes : d.sizes.Valid)
    (countable : ms.length < UInt32.size) (fits : ∀ m ∈ ms, m.Fits d.sizes)
    (h : ms.foldl RequestEntry.record { id := d.nextRequest, kind, policy } = r) :
    command 15 1 ⟨d, 0, (Query.setRequest kind policy ms).payload d.sizes⟩ =
      .ok { payload := Encode.i32 d.nextRequest }
        ⟨d.recording r, ((Query.setRequest kind policy ms).payload d.sizes).length, []⟩ := by
  have same : r.kind = kind := by
    rw [← h, RequestEntry.foldl_record]
  have payload : (Query.setRequest kind policy ms).payload d.sizes =
      Encode.u8 kind ++ (Encode.u8 policy ++ (Encode.count ms.length ++ ms.flatMap (Encode.modifier d.sizes))) := by
    rw [← List.append_assoc]
    rfl
  subst h
  rw [payload]
  change setRequestCommand _ = _
  rw [setRequestCommand, run_ok_bind (read_front (reads_u8 kind) d _ _), run_ok_bind (read_front (reads_u8 policy) d _ _),
    run_ok_bind (debuggee_run _), change, act_modify_bind, run_ok_bind (read_front (reads_count countable) _ _ _)]
  rw [run_ok_bind (read_of_reads (reads_modifiers sizes fits _) _ _)]
  simp only [recording, same, List.length_append, Nat.zero_add, Nat.add_assoc]
  rfl

/-! ### Invocations -/

section

variable {set number : UInt8} {value : Value} {m : MethodId} {args : List Value} {options : UInt32}

/-- The bytes behind the receiver of an invocation. -/
private def tail (s : IdSizes) (m : MethodId) (args : List Value) (options : UInt32) : Bytes :=
  Encode.ident s.method m ++ Encode.list (Encode.value s) args ++ Encode.u32 options

private theorem reads_tail (sizes : s.Valid) (method : s.Holds .method m) (countable : args.length < UInt32.size)
    (fits : ∀ v ∈ args, v.Fits s) :
    Reads (invocationTail s set number) (tail s m args options) { set, number, method := m, args, options } := by
  rw [tail, List.append_assoc]
  apply (needs_id .method sizes method).reads.bind
  apply (reads_list countable fun v hv => (needs_value sizes (fits v hv)).reads).bind
  exact (reads_u32 options).bind_return _

/-- The debuggee once it has recorded an invocation. -/
def invoked (d : Debuggee) (i : InvocationEntry) : Debuggee := { d with invocations := d.invocations ++ [i] }

private theorem invoke_recorded {receiver : Decoder Unit} {bs bs' : Bytes} {i : InvocationEntry}
    (received : Reads receiver bs ()) (tailed : Reads (invocationTail d.sizes set number) bs' i) :
    invoke receiver set number value ⟨d, 0, bs ++ bs'⟩ =
      .ok { payload := Encode.value d.sizes value ++ noObject d.sizes } ⟨d.invoked i, (bs ++ bs').length, []⟩ := by
  rw [invoke, run_ok_bind (debuggee_run _), run_ok_bind (read_front received d _ _),
    run_ok_bind (read_of_reads tailed d _), List.length_append, Nat.zero_add]
  rfl

private theorem reads_typeReceiver (sizes : s.Valid) {c : TypeId} {t : ThreadId} (type : s.Holds .type c)
    (thread : s.Holds .object t) :
    Reads (typeReceiver s) (Encode.ident s.type c ++ Encode.ident s.object t) () :=
  (needs_id .type sizes type).reads.bind ((needs_id .object sizes thread).reads.bind_return fun _ => ())

private theorem reads_objectReceiver (sizes : s.Valid) {o : ObjectId} {c : TypeId} {t : ThreadId}
    (object : s.Holds .object o) (thread : s.Holds .object t) (type : s.Holds .type c) :
    Reads (objectReceiver s) (Encode.ident s.object o ++ Encode.ident s.object t ++ Encode.ident s.type c) () := by
  rw [List.append_assoc]
  apply (needs_id .object sizes object).reads.bind
  apply (needs_id .object sizes thread).reads.bind
  exact (needs_id .type sizes type).reads.bind_return fun _ => ()

variable {t : ThreadId} {c : TypeId} (sizes : d.sizes.Valid) (thread : d.sizes.Holds .object t) (type : d.sizes.Holds .type c)
  (method : d.sizes.Holds .method m) (countable : args.length < UInt32.size) (fits : ∀ v ∈ args, v.Fits d.sizes)
include sizes thread type method countable fits

theorem invokeStatic_recorded : d.TakesDown (.invokeStatic c t m args options) (d.invoked ⟨3, 3, m, args, options⟩) :=
  ⟨_, invoke_recorded (reads_typeReceiver sizes type thread) (reads_tail sizes method countable fits)⟩

theorem newInstance_recorded : d.TakesDown (.newInstance c t m args options) (d.invoked ⟨3, 4, m, args, options⟩) :=
  ⟨_, invoke_recorded (reads_typeReceiver sizes type thread) (reads_tail sizes method countable fits)⟩

theorem invokeOn_recorded {o : ObjectId} (object : d.sizes.Holds .object o) :
    d.TakesDown (.invokeOn o t c m args options) (d.invoked ⟨9, 6, m, args, options⟩) :=
  ⟨_, invoke_recorded (reads_objectReceiver sizes object thread type) (reads_tail sizes method countable fits)⟩

end

/-! ### Steps that a session asks for -/

/-- What is recorded of a step that a session asks for. -/
def stepEntry (id : RequestId) (r : StepRequest) (depth : UInt32) : RequestEntry where
  id := id
  kind := 1
  policy := match r.policy with
    | .thread => 1
    | .vm => 2
  modifiers := 10 :: (r.exclusions.map fun _ => 6) ++ (r.count.map fun _ => 1).toList
  count := r.count
  step := some ⟨r.thread, 1, depth⟩
  exclusions := r.exclusions

theorem foldl_stepModifiers (id : RequestId) (r : StepRequest) (depth : UInt32) :
    (WireSession.stepModifiers r depth).foldl RequestEntry.record
      { id, kind := 1, policy := WireSession.policyCode r.policy } = stepEntry id r depth := by
  rw [RequestEntry.foldl_record, stepEntry, WireSession.stepModifiers]
  have no_steps : r.exclusions.filterMap (fun _ => (none : Option StepOrder)) = [] :=
    List.filterMap_eq_nil_iff.mpr fun _ _ => rfl
  obtain ⟨thread, deep, count, exclusions, policy⟩ := r
  cases count <;> cases policy <;>
    simp [no_steps, EventModifier.kind, EventModifier.count?, EventModifier.step?, EventModifier.exclusion?,
      EventModifier.place?, WireSession.policyCode, Policy.thread, Policy.all, WireSession.lineSize, Function.comp_def]


/-- How far a step runs, as a number; no number stands for entering a frame again. -/
def depths : List (StepDepth × UInt32) := [(.into, 0), (.over, 1), (.out, 2)]

theorem depthCode?_of_mem {deep : StepDepth} {depth : UInt32} (h : (deep, depth) ∈ depths) :
    WireSession.depthCode? deep = some depth := by
  simp only [depths, List.mem_cons, Prod.mk.injEq, List.not_mem_nil, or_false] at h
  rcases h with ⟨rfl, rfl⟩ | ⟨rfl, rfl⟩ | ⟨rfl, rfl⟩ <;> rfl

section

variable {r : StepRequest} {depth : UInt32}

theorem createStepRequest_eq {π : Type} [Peer π] (h : (r.depth, depth) ∈ depths) :
    (Session.createStepRequest r : Call (WireSession π) RequestId) =
      WireSession.ask (.setRequest 1 (WireSession.policyCode r.policy) (WireSession.stepModifiers r depth)) := by
  change WireSession.within (WireSession.requestStep r) = _
  rw [WireSession.requestStep, depthCode?_of_mem h]
  rfl

theorem stepModifiers_fit (thread : s.Holds .object r.thread)
    (texts : ∀ p ∈ r.exclusions, (Text.Utf8.encode p).length < UInt32.size) :
    ∀ m ∈ WireSession.stepModifiers r depth, m.Fits s := by
  simp only [WireSession.stepModifiers, List.mem_append, List.mem_cons, List.mem_map, Option.mem_toList,
    Option.map_eq_some_iff]
  rintro m ((rfl | ⟨p, hp, rfl⟩) | ⟨n, -, rfl⟩)
  · exact thread
  · exact texts p hp
  · exact trivial

end

/-- What a client asks a debuggee to watch for or to run is recorded as it was sent, and the debuggee reads the
whole payload.  Of an event request it records the kind, the policy, the kinds of all conditions in order, all
patterns of excluded classes in order, and the last count, step and place, if any; so a step that a session
asks for is recorded with its thread, its depth, its exclusions and its count, from line to line.  Of an
invocation it records the method, the arguments and the options. -/
theorem requests_recorded_as_sent (sizes : d.sizes.Valid) :
    (∀ (kind policy : UInt8) (ms : List EventModifier), ms.length < UInt32.size → (∀ m ∈ ms, m.Fits d.sizes) →
      d.TakesDown (.setRequest kind policy ms) (d.recording
        { id := d.nextRequest
          kind
          policy
          modifiers := ms.map (·.kind)
          count := (ms.filterMap (·.count?)).getLast?
          step := (ms.filterMap (·.step?)).getLast?
          exclusions := ms.filterMap (·.exclusion?)
          place := (ms.filterMap (·.place?)).getLast? })) ∧
    (∀ (r : StepRequest) (depth : UInt32), (r.depth, depth) ∈ depths →
      (WireSession.stepModifiers r depth).length < UInt32.size → d.sizes.Holds .object r.thread →
      (∀ p ∈ r.exclusions, (Text.Utf8.encode p).length < UInt32.size) →
      ∃ q : Query RequestId, (Session.createStepRequest r : Call (WireSession Debuggee) RequestId) = WireSession.ask q ∧
        d.TakesDown q (d.recording (stepEntry d.nextRequest r depth)) ∧
        ∀ s : WireSession Debuggee, s.Quiet → s.peer = d → ∃ s', Session.createStepRequest r s = .ok d.nextRequest s' ∧
          s.Answered (d.recording (stepEntry d.nextRequest r depth)) s') ∧
    ∀ (c : TypeId) (t : ThreadId) (m : MethodId) (args : List Value) (options : UInt32), d.sizes.Holds .type c →
      d.sizes.Holds .object t → d.sizes.Holds .method m → args.length < UInt32.size → (∀ v ∈ args, v.Fits d.sizes) →
      d.TakesDown (.invokeStatic c t m args options) (d.invoked ⟨3, 3, m, args, options⟩) ∧
      d.TakesDown (.newInstance c t m args options) (d.invoked ⟨3, 4, m, args, options⟩) ∧
      ∀ o : ObjectId, d.sizes.Holds .object o →
        d.TakesDown (.invokeOn o t c m args options) (d.invoked ⟨9, 6, m, args, options⟩) := by
  refine ⟨?_, ?_, ?_⟩
  · intro kind policy ms countable fits
    refine ⟨_, setRequest_recorded sizes countable fits ?_⟩
    rw [RequestEntry.foldl_record]
    simp only [Option.or_none, List.nil_append]
  · intro r depth code countable thread texts
    have recorded := setRequest_recorded sizes countable (stepModifiers_fit thread texts)
      (foldl_stepModifiers d.nextRequest r depth)
    have short : Packet.headerSize + (Encode.i32 d.nextRequest).length ≤ Packet.maxSize := by
      rw [Encode.i32, Encode.u32, Bytes.length_ofNat]
      decide
    refine ⟨_, createStepRequest_eq code, ⟨_, recorded⟩, fun s quiet peer => ?_⟩
    subst peer
    rw [createStepRequest_eq code]
    exact WireSession.ask_granted quiet (.of_command _ _ recorded rfl (reads_i32 _).run short)
  · intro c t m args options type thread method countable fits
    exact ⟨invokeStatic_recorded sizes thread type method countable fits,
      newInstance_recorded sizes thread type method countable fits,
      fun o object => invokeOn_recorded sizes thread type method countable fits object⟩

/-- Of two counts the second is recorded, and of two patterns both, where identifiers are narrow. -/
theorem last_count_and_all_patterns_recorded :
    let d := Debuggee.start ⟨1, 2, 3, 4, 5⟩ []
    d.TakesDown (.setRequest 1 2 [.count 7, .step 1 1 2, .classExclude "java.*", .count 5, .classExclude "sun.*"])
      (d.recording
        { id := 1
          kind := 1
          policy := 2
          modifiers := [1, 10, 6, 1, 6]
          count := some 5
          step := some ⟨1, 1, 2⟩
          exclusions := ["java.*", "sun.*"] }) := by
  intro d
  have valid : d.sizes.Valid := by
    intro k
    cases k <;> decide
  exact (requests_recorded_as_sent valid).1 1 2 _ (by decide) (by decide)

end Debuggee

end Debugger
