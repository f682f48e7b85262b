import Debugger.Proofs.CodeAccounts
import Debugger.Proofs.MissingFrames

/-! # Which variable a name stands for

A name is looked up frame by frame, top first, and in each frame in the order of its method's table.  The first entry
of that name decides in whose stretch of code the frame is, as long as the stretch ends at a code index: a stretch that
reaches beyond the last code index is taken for an empty one.
-/

namespace Debugger

namespace Wire

/-! ### Stretches of code -/

namespace VariableEntry

/-- The variable exists at the code index. -/
def Covers (v : VariableEntry) (index : UInt64) : Prop :=
  v.index.toNat ≤ index.toNat ∧ index.toNat < v.index.toNat + v.length.toNat

/-- The first index after the stretch is a code index. -/
def Ends (v : VariableEntry) : Prop := v.index.toNat + v.length.toNat < UInt64.size

instance (v : VariableEntry) (index : UInt64) : Decidable (v.Covers index) := inferInstanceAs (Decidable (_ ∧ _))

instance (v : VariableEntry) : Decidable v.Ends := inferInstanceAs (Decidable (_ < _))

variable {v : VariableEntry} {index : UInt64}

/-- A stretch that does not end is found nowhere, and every other one where it is. -/
theorem inScope_iff : v.inScope index ↔ v.Covers index ∧ v.Ends := by
  have length : v.length.toUInt64.toNat = v.length.toNat := UInt32.toNat_toUInt64 v.length
  have short : v.length.toNat < 2 ^ 32 := v.length.toNat_lt
  have start : v.index.toNat < 2 ^ 64 := v.index.toNat_lt
  rw [inScope, Bool.and_eq_true, decide_eq_true_iff, decide_eq_true_iff, UInt64.le_iff_toNat_le,
    UInt64.lt_iff_toNat_lt, UInt64.toNat_add, length, Covers, Ends, UInt64.size]
  by_cases ends : v.index.toNat + v.length.toNat < 2 ^ 64
  · rw [Nat.mod_eq_of_lt ends]
    exact ⟨fun h => ⟨h, ends⟩, fun h => h.1⟩
  · -- the sum is taken without `2 ^ 64`, which leaves less than the length
    omega

/-- A variable that exists at the last code index is not found there. -/
theorem last_index_out_of_scope :
    let v : VariableEntry := ⟨18446744073709551615, "x", "I", 1, 0⟩
    v.Covers 18446744073709551615 ∧ v.inScope 18446744073709551615 = false := by
  decide

end VariableEntry

/-- The entry is the first of that name in whose stretch of code the index is. -/
def FirstVisible (name : String) (index : UInt64) (vs : List VariableEntry) (v : VariableEntry) : Prop :=
  ∃ before after, vs = before ++ v :: after ∧ (v.name = name ∧ v.Covers index ∧ v.Ends) ∧
    ∀ u ∈ before, ¬ (u.name = name ∧ u.Covers index ∧ u.Ends)

private def isVisible (name : String) (index : UInt64) (v : VariableEntry) : Bool := v.name = name && v.inScope index

private theorem isVisible_iff {name : String} {index : UInt64} {v : VariableEntry} :
    isVisible name index v ↔ v.name = name ∧ v.Covers index ∧ v.Ends := by
  rw [isVisible, Bool.and_eq_true, decide_eq_true_iff, VariableEntry.inScope_iff]

theorem find?_eq_some_iff_firstVisible {name : String} {index : UInt64} {vs : List VariableEntry} {v : VariableEntry} :
    (vs.find? fun v => v.name = name && v.inScope index) = some v ↔ FirstVisible name index vs v := by
  change vs.find? (isVisible name index) = _ ↔ _
  rw [List.find?_eq_some_iff_append, FirstVisible, isVisible_iff]
  constructor
  · rintro ⟨visible, before, after, same, others⟩
    exact ⟨before, after, same, visible, fun u hu there => by simpa [isVisible_iff.mpr there] using others u hu⟩
  · rintro ⟨before, after, same, visible, others⟩
    exact ⟨visible, before, after, same, fun u hu => by
      rw [Bool.not_eq_true', ← Bool.not_eq_true, isVisible_iff]
      exact others u hu⟩

/-! ### One frame -/

namespace Connection

/-- Every query for values of variables that was sent, as it was written. -/
def valueQueries (c : Connection) : List Bytes := c.asked 16 1

end Connection

/-- How the value of one variable of a frame is asked for. -/
def valueOrder (sizes : IdSizes) (t : ThreadId) (f : FrameId) (v : VariableEntry) : Bytes :=
  Encode.ident sizes.object t ++ Encode.ident sizes.frame f ++
    (Encode.count 1 ++ (Encode.u32 v.slot ++ Encode.u8 (Signature.valueTag v.signature)))

variable {π : Type} [Peer π] {P : Client π → Prop} {a : Account}

/-- The variables of the frame are told, and the value of each is the one given. -/
def Reads (P : Client π → Prop) (a : Account) (t : ThreadId) (value : FrameId → VariableEntry → Value)
    (f : RemoteFrame) : Prop :=
  ∃ vs, a.locals f.location.method.id = .ok vs ∧ ∀ v ∈ vs, ∀ {c : Client π}, P c → ∃ more,
    Gives P (Client.ask (.slotValues t f.id [(v.slot, v.signature)])) c (.ok (value f.id v :: more))

private theorem payload_slotValues {t : ThreadId} {f : FrameId} {v : VariableEntry} {sizes : IdSizes} :
    (Query.slotValues t f [(v.slot, v.signature)]).payload sizes = valueOrder sizes t f v := by
  have one : [(v.slot, v.signature)].flatMap (fun v => Encode.u32 v.1 ++ Encode.u8 (Signature.valueTag v.2)) =
      Encode.u32 v.slot ++ Encode.u8 (Signature.valueTag v.signature) := List.append_nil _
  rw [valueOrder, ← one]
  rfl

/-- The entry that the name stands for in the frame. -/
def Account.Visible (a : Account) (name : String) (f : RemoteFrame) (v : VariableEntry) : Prop :=
  ∃ vs, a.locals f.location.method.id = .ok vs ∧ FirstVisible name f.location.codeIndex vs v

namespace WireSession

variable {r : Resolver π} {t : ThreadId} {f : RemoteFrame} {payloads : List Bytes} {sizes : IdSizes}
  {value : FrameId → VariableEntry → Value}

/-- A frame in which the name stands for an entry has the entry's value, which alone is asked for; in any other frame
nothing is asked. -/
theorem gives_frameVariable (faithful : Faithful P a) (name : String) (reads : Reads P a t value f)
    (informed : Informed (HasAsked P 16 1 payloads sizes) a r) :
    (∃ v, a.Visible name f v ∧ Gives (Informed (HasAsked P 16 1 (payloads ++ [valueOrder sizes t f.id v]) sizes) a)
      (frameVariable t f name) r (.ok (some ⟨v.name, v.signature, value f.id v⟩))) ∨
    ((∀ v, ¬ a.Visible name f v) ∧
      Gives (Informed (HasAsked P 16 1 payloads sizes) a) (frameVariable t f name) r (.ok none)) := by
  have apart : ((16, 1) : UInt8 × UInt8) ∉ accountCommands := by decide
  obtain ⟨vs, known, valued⟩ := reads
  obtain ⟨r', run, informed'⟩ := known ▸ gives_methodVariables (faithful.hasAsked apart) informed f.location.method.id
  cases found : vs.find? fun v => v.name = name && v.inScope f.location.codeIndex with
  | none =>
    refine .inr ⟨fun v ⟨vs', known', first⟩ => ?_, ?_⟩
    · cases known.symm.trans known'
      rw [find?_eq_some_iff_firstVisible.mpr first] at found
      cases found
    · refine .congr (run_ok_bind run) ?_
      rw [found]
      exact .pure none informed'
  | some v =>
    refine .inl ⟨v, ⟨vs, known, find?_eq_some_iff_firstVisible.mp found⟩, ?_⟩
    obtain ⟨more, valued⟩ := valued v (List.mem_of_find?_eq_some found) informed'.1.stands
    refine .congr (run_ok_bind run) ?_
    rw [found]
    obtain ⟨r'', asked, informed''⟩ := informed'.2.gives_within (informed'.1.gives valued)
    rw [if_pos ⟨rfl, rfl⟩, payload_slotValues] at informed''
    exact .congr (run_ok_bind asked) (.pure _ informed'')

end WireSession

/-! ### Frame by frame -/

/-- The values of variables that the machine was asked for so far are these. -/
abbrev HasRead (P : Client π → Prop) (a : Account) (payloads : List Bytes) (sizes : IdSizes) (s : WireSession π) :
    Prop :=
  Informed (HasAsked P 16 1 payloads sizes) a s.resolver

/-- The name stands for the entry in the frame, and for nothing in the frames before it. -/
def Account.FirstVisible (a : Account) (name : String) (fs : List RemoteFrame) (f : RemoteFrame) (v : VariableEntry) :
    Prop :=
  ∃ before after, fs = before ++ f :: after ∧ a.Visible name f v ∧ ∀ b ∈ before, ∀ u, ¬ a.Visible name b u

section

variable {t : ThreadId} {payloads : List Bytes} {sizes : IdSizes}
  {value : FrameId → VariableEntry → Value} {s : System (WireSession π)}

/-- The first frame in which the name stands for something gives the variable, and its value alone is asked for. -/
theorem findIn_reads (faithful : Faithful P a) (name : String) {refs : List FrameRef} {s : System (WireSession π)}
    (reads : ∀ f ∈ refs.filterMap s.frames.remote, Reads P a t value f)
    (read : HasRead P a payloads sizes s.session) :
    (∃ f v m, a.FirstVisible name (refs.filterMap s.frames.remote) f v ∧
      findIn t name refs s = .ok (some ⟨v.name, v.signature, value f.id v⟩) { s with session := m } ∧
        HasRead P a (payloads ++ [valueOrder sizes t f.id v]) sizes m) ∨
    ((∀ f ∈ refs.filterMap s.frames.remote, ∀ v, ¬ a.Visible name f v) ∧
      ∃ m, findIn t name refs s = .ok none { s with session := m } ∧ HasRead P a payloads sizes m) := by
  induction refs generalizing s with
  | nil => exact .inr ⟨fun _ h => absurd h List.not_mem_nil, s.session, rfl, read⟩
  | cons ref refs ih =>
    cases stands : s.frames.remote ref with
    | none =>
      rw [List.filterMap_cons_none stands] at reads ⊢
      have passed : findIn t name (ref :: refs) s = findIn t name refs s := by
        rw [findIn, act_get_bind, stands]
      rw [passed]
      exact ih reads read
    | some f =>
      have apart : ((16, 1) : UInt8 × UInt8) ∉ accountCommands := by decide
      rw [List.filterMap_cons_some stands] at reads ⊢
      obtain ⟨here, others⟩ := List.forall_mem_cons.mp reads
      rcases WireSession.gives_frameVariable faithful name here read with ⟨v, visible, given⟩ | ⟨hidden, given⟩
      · obtain ⟨m, asked, read'⟩ := WireSession.gives_within (faithful.hasAsked apart) given
        refine .inl ⟨f, v, m, ⟨[], _, rfl, visible, fun _ h => absurd h List.not_mem_nil⟩, ?_, read'⟩
        rw [findIn, act_get_bind, stands]
        exact run_ok_bind (ask_of_ok asked)
      · obtain ⟨m, asked, read'⟩ := WireSession.gives_within (faithful.hasAsked apart) given
        have passed : findIn t name (ref :: refs) s = findIn t name refs { s with session := m } := by
          rw [findIn, act_get_bind, stands]
          exact run_ok_bind (ask_of_ok asked)
        rw [passed]
        rcases ih (s := { s with session := m }) others read' with
          ⟨g, v, m', ⟨before, after, same, visible, none_before⟩, found⟩ | ⟨none, found⟩
        · refine .inl ⟨g, v, m', ⟨f :: before, after, congrArg (f :: ·) same, visible, ?_⟩, found⟩
          exact List.forall_mem_cons.mpr ⟨hidden, none_before⟩
        · exact .inr ⟨List.forall_mem_cons.mpr ⟨hidden, none⟩, found⟩

/-- The stack in which a client looks: what the machine says of it if it has to be looked at, and otherwise the known
frames that stand for something. -/
def Account.ShownStack (a : Account) (s : System (WireSession π)) (t : ThreadRef) (fs : List RemoteFrame) : Prop :=
  if (s.thread t).refresh then a.stack (s.thread t).id = .ok fs
  else (s.thread t).frames.filterMap s.frames.remote = fs

variable {s : System (WireSession π)} {t : ThreadRef} {fs : List RemoteFrame}

/-- The stack is shown without asking for values. -/
theorem stackFrames_shows (faithful : Faithful P a) (tidy : s.Tidy) (suspended : (s.thread t).isSuspended)
    (shown : a.ShownStack s t fs) (read : HasRead P a payloads sizes s.session) :
    ∃ refs s', stackFrames t s = .ok refs s' ∧ refs.filterMap s'.frames.remote = fs ∧
      HasRead P a payloads sizes s'.session := by
  have apart : ((16, 1) : UInt8 × UInt8) ∉ accountCommands := by decide
  rw [Account.ShownStack] at shown
  split at shown
  · next due =>
    have looked := WireSession.gives_frames (faithful.hasAsked apart) read (s.thread t).id
    rw [shown] at looked
    obtain ⟨m, answer, read'⟩ := WireSession.gives_within (faithful.hasAsked apart) looked
    have bound : (({ s with session := m }.updateFrames t fs).thread t).frames.map _ = fs.map some :=
      bound_look tidy suspended
    have session : ({ s with session := m }.updateFrames t fs).session = m :=
      (congrArg System.session (System.updateFrames_rest { s with session := m } t fs) :)
    refine ⟨_, _, stackFrames_looks_again suspended due answer, ?_, by rwa [session]⟩
    simpa [List.filterMap_map] using congrArg (List.filterMap id) bound
  · next fresh =>
    exact ⟨_, s, stackFrames_known suspended (eq_false_of_ne_true fresh), shown, read⟩

end

/-- Of a suspended thread, a variable is looked up in the frames that are shown, top first: the first one whose method
has an entry of that name in whose stretch of code the frame is, gives the first such entry's value.  For it alone a
value is asked.  A method without a table has no entries, and an entry whose stretch does not end at a code index stands
for nothing; if no frame has an entry left, there is no variable, and no value is asked for. -/
theorem variable_found_where_visible {s : System (WireSession π)} {t : ThreadRef} (name : String)
    {fs : List RemoteFrame} {value : FrameId → VariableEntry → Value} (faithful : Faithful P a) (tidy : s.Tidy)
    (suspended : (s.thread t).isSuspended) (informed : Informed P a s.session.resolver)
    (shown : a.ShownStack s t fs) (reads : ∀ f ∈ fs, Reads P a (s.thread t).id value f) :
    (∃ f v s', a.FirstVisible name fs f v ∧
      findVariable t name s = .ok (some ⟨v.name, v.signature, value f.id v⟩) s' ∧
        s'.session.connection.valueQueries = s.session.connection.valueQueries ++
          [valueOrder s.session.connection.sizes (s.thread t).id f.id v]) ∨
    ((∀ f ∈ fs, ∀ v, ¬ a.Visible name f v) ∧
      ∃ s', findVariable t name s = .ok none s' ∧
        s'.session.connection.valueQueries = s.session.connection.valueQueries) := by
  have read : HasRead P a s.session.connection.valueQueries s.session.connection.sizes s.session :=
    ⟨⟨informed.1, rfl, rfl⟩, informed.2⟩
  obtain ⟨refs, s₁, answer, rfl, read₁⟩ := stackFrames_shows faithful tidy suspended shown read
  have searched : findVariable t name s = findIn (s.thread t).id name refs s₁ := by
    have tried : (attempt (stackFrames t) : Debugger.Client _ _) s = .ok (.ok refs) s₁ := by
      simp only [attempt, act, answer]
    rw [findVariable, act_get_bind]
    simp only [suspended]
    exact run_ok_bind tried
  rw [searched]
  rcases findIn_reads faithful name reads read₁ with ⟨f, v, m, first, found, read₂⟩ | ⟨none, m, found, read₂⟩
  · exact .inl ⟨f, v, _, first, found, read₂.1.asked⟩
  · exact .inr ⟨none, _, found, read₂.1.asked⟩

open Recital

/-- A suspended thread of which no frames are known yet. -/
private def halted : System (WireSession Recital) :=
  { System.blank sampleSession {} with
    threads := #[{ id := 1, running := false, terminated := false, system := false }] }

private theorem halted_tidy : halted.Tidy := by
  have unknown (t : ThreadRef) : (halted.thread t).frames = [] := by
    cases t with
    | zero => rfl
    | succ n =>
      rw [System.thread_of_size_le (Nat.succ_le_succ (Nat.zero_le n))]
      rfl
  have none {t : ThreadRef} {h : FrameRef} (known : h ∈ (halted.thread t).frames) : False := by
    rw [unknown t] at known
    exact List.not_mem_nil known
  exact ⟨fun h => (none h).elim, fun h => (none h).elim, fun t => unknown t ▸ List.nodup_nil, fun _ h => (none h).elim,
    fun _ _ h => by cases h⟩

private def sampleMethod (m : Member) : Method := ⟨⟨7, m.id⟩, m.name, "Main", m.signature, m.modifiers⟩

/-- The stack as it is shown; the frame without a code index is of the last line. -/
private def sampleStack : List RemoteFrame :=
  [⟨1, sampleMethod ⟨1, "main", "()V", 9⟩, 18446744073709551615, some 10⟩,
    ⟨2, sampleMethod ⟨2, "run", "()V", 1⟩, 10, some 10⟩]

private theorem visible_in_sample {f : RemoteFrame} {v : VariableEntry} : sampleAccount.Visible "x" f v ↔
    (sampleEntries.find? fun v => v.name = "x" && v.inScope f.location.codeIndex) = some v := by
  rw [find?_eq_some_iff_firstVisible]
  refine ⟨fun ⟨vs, known, first⟩ => ?_, fun first => ⟨sampleEntries, rfl, first⟩⟩
  cases known
  exact first

/-- The variable is that of the caller, where the second entry of its name covers the place. -/
theorem variable_of_caller_found :
    ∃ s', findVariable 0 "x" halted = .ok (some ⟨"x", "I", .int 42⟩) s' ∧
      s'.session.connection.valueQueries = [valueOrder {} 1 2 ⟨0, "x", "I", 20, 1⟩] := by
  have reads : ∀ f ∈ sampleStack, Reads sample.Hears sampleAccount 1 (fun _ _ => .int 42) f := fun f _ =>
    ⟨sampleEntries, rfl, fun v _ _ hears => ⟨[], Recital.gives hears (Nat.le_of_ble_eq_true rfl) rfl⟩⟩
  have shown : sampleAccount.ShownStack halted 0 sampleStack := by
    change sampleAccount.stack 1 = .ok sampleStack
    decide +kernel
  rcases variable_found_where_visible "x" sample_faithful halted_tidy rfl sampleSession_informed shown
    reads with ⟨f, v, s', ⟨before, after, same, visible, -⟩, found, asked⟩ | ⟨hidden, -⟩
  · rw [visible_in_sample] at visible
    match before, same with
    | [], same =>
      obtain ⟨rfl, -⟩ := List.cons.inj same
      cases visible
    | [_], same =>
      obtain ⟨-, same⟩ := List.cons.inj same
      obtain ⟨rfl, -⟩ := List.cons.inj same
      cases visible
      exact ⟨s', found, asked⟩
    | _ :: _ :: before, same =>
      obtain ⟨-, same⟩ := List.cons.inj same
      obtain ⟨-, same⟩ := List.cons.inj same
      exact (List.append_ne_nil_of_right_ne_nil _ (List.cons_ne_nil _ _) same.symm).elim
  · exact (hidden _ (List.mem_cons_of_mem _ List.mem_cons_self) _ (visible_in_sample.mpr rfl)).elim

end Wire

end Debugger
