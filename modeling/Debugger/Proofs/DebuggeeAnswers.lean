import Debugger.Debuggee.Command
import Debugger.Proofs.Framing
import Debugger.Proofs.ReadingBack
import Debugger.Proofs.Within
import Debugger.Wire.Query

/-! # What a debuggee answers -/

namespace Debugger.Debuggee

open Wire

variable {α : Type} {d d' : Debuggee} {t : ThreadId} {e : ThreadEntry}

/-! ### Suspensions -/

/-- How often the thread was suspended. -/
def suspensions (d : Debuggee) (id : ThreadId) : Nat := ((d.thread? id).map (·.suspendCount)).getD 0

/-- The whole machine is suspended once more. -/
def suspendThreads (d : Debuggee) : Debuggee := { d with threads := d.threads.map ThreadEntry.suspend }

theorem ThreadEntry.id_suspend (e : ThreadEntry) : e.suspend.id = e.id := rfl

theorem ThreadEntry.id_resume (e : ThreadEntry) : e.resume.id = e.id := rfl

theorem id_of_thread? {id : ThreadId} (h : d.thread? id = some e) : e.id = id := by
  simpa using List.find?_some h

section

variable {f : ThreadEntry → ThreadEntry} {g : Nat → Nat} (hf : ∀ e, (f e).id = e.id)
include hf

/-- What is done to all threads alike is done to the one that is looked up. -/
private theorem find?_map_threads (ts : List ThreadEntry) (id : ThreadId) :
    (ts.map f).find? (·.id = id) = (ts.find? (·.id = id)).map f := by
  rw [List.find?_map]
  congr 2
  funext e
  simp [hf]

theorem thread?_mapThread (d : Debuggee) (t id : ThreadId) :
    (d.mapThread t f).thread? id = (d.thread? id).map fun e => if e.id = t then f e else e :=
  find?_map_threads (fun e => by split <;> simp [hf]) d.threads id

theorem isSome_mapThread (d : Debuggee) (t id : ThreadId) :
    ((d.mapThread t f).thread? id).isSome = (d.thread? id).isSome := by
  rw [thread?_mapThread hf, Option.isSome_map]

theorem suspensions_mapThread (hg : ∀ e, (f e).suspendCount = g e.suspendCount) (t : ThreadId) {id : ThreadId}
    (known : (d.thread? id).isSome) :
    (d.mapThread t f).suspensions id = if id = t then g (d.suspensions id) else d.suspensions id := by
  obtain ⟨e, he⟩ := Option.isSome_iff_exists.mp known
  rw [suspensions, suspensions, thread?_mapThread hf, he]
  simp only [Option.map_some, Option.getD_some, id_of_thread? he]
  split
  · exact hg e
  · rfl

end

theorem thread?_suspendThreads (d : Debuggee) (id : ThreadId) :
    d.suspendThreads.thread? id = (d.thread? id).map ThreadEntry.suspend :=
  find?_map_threads ThreadEntry.id_suspend d.threads id

theorem thread?_resumeAll (d : Debuggee) (id : ThreadId) :
    (resumeAll d).2.thread? id = (d.thread? id).map ThreadEntry.resume :=
  find?_map_threads ThreadEntry.id_resume d.threads id

theorem suspensions_suspendThreads {id : ThreadId} (known : (d.thread? id).isSome) :
    d.suspendThreads.suspensions id = d.suspensions id + 1 := by
  obtain ⟨e, he⟩ := Option.isSome_iff_exists.mp known
  rw [suspensions, suspensions, thread?_suspendThreads, he]
  rfl

theorem suspensions_resumeAll {id : ThreadId} (known : (d.thread? id).isSome) :
    (resumeAll d).2.suspensions id = d.suspensions id - 1 := by
  obtain ⟨e, he⟩ := Option.isSome_iff_exists.mp known
  rw [suspensions, suspensions, thread?_resumeAll, he]
  rfl

/-! ### Queries -/

/-- The debuggee carries the query out and becomes `d'`; its reply says `a`. -/
structure Grants (d : Debuggee) (q : Query α) (a : α) (d' : Debuggee) : Prop where
  reply : ∃ bytes, d.respond q.set q.number (q.payload d.sizes) = ((0, { payload := bytes }), d') ∧
    (q.reply d.sizes).run bytes = .ok a ∧ Packet.headerSize + bytes.length ≤ Packet.maxSize
  sizes : d'.sizes = d.sizes

theorem Grants.of_command {q : Query α} {a : α} (bytes : Bytes) (input : Cursor)
    (command : command q.set q.number ⟨d, 0, q.payload d.sizes⟩ = .ok { payload := bytes } ⟨d', input⟩)
    (sizes : d'.sizes = d.sizes) (read : (q.reply d.sizes).run bytes = .ok a)
    (short : Packet.headerSize + bytes.length ≤ Packet.maxSize) : d.Grants q a d' where
  reply := by
    refine ⟨bytes, ?_, read, short⟩
    rw [respond, command]
  sizes := sizes

theorem read_of_reads {dec : Decoder α} {bs : Bytes} {a : α} (h : dec.Reads bs a) (d : Debuggee) (offset : Nat) :
    read dec ⟨d, offset, bs⟩ = .ok a ⟨d, offset + bs.length, []⟩ := by
  have := h offset []
  rw [List.append_nil] at this
  rw [read, this]

theorem debuggee_run (s : Desk) : debuggee s = .ok s.debuggee s := rfl

/-- The identifier of an object has room in as many bytes as the debuggee gives it. -/
structure Fits (d : Debuggee) (id : UInt64) : Prop where
  pos : 1 ≤ d.sizes.object
  le : d.sizes.object ≤ 8
  lt : id.toNat < Nat.pow 256 d.sizes.object

theorem Fits.reads (h : d.Fits t) : (Decoder.ident d.sizes.object).Reads (Encode.ident d.sizes.object t) t :=
  Decoder.reads_ident h.pos h.le h.lt

/-! ### The machine -/

theorem grants_suspendVm (d : Debuggee) :
    d.Grants .suspendVm () d.suspendThreads :=
  .of_command [] ⟨0, []⟩ rfl rfl rfl (by decide)

/-- No step begins in a debuggee where none is to begin. -/
theorem runThreads_of_unarmed {s : Desk} (h : s.debuggee.armed = []) (ts : List ThreadId) :
    runThreads ts s = .ok {} s := by
  have ran : s.debuggee.run ts = ([], s.debuggee) := by
    obtain ⟨d, input⟩ := s
    obtain ⟨⟩ := d
    subst h
    rfl
  rw [runThreads, run_ok_bind (debuggee_run s), ran]
  rfl

theorem grants_resumeVm (h : d.armed = []) : d.Grants .resumeVm () (resumeAll d).2 :=
  .of_command [] ⟨0, []⟩ (runThreads_of_unarmed (s := ⟨(resumeAll d).2, 0, []⟩) h _) rfl rfl (by decide)

private theorem length_flatMap_of_length {f : α → Bytes} {n : Nat} (h : ∀ a, (f a).length = n) (as : List α) :
    (as.flatMap f).length = as.length * n := by
  rw [List.length_flatMap, List.map_congr_left fun a _ => h a, List.map_const', List.sum_replicate_nat]

theorem grants_allThreads (few : Packet.headerSize + (4 + d.threads.length * 8) ≤ Packet.maxSize)
    (fits : ∀ e ∈ d.threads, d.Fits e.id) : d.Grants .allThreads (d.threads.map (·.id)) d := by
  have count : (d.threads.map (·.id)).length < UInt32.size := by
    rw [List.length_map]
    exact Nat.lt_of_le_of_lt (by omega : d.threads.length ≤ Packet.maxSize) (by decide)
  have reads : (Decoder.list (Decoder.ident d.sizes.object)).Reads
      (Encode.list (Encode.ident d.sizes.object) (d.threads.map (·.id))) (d.threads.map (·.id)) :=
    Decoder.reads_list count fun id hid => by
      obtain ⟨e, he, rfl⟩ := List.mem_map.mp hid
      exact (fits e he).reads
  have same : Encode.list (Encode.ident d.sizes.object) (d.threads.map (·.id)) =
      Encode.list (fun e => Encode.ident d.sizes.object e.id) d.threads := by
    rw [Encode.list, Encode.list, List.length_map, List.flatMap_map]
  rw [same] at reads
  have room : Packet.headerSize + (Encode.list (fun e => Encode.ident d.sizes.object e.id) d.threads).length ≤
      Packet.maxSize := by
    have width : max 1 (min d.sizes.object 8) ≤ 8 := by omega
    have product := Nat.mul_le_mul_left d.threads.length width
    have one (e : ThreadEntry) : (Encode.ident d.sizes.object e.id).length = max 1 (min d.sizes.object 8) :=
      Bytes.length_ofNat _ _
    rw [Encode.list, List.length_append, Encode.length_count, length_flatMap_of_length one]
    omega
  exact .of_command _ ⟨0, []⟩ rfl rfl reads.run room

theorem grants_idSizes (small : ∀ n ∈ [d.sizes.field, d.sizes.method, d.sizes.object, d.sizes.type, d.sizes.frame],
    n < UInt32.size) : d.Grants .idSizes d.sizes d := by
  simp only [List.forall_mem_cons] at small
  obtain ⟨field, method, object, type, frame, -⟩ := small
  have reads : (Query.idSizes.reply d.sizes).Reads (Encode.sizes d.sizes) d.sizes := by
    refine (Decoder.reads_count field).bind ?_
    refine (Decoder.reads_count method).bind ?_
    refine (Decoder.reads_count object).bind ?_
    refine (Decoder.reads_count type).bind ?_
    exact (Decoder.reads_count frame).bind (.pure d.sizes)
  refine .of_command (Encode.sizes d.sizes) ⟨0, []⟩ rfl rfl reads.run ?_
  rw [Encode.sizes, length_flatMap_of_length Encode.length_count]
  exact (by decide : Packet.headerSize + 5 * 4 ≤ Packet.maxSize)

theorem grants_capabilityFlags (few : Packet.headerSize + d.capabilities.length ≤ Packet.maxSize) :
    d.Grants .capabilityFlags d.capabilities d := by
  have one (b : Bool) : (Encode.bool b).length = 1 := rfl
  refine .of_command (d.capabilities.flatMap Encode.bool) ⟨0, []⟩ rfl rfl
    (Decoder.run_all (fun b _ => Decoder.reads_bool b) fun b => List.ne_nil_of_length_eq_add_one (one b)) ?_
  rwa [length_flatMap_of_length one, Nat.mul_one]

/-! ### Threads -/

/-- A command on a thread is carried out once its thread was read and looked up. -/
private theorem Grants.of_threadCommand {q : Query α} {a : α} (bytes : Bytes) {number : UInt8}
    (asks : q.set = 11 ∧ q.number = number ∧ q.payload d.sizes = Encode.ident d.sizes.object t)
    (fits : d.Fits t)
    (command : ∀ input, read (Decoder.ident d.sizes.object) ⟨d, 0, Encode.ident d.sizes.object t⟩ = .ok t ⟨d, input⟩ →
      threadCommand number ⟨d, 0, Encode.ident d.sizes.object t⟩ = .ok { payload := bytes } ⟨d', input⟩)
    (sizes : d'.sizes = d.sizes) (reads : (q.reply d.sizes).Reads bytes a) (short : bytes.length ≤ 16) :
    d.Grants q a d' := by
  obtain ⟨set, rfl, payload⟩ := asks
  refine .of_command bytes ⟨0 + (Encode.ident d.sizes.object t).length, []⟩ ?_ sizes reads.run
    (Nat.le_trans (Nat.add_le_add_left short _) (by decide))
  rw [set, payload]
  exact command _ (read_of_reads fits.reads d 0)

theorem grants_suspendThread (ht : d.thread? t = some e) (fits : d.Fits t) :
    d.Grants (.suspendThread t) () (d.mapThread e.id ThreadEntry.suspend) := by
  refine .of_threadCommand [] ⟨rfl, rfl, rfl⟩ fits (fun input named => ?_) rfl (.pure ()) (by decide)
  rw [threadCommand, run_ok_bind (debuggee_run _), run_ok_bind named, ht]
  rfl

theorem grants_resumeThread (ht : d.thread? t = some e) (fits : d.Fits t) (h : d.armed = []) :
    d.Grants (.resumeThread t) ()
      { d.mapThread e.id ThreadEntry.resume with threadResumes := d.threadResumes + 1 } := by
  refine .of_threadCommand [] ⟨rfl, rfl, rfl⟩ fits (fun input named => ?_) rfl (.pure ()) (by decide)
  rw [threadCommand, run_ok_bind (debuggee_run _), run_ok_bind named, ht]
  change (do if e.suspendCount ≤ 1 then runThreads [e.id] else return {} : Answering Response) ⟨_, input⟩ = _
  split
  · exact runThreads_of_unarmed h _
  · rfl

theorem grants_threadStatus (ht : d.thread? t = some e) (fits : d.Fits t) :
    d.Grants (.threadStatus t) ⟨1, if e.isSuspended then 1 else 0⟩ d := by
  refine .of_threadCommand _ ⟨rfl, rfl, rfl⟩ fits (fun input named => ?_) rfl
    ((Decoder.reads_i32 1).bind ((Decoder.reads_i32 _).bind_return _)) (by simp [Encode.i32])
  rw [threadCommand, run_ok_bind (debuggee_run _), run_ok_bind named, ht]
  rfl

theorem grants_threadGroup (ht : d.thread? t = some e) (fits : d.Fits t) (group : d.Fits e.group) :
    d.Grants (.threadGroup t) (if e.group = 0 then none else some e.group) d := by
  refine .of_threadCommand _ ⟨rfl, rfl, rfl⟩ fits (fun input named => ?_) rfl
    (Decoder.reads_ident? group.pos group.le group.lt) (by rw [Encode.ident, Bytes.length_ofNat]; omega)
  rw [threadCommand, run_ok_bind (debuggee_run _), run_ok_bind named, ht]
  rfl

/-! ### Groups -/

/-- A command on a group is carried out once its group was read and looked up. -/
private theorem Grants.of_groupCommand {g : GroupId} {q : Query α} {a : α} (bytes : Bytes) {number : UInt8}
    (asks : q.set = 12 ∧ q.number = number ∧ q.payload d.sizes = Encode.ident d.sizes.object g)
    (fits : d.Fits g)
    (command : ∀ input, read (Decoder.ident d.sizes.object) ⟨d, 0, Encode.ident d.sizes.object g⟩ = .ok g ⟨d, input⟩ →
      groupCommand number ⟨d, 0, Encode.ident d.sizes.object g⟩ = .ok { payload := bytes } ⟨d', input⟩)
    (sizes : d'.sizes = d.sizes) (reads : (q.reply d.sizes).Reads bytes a)
    (short : Packet.headerSize + bytes.length ≤ Packet.maxSize) : d.Grants q a d' := by
  obtain ⟨set, rfl, payload⟩ := asks
  refine .of_command bytes ⟨0 + (Encode.ident d.sizes.object g).length, []⟩ ?_ sizes reads.run short
  rw [set, payload]
  exact command _ (read_of_reads fits.reads d 0)

theorem grants_groupName {g : GroupId} {e : GroupEntry} (hg : d.group? g = some e) (fits : d.Fits g)
    (short : Packet.headerSize + (4 + (Text.Utf8.encode e.name).length) ≤ Packet.maxSize) :
    d.Grants (.groupName g) e.name d := by
  have count : (Text.Utf8.encode e.name).length < UInt32.size :=
    Nat.lt_of_le_of_lt (by omega : _ ≤ Packet.maxSize) (by decide)
  refine .of_groupCommand (Encode.text e.name) ⟨rfl, rfl, rfl⟩ fits (fun input named => ?_) rfl
    (Decoder.reads_text count) ?_
  · rw [groupCommand, run_ok_bind (debuggee_run _), run_ok_bind named, hg]
    rfl
  · rw [Encode.text, List.length_append, Encode.length_count]
    exact short

theorem grants_groupParent {g : GroupId} {e : GroupEntry} (hg : d.group? g = some e) (fits : d.Fits g)
    (parent : d.Fits e.parent) : d.Grants (.groupParent g) (if e.parent = 0 then none else some e.parent) d := by
  refine .of_groupCommand _ ⟨rfl, rfl, rfl⟩ fits (fun input named => ?_) rfl
    (Decoder.reads_ident? parent.pos parent.le parent.lt) ?_
  · rw [groupCommand, run_ok_bind (debuggee_run _), run_ok_bind named, hg]
    rfl
  · have width : max 1 (min d.sizes.object 8) ≤ 8 := by omega
    rw [Encode.ident, Bytes.length_ofNat]
    exact Nat.le_trans (Nat.add_le_add_left width _) (by decide)

end Debugger.Debuggee
