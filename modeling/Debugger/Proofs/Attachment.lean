import Debugger.Proofs.Reachable
import Debugger.Proofs.SuspendCounts

/-! # Attached to a debuggee

A client that waits for its replies can be connected with a debuggee that was just started, and the debugger
attached over it; both threads are listed then, each as suspended as the debuggee has it.
-/

namespace Debugger

open Wire

section

variable {σ : Type} [Session σ]

/-- A thread of which the machine tells all that is asked. -/
theorem addThread_ok {s : System σ} {id : ThreadId} {system suspended : Bool} {m m' : σ}
    (new : s.find? id = none) (grouped : isSystemThread id s.session = .ok system m)
    (status : Session.threadIsSuspended id m = .ok suspended m') :
    addThread id s = (s.threads.size,
      { s with session := m' }.enlist { id, running := !suspended, terminated := false, system }) := by
  have created : createThread id s = (s.threads.size,
      { s with
        session := m'
        threads := s.threads.push { id, running := !suspended, terminated := false, system } }) := by
    rw [createThread, run_ask_ok grouped, run_ask_ok status]
    cases suspended <;> rfl
  rw [addThread, run_get_bind, new]
  dsimp only
  rw [run_bind created]
  rfl

/-- Threads are added one after another. -/
inductive Adds : System σ → List ThreadId → System σ → Prop
  | nil (s : System σ) : Adds s [] s
  | cons {s s₁ s' : System σ} {id : ThreadId} {ids : List ThreadId} {t : ThreadRef}
      (first : addThread id s = (t, s₁)) (rest : Adds s₁ ids s') : Adds s (id :: ids) s'

private theorem Adds.forIn {s s' : System σ} {ids : List ThreadId} (h : Adds s ids s') :
    (forIn ids PUnit.unit fun id _ => do
      let _ ← act (addThread id)
      return .yield PUnit.unit : Client σ PUnit) s = .ok .unit s' := by
  induction h with
  | nil => rfl
  | @cons s s₁ s' id ids t first _ ih =>
    have added : (act (addThread id) : Client σ ThreadRef) s = .ok t s₁ := by simp only [act, first]
    simp only [List.forIn_cons, bind_assoc, pure_bind] at ih ⊢
    rw [run_ok_bind added]
    exact ih

theorem attach_ok {session m : σ} {settings : TargetSettings} {ids : List ThreadId} {s : System σ}
    (listed : Session.allThreads session = .ok ids m)
    (added : Adds { System.blank session settings with session := m } ids s) :
    attach session settings = .ok (s.fire .target .create) := by
  have asked : askFor "listing threads" Session.allThreads (System.blank session settings) =
      .ok ids { System.blank session settings with session := m } := askFor_ok listed
  have op : (do
      let ids ← askFor "listing threads" Session.allThreads
      for id in ids do
        let _ ← act (addThread id)
      modify (·.fire .target .create) : Client σ Unit) (System.blank session settings) =
        .ok () (s.fire .target .create) := by
    rw [run_ok_bind asked, run_ok_bind added.forIn]
    rfl
  unfold attach
  dsimp only
  split
  · next h => cases op.symm.trans h; rfl
  · next h => cases op.symm.trans h

end

namespace Wire.WireSession

variable {s : WireSession Debuggee} {d : Debuggee} {sizes : IdSizes} {caps : List Bool}

/-- Small identifiers have room in any number of bytes. -/
private theorem fits_of_lt (pos : 1 ≤ sizes.object) (le : sizes.object ≤ 8) {id : UInt64} (h : id.toNat < 256) :
    (Debuggee.start sizes caps).Fits id :=
  ⟨pos, le, Nat.lt_of_lt_of_le h (Nat.pow_le_pow_right (by decide) pos : 256 ^ 1 ≤ 256 ^ sizes.object)⟩

private theorem groupLimit_succ : ∃ n, groupLimit = n + 1 := ⟨groupLimit - 1, by decide⟩

private theorem threadGroup_granted (quiet : s.Quiet) (peer : s.peer = d) {t : ThreadId} {g : Option GroupId}
    (h : d.Grants (.threadGroup t) g d) :
    ∃ s', Session.threadGroup t s = .ok g s' ∧ s.Answered d s' :=
  ask_granted quiet (peer ▸ h)

private theorem groupName_granted (quiet : s.Quiet) (peer : s.peer = d) {g : GroupId} {name : String}
    (h : d.Grants (.groupName g) name d) :
    ∃ s', Session.groupName g s = .ok name s' ∧ s.Answered d s' :=
  ask_granted quiet (peer ▸ h)

private theorem groupParent_granted (quiet : s.Quiet) (peer : s.peer = d) {g : GroupId} {parent : Option GroupId}
    (h : d.Grants (.groupParent g) parent d) :
    ∃ s', Session.groupParent g s = .ok parent s' ∧ s.Answered d s' :=
  ask_granted quiet (peer ▸ h)

/-- A thread in the program's group is the program's. -/
theorem isSystemThread_main (quiet : s.Quiet) (peer : s.peer = .start sizes caps)
    (pos : 1 ≤ sizes.object) (le : sizes.object ≤ 8) :
    ∃ s', isSystemThread Debuggee.mainThread s = .ok false s' ∧ s.Answered (.start sizes caps) s' := by
  obtain ⟨s₁, grouped, first⟩ := threadGroup_granted quiet peer
    (Debuggee.grants_threadGroup (d := .start sizes caps) (t := Debuggee.mainThread) rfl
      (fits_of_lt pos le (by decide)) (fits_of_lt pos le (by decide)))
  obtain ⟨s₂, named, second⟩ := groupName_granted first.quiet first.peer
    (Debuggee.grants_groupName (d := .start sizes caps) (g := Debuggee.mainGroup) rfl
      (fits_of_lt pos le (by decide)) (by decide))
  refine ⟨s₂, ?_, first.trans second⟩
  obtain ⟨n, limit⟩ := groupLimit_succ
  have inside : outsideMain groupLimit (some Debuggee.mainGroup) s₁ = .ok (some false) s₂ := by
    rw [limit, outsideMain, run_ok_bind named]
    rfl
  rw [isSystemThread, run_ok_bind grouped]
  exact (run_ok_bind inside).trans rfl

/-- A thread in an outermost group that is not the program's is the machine's. -/
theorem isSystemThread_system (quiet : s.Quiet) (peer : s.peer = .start sizes caps)
    (pos : 1 ≤ sizes.object) (le : sizes.object ≤ 8) :
    ∃ s', isSystemThread Debuggee.systemThread s = .ok true s' ∧ s.Answered (.start sizes caps) s' := by
  obtain ⟨s₁, grouped, first⟩ := threadGroup_granted quiet peer
    (Debuggee.grants_threadGroup (d := .start sizes caps) (t := Debuggee.systemThread) rfl
      (fits_of_lt pos le (by decide)) (fits_of_lt pos le (by decide)))
  obtain ⟨s₂, named, second⟩ := groupName_granted first.quiet first.peer
    (Debuggee.grants_groupName (d := .start sizes caps) (g := Debuggee.systemGroup) rfl
      (fits_of_lt pos le (by decide)) (by decide))
  obtain ⟨s₃, outermost, third⟩ := groupParent_granted second.quiet second.peer
    (Debuggee.grants_groupParent (d := .start sizes caps) (g := Debuggee.systemGroup) rfl
      (fits_of_lt pos le (by decide)) (fits_of_lt pos le (by decide)))
  refine ⟨s₃, ?_, (first.trans second).trans third⟩
  obtain ⟨n, limit⟩ := groupLimit_succ
  have outside : outsideMain groupLimit (some Debuggee.systemGroup) s₁ = .ok (some true) s₃ := by
    rw [limit, outsideMain, run_ok_bind named]
    refine (run_ok_bind outermost).trans ?_
    cases n <;> rfl
  rw [isSystemThread, run_ok_bind grouped]
  exact (run_ok_bind outside).trans rfl

private theorem allThreads_granted (quiet : s.Quiet) (peer : s.peer = .start sizes caps)
    (pos : 1 ≤ sizes.object) (le : sizes.object ≤ 8) :
    ∃ s', Session.allThreads s = .ok [Debuggee.mainThread, Debuggee.systemThread] s' ∧
      s.Answered (.start sizes caps) s' := by
  have fits : ∀ e ∈ (Debuggee.start sizes caps).threads, (Debuggee.start sizes caps).Fits e.id := by
    intro e he
    rcases List.mem_pair.mp he with rfl | rfl
    · exact fits_of_lt pos le (by decide)
    · exact fits_of_lt pos le (by decide)
  have few : Packet.headerSize + (4 + (Debuggee.start sizes caps).threads.length * 8) ≤ Packet.maxSize :=
    (by decide : Packet.headerSize + (4 + 2 * 8) ≤ Packet.maxSize)
  have granted : (Debuggee.start sizes caps).Grants .allThreads [Debuggee.mainThread, Debuggee.systemThread]
      (.start sizes caps) := Debuggee.grants_allThreads few fits
  exact ask_granted quiet (peer ▸ granted)

end Wire.WireSession

/-- A session over a client that has just been connected has nothing to publish. -/
theorem Wire.Client.Connected.quiet {client : Wire.Client Debuggee} {cs : ConnectionSettings} {d : Debuggee}
    (h : client.Connected cs d) (waits : cs.reply ≠ some 0) : (WireSession.new client).Quiet where
  idle := h.idle
  waits := h.replyTimeout ▸ waits
  sizes := h.sizes.trans (congrArg Debuggee.sizes h.peer).symm
  published := Channel.receive?_subscribe _

/-- The threads that a debuggee begins with, as the debugger lists them. -/
def listedThreads : List Thread :=
  [{ id := Debuggee.mainThread, running := false, terminated := false, system := false },
    { id := Debuggee.systemThread, running := true, terminated := false, system := true }]

/-- The debugger lists the threads of a debuggee that was just started, and lists them rightly. -/
structure System.Lists (s : System (WireSession Debuggee)) (sizes : IdSizes) (caps : List Bool) : Prop where
  registry : s.registry = [0, 1]
  threads : s.threads = listedThreads.toArray
  peer : s.session.peer = .start sizes caps

namespace System.Lists

variable {s : System (WireSession Debuggee)} {sizes : IdSizes} {caps : List Bool} {t : ThreadRef}

theorem thread (h : s.Lists sizes caps) (t : ThreadRef) : s.thread t = listedThreads.toArray[t]?.getD default :=
  congrArg (fun ts : Array Thread => ts[t]?.getD default) h.threads

theorem eq_of_mem (h : s.Lists sizes caps) (ht : t ∈ s.registry) : t = 0 ∨ t = 1 :=
  List.mem_pair.mp (h.registry ▸ ht)

theorem follows (h : s.Lists sizes caps) (pos : 1 ≤ sizes.object) (le : sizes.object ≤ 8) (ht : t ∈ s.registry) :
    s.Follows t := by
  have size : s.threads.size = 2 := congrArg Array.size h.threads
  rcases h.eq_of_mem ht with rfl | rfl <;>
    exact
      { inRange := size ▸ by decide
        alive := congrArg Thread.terminated (h.thread _)
        unasked := congrArg Thread.suspending (h.thread _)
        unstepped := congrArg Thread.stepping (h.thread _)
        fits := by
          rw [h.peer, h.thread]
          exact WireSession.fits_of_lt pos le (by decide)
        known := by
          rw [h.peer, h.thread]
          rfl }

theorem distinct (h : s.Lists sizes caps) {u : ThreadRef} (ht : t ∈ s.registry) (hu : u ∈ s.registry)
    (same : (s.thread t).id = (s.thread u).id) : t = u := by
  rw [h.thread, h.thread] at same
  rcases h.eq_of_mem ht with rfl | rfl <;> rcases h.eq_of_mem hu with rfl | rfl
  · rfl
  · exact absurd same (by decide)
  · exact absurd same (by decide)
  · rfl

theorem mirrors (h : s.Lists sizes caps) (ht : t ∈ s.registry) : s.Mirrors t := by
  rw [System.Mirrors, System.suspensions, h.thread, h.peer]
  rcases h.eq_of_mem ht with rfl | rfl
  · exact iff_of_true rfl Nat.one_pos
  · exact iff_of_false Bool.false_ne_true (Nat.lt_irrefl 0)

theorem restful (h : s.Lists sizes caps) (pos : 1 ≤ sizes.object) (le : sizes.object ≤ 8) (quiet : s.session.Quiet)
    (read : s.session.events.receive? s.reader = none) (up : s.shutdown = false) (nothing : s.ready = []) :
    s.Restful where
  quiet := quiet
  unarmed := congrArg Debuggee.armed h.peer
  read := read
  up := up
  nothing_ready := nothing
  follows _ ht := h.follows pos le ht
  distinct _ ht _ hu := h.distinct ht hu

end System.Lists

/-- To attach over a connection with a debuggee that was just started succeeds, and leaves nothing to do. -/
theorem attach_debuggee {client : Wire.Client Debuggee} {cs : ConnectionSettings} {sizes : IdSizes} {caps : List Bool}
    (connected : client.Connected cs (.start sizes caps)) (waits : cs.reply ≠ some 0) (pos : 1 ≤ sizes.object)
    (le : sizes.object ≤ 8) (settings : TargetSettings) :
    ∃ s, attach (WireSession.new client) settings = .ok s ∧ s.Lists sizes caps ∧ s.Restful := by
  obtain ⟨m₁, listed, a₁⟩ := WireSession.allThreads_granted (connected.quiet waits) connected.peer pos le
  obtain ⟨m₂, main, a₂⟩ := WireSession.isSystemThread_main a₁.quiet a₁.peer pos le
  obtain ⟨m₃, suspended, a₃⟩ := WireSession.threadIsSuspended_granted a₂.quiet a₂.peer (t := Debuggee.mainThread) rfl
    (WireSession.fits_of_lt pos le (by decide))
  obtain ⟨m₄, system, a₄⟩ := WireSession.isSystemThread_system a₃.quiet a₃.peer pos le
  obtain ⟨m₅, runs, a₅⟩ := WireSession.threadIsSuspended_granted a₄.quiet a₄.peer (t := Debuggee.systemThread) rfl
    (WireSession.fits_of_lt pos le (by decide))
  have added := Adds.cons (addThread_ok (s := { System.blank (WireSession.new client) settings with session := m₁ })
    rfl main suspended) (.cons (addThread_ok rfl system runs) (.nil _))
  have events : m₅.events = (WireSession.new client).events :=
    ((((a₁.trans a₂).trans a₃).trans a₄).trans a₅).events
  refine ⟨_, attach_ok listed added, (and_iff_left_of_imp fun lists => ?_).mpr ⟨rfl, rfl, a₅.peer⟩⟩
  exact lists.restful pos le a₅.quiet ((congrArg (Channel.receive? · _) events).trans (Channel.receive?_subscribe _))
    rfl rfl

end Debugger
