import Debugger.Proofs.Attachment

/-! # The suspended threads of a debuggee

A debugger that is attached to a debuggee which was just started, and from then on only suspends and resumes,
knows which threads are suspended, except that a thread which is resumed once counts as running however often it
had been suspended.
-/

namespace Debugger

open Wire

section

variable (sizes : IdSizes) (caps : List Bool) (cs : ConnectionSettings) (settings : TargetSettings)
  (pos : 1 ≤ sizes.object) (le : sizes.object ≤ 8)
  (small : ∀ n ∈ [sizes.field, sizes.method, sizes.object, sizes.type, sizes.frame], n < UInt32.size)
  (few : Packet.headerSize + caps.length ≤ Packet.maxSize) (handshake : cs.handshake ≠ 0) (waits : cs.reply ≠ some 0)
include pos le small few handshake waits

private theorem exists_attached :
    ∃ client s₀, Client.connect cs (Debuggee.start sizes caps) = (.ok (), client) ∧
      attach (WireSession.new client) settings = .ok s₀ ∧ s₀.Lists sizes caps ∧ s₀.Restful := by
  obtain ⟨client, connects, connected⟩ := Client.connect_debuggee (d := .start sizes caps) handshake waits small few
  obtain ⟨s₀, attached⟩ := attach_debuggee connected waits pos le settings
  exact ⟨client, s₀, connects, attached⟩

/-- After any calls, no thread counts as suspended that is not.  A suspended thread counts as running if and only
if the last call that came to it was a resume that found it suspended more than once. -/
theorem suspended_iff_unless_nested :
    ∃ client s₀, Client.connect cs (Debuggee.start sizes caps) = (.ok (), client) ∧
      attach (WireSession.new client) settings = .ok s₀ ∧
      ∀ trace s, Control.Runs s₀ trace s → ∀ t ∈ s.registry,
        ((s.thread t).isSuspended → 0 < s.suspensions t) ∧
        (((s.thread t).isSuspended ↔ 0 < s.suspensions t) ↔
          ∀ call ∈ Control.lastReaching t trace, call.2.suspends ∨ call.1.suspensions t ≤ 1) := by
  obtain ⟨client, s₀, connects, attached, lists, restful⟩ :=
    exists_attached sizes caps cs settings pos le small few handshake waits
  refine ⟨client, s₀, connects, attached, fun trace s runs t ht => ?_⟩
  have mirrored := (runs.mirrored restful fun u hu => lists.mirrors hu).2 t ht
  exact ⟨mirrored.suspended, mirrored.iff_unnested⟩

end

/-- Once the machine was suspended the debugger knows all there is to know. -/
theorem suspended_iff_of_suspendAll :
    ∃ client s₀ s, Client.connect {} (Debuggee.start {} Debuggee.usualCapabilities) = (.ok (), client) ∧
      attach (WireSession.new client) {} = .ok s₀ ∧ Control.Runs s₀ [(s₀, .suspendAll)] s ∧ s.registry = [0, 1] ∧
      ∀ t ∈ s.registry, (s.thread t).isSuspended ↔ 0 < s.suspensions t := by
  obtain ⟨client, s₀, connects, attached, known⟩ := suspended_iff_unless_nested {} Debuggee.usualCapabilities {} {}
    (by decide) (by decide) (by decide) (by decide) (by decide) (by decide)
  obtain ⟨client', s₀', connects', attached', lists, restful⟩ := exists_attached {} Debuggee.usualCapabilities {} {}
    (by decide) (by decide) (by decide) (by decide) (by decide) (by decide)
  obtain rfl : client = client' := (Prod.mk.inj (connects.symm.trans connects')).2
  obtain rfl : s₀ = s₀' := Except.ok.inj (attached.symm.trans attached')
  obtain ⟨s, performs, steps⟩ := Control.exists_performs restful (c := .suspendAll) (by simp [Control.thread?])
  have runs := Control.Runs.start.call performs
  refine ⟨client, s₀, s, connects, attached, runs, steps.registry.trans lists.registry, fun t ht => ?_⟩
  refine (known _ s runs t ht).2.mpr fun call last => .inl ?_
  obtain rfl : (s₀, Control.suspendAll) = call := Option.some.inj last
  rfl

/-- The machine is suspended and resumed, with a thread that was suspended from the start. -/
theorem running_but_suspended :
    ∃ client s₀ s₁ s₂, Client.connect {} (Debuggee.start {} Debuggee.usualCapabilities) = (.ok (), client) ∧
      attach (WireSession.new client) {} = .ok s₀ ∧
      Control.Runs s₀ [(s₁, .resumeAll), (s₀, .suspendAll)] s₂ ∧
      0 ∈ s₂.registry ∧ (s₂.thread 0).isSuspended = false ∧ s₂.suspensions 0 = 1 := by
  obtain ⟨client, s₀, connects, attached, lists, restful⟩ := exists_attached {} Debuggee.usualCapabilities {} {}
    (by decide) (by decide) (by decide) (by decide) (by decide) (by decide)
  obtain ⟨s₁, suspended, steps₁⟩ := Control.exists_performs restful (c := .suspendAll) (by simp [Control.thread?])
  obtain ⟨s₂, resumed, steps₂⟩ := Control.exists_performs steps₁.restful (c := .resumeAll) (by simp [Control.thread?])
  have listed₀ : 0 ∈ s₀.registry := by
    rw [lists.registry]
    exact List.mem_cons_self
  have listed₁ : 0 ∈ s₁.registry := steps₁.registry ▸ listed₀
  have once : s₀.suspensions 0 = 1 := by
    rw [System.suspensions, lists.thread, lists.peer]
    rfl
  refine ⟨client, s₀, s₁, s₂, connects, attached, (Control.Runs.start.call suspended).call resumed,
    steps₂.registry ▸ listed₁, steps₂.suspended listed₁, ?_⟩
  have twice : s₁.suspensions 0 = s₀.suspensions 0 + 1 := steps₁.suspensions listed₀
  have less : s₂.suspensions 0 = s₁.suspensions 0 - 1 := steps₂.suspensions listed₁
  rw [less, twice, once]

end Debugger
