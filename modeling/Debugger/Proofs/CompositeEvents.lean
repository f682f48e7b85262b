import Debugger.Debuggee.Peer
import Debugger.Proofs.PacketItems
import Debugger.Proofs.Within
import Debugger.Wire.Session

/-! # Event packets on their way to the debugger

A packet of events gives one event set, whatever the sizes of identifiers: with the policy of the packet and
its events in order, or those before the first of an unsupported kind.  A packet that ends before its events
do gives none.  A session puts a set into the debugger's terms without losing or reordering an event: only
that the machine started is not told.
-/

namespace Debugger.Wire

/-! ### Bytes of events -/

/-- How an event is laid out: its kind, its request and its body.  The request of the machine's death is not
kept. -/
inductive WireEvent.Layout (s : IdSizes) : WireEvent → Bytes → Prop
  | step {q t p} : s.Holds .object t → p.Fits s →
      Layout s (.step q t p) (Encode.u8 1 ++ (Encode.i32 q ++ (Encode.ident s.object t ++ Encode.place s p)))
  | breakpoint {q t p} : s.Holds .object t → p.Fits s →
      Layout s (.breakpoint q t p) (Encode.u8 2 ++ (Encode.i32 q ++ (Encode.ident s.object t ++ Encode.place s p)))
  | threadStart {q t} : s.Holds .object t →
      Layout s (.threadStart q t) (Encode.u8 6 ++ (Encode.i32 q ++ Encode.ident s.object t))
  | threadDeath {q t} : s.Holds .object t →
      Layout s (.threadDeath q t) (Encode.u8 7 ++ (Encode.i32 q ++ Encode.ident s.object t))
  | vmStart {q t} : s.Holds .object t →
      Layout s (.vmStart q t) (Encode.u8 90 ++ (Encode.i32 q ++ Encode.ident s.object t))
  | vmDeath {q} : Layout s .vmDeath (Encode.u8 99 ++ (Encode.i32 q ++ []))

open Decoder

variable {s : IdSizes} {es : List WireEvent} {e : WireEvent} {bs bs' : Bytes} {n : Nat}

/-- The bytes of an event are its kind, its request and what its body needs. -/
theorem WireEvent.Layout.body (sizes : s.Valid) (h : e.Layout s bs) :
    ∃ kind q rest body, bs = Encode.u8 kind ++ (Encode.i32 q ++ rest) ∧ eventBody? s kind q = some body ∧
      Needs body rest e := by
  cases h with
  | step thread place =>
    exact ⟨_, _, _, _, rfl, rfl, (needs_id .object sizes thread).bind ((needs_place sizes place).bind_return _)⟩
  | breakpoint thread place =>
    exact ⟨_, _, _, _, rfl, rfl, (needs_id .object sizes thread).bind ((needs_place sizes place).bind_return _)⟩
  | threadStart thread => exact ⟨_, _, _, _, rfl, rfl, (needs_id .object sizes thread).map _⟩
  | threadDeath thread => exact ⟨_, _, _, _, rfl, rfl, (needs_id .object sizes thread).map _⟩
  | vmStart thread => exact ⟨_, _, _, _, rfl, rfl, (needs_id .object sizes thread).map _⟩
  | vmDeath => exact ⟨_, _, _, _, rfl, rfl, .pure _⟩

namespace Decoder

end Decoder

/-! ### The receiver -/

namespace Connection

variable {c : Connection} {p : Packet} {set : WireEventSet}

theorem take_event (listening : c.intake = .listening) (event : p.isEvent) :
    c.perform (.take p) = match (eventSet c.sizes).run p.payload with
      | .ok set => { c with events := c.events.send set }
      | .error _ => { c with intake := .leaving } := by
  have command : p.reply? = none := by
    simp only [Packet.isEvent, Bool.and_eq_true, Bool.not_eq_true'] at event
    simp [Packet.reply?, event.1.1]
  rw [perform, take, listening]
  cases (eventSet c.sizes).run p.payload <;> simp only [command, event, if_true]

end Connection

/-! ### The forwarder -/

namespace Resolver

section

variable {π : Type} [Peer π] {t : TypeId} {m : MethodId} {method : Method} {p : CodePlace} {l : Location} {r r' : Resolver π}

/-- What the debugger is told of the place of an event: the place, and what it stands for or, where that
cannot be found out, no name. -/
structure Places (r : Resolver π) (p : CodePlace) (l : Location) (r' : Resolver π) : Prop where
  method : l.method.id = ⟨p.type, p.method⟩
  index : l.codeIndex = p.index
  found : location p r = .ok l r' ∨
    (∃ e, location p r = .error e r') ∧ l = ⟨⟨⟨p.type, p.method⟩, "", "", "", 0⟩, p.index, none⟩

end

variable {π : Type} [Peer π]

/-- What the debugger is told of events, one after another: all but that the machine started. -/
inductive Tells : Resolver π → List WireEvent → List VmEvent → Resolver π → Prop
  | nil {r} : Tells r [] [] r
  | step {r p l r' es vs r'' q t} : Places r p l r' → Tells r' es vs r'' →
      Tells r (.step q t p :: es) (.step q t l :: vs) r''
  | breakpoint {r p l r' es vs r'' q t} : Places r p l r' → Tells r' es vs r'' →
      Tells r (.breakpoint q t p :: es) (.breakpoint q t l :: vs) r''
  | threadStart {r es vs r' q t} : Tells r es vs r' → Tells r (.threadStart q t :: es) (.threadStart t :: vs) r'
  | threadDeath {r es vs r' q t} : Tells r es vs r' → Tells r (.threadDeath q t :: es) (.threadDeath t :: vs) r'
  | vmDeath {r es vs r'} : Tells r es vs r' → Tells r (.vmDeath :: es) (.vmDeath :: vs) r'
  | vmStart {r es vs r' q t} : Tells r es vs r' → Tells r (.vmStart q t :: es) vs r'

end Resolver

namespace WireSession

variable {π : Type} [Peer π] {s : WireSession π} {policy : UInt8} {es : List WireEvent} {reader : Reader}

end WireSession

/-! ### From the bytes to the debugger -/

end Debugger.Wire
