import Debugger.Proofs.CutShort

/-! # Items of a packet

Whatever a packet is made of is read back as it was written: values, places, texts and identifiers, one
after another, whatever the sizes of identifiers.  Nothing else is read from a packet that was cut: the
items before the cut are read as they were, and the next one is found too short.
-/

namespace Debugger

namespace Wire

/-- The kinds of identifier that have a size of their own. -/
inductive IdKind where
  | field
  | method
  | object
  | type
  | frame
  deriving DecidableEq, Repr

namespace IdSizes

def of (s : IdSizes) : IdKind → Nat
  | .field => s.field
  | .method => s.method
  | .object => s.object
  | .type => s.type
  | .frame => s.frame

/-- Every identifier has between one and eight bytes. -/
def Valid (s : IdSizes) : Prop := ∀ k, 1 ≤ s.of k ∧ s.of k ≤ 8

/-- The identifier has room in the bytes of its kind. -/
def Holds (s : IdSizes) (k : IdKind) (v : UInt64) : Prop := v.toNat < Nat.pow 256 (s.of k)

instance (s : IdSizes) (k : IdKind) (v : UInt64) : Decidable (s.Holds k v) := inferInstanceAs (Decidable (_ < _))

end IdSizes

/-- The identifiers of the place have room. -/
def CodePlace.Fits (s : IdSizes) (p : CodePlace) : Prop := s.Holds .type p.type ∧ s.Holds .method p.method

instance (s : IdSizes) (p : CodePlace) : Decidable (p.Fits s) := inferInstanceAs (Decidable (_ ∧ _))

end Wire

open Wire

/-- A reference has room, and its tag announces no primitive value. -/
def Value.Fits (s : IdSizes) : Value → Prop
  | .object tag id => tag ∉ primitiveTags ∧ s.Holds .object id
  | _ => True

instance (s : IdSizes) : (v : Value) → Decidable (v.Fits s)
  | .object .. => inferInstanceAs (Decidable (_ ∧ _))
  | .boolean _ | .byte _ | .char _ | .short _ | .int _ | .long _ | .float _ | .double _ | .void => .isTrue trivial

namespace Wire

variable {s : IdSizes}

/-! ### Places and values -/

namespace Decoder

theorem needs_id (k : IdKind) {v : UInt64} (sizes : s.Valid) (h : s.Holds k v) :
    Needs (ident (s.of k)) (Encode.ident (s.of k) v) v := needs_ident (sizes k).1 (sizes k).2 h

theorem needs_place {p : CodePlace} (sizes : s.Valid) (h : p.Fits s) :
    Needs (place s) (Encode.place s p) p := by
  have read := (needs_u8 p.typeTag).bind (f := fun typeTag => do
      let type ← ident s.type
      let method ← ident s.method
      let index ← u64
      return ({ typeTag, type, method, index } : CodePlace)) <|
    (needs_id .type sizes h.1).bind <| (needs_id .method sizes h.2).bind <|
      (needs_u64 p.index).bind_return fun index => { p with index }
  rw [Encode.place, List.append_assoc, List.append_assoc]
  exact read

/-- A tag that announces no primitive value announces a reference. -/
theorem untagged_object {tag : UInt8} (h : tag ∉ Value.primitiveTags) :
    untagged s tag = Value.object tag <$> ident s.object := by
  simp only [Value.primitiveTags, List.mem_cons, List.not_mem_nil, or_false, not_or, ← UInt8.toNat_inj] at h
  unfold untagged
  split <;> simp_all

theorem needs_untagged {v : Value} (sizes : s.Valid) (h : v.Fits s) :
    Needs (untagged s v.tag) (Encode.untagged s v) v := by
  cases v with
  | boolean b => exact (needs_bool b).map Value.boolean
  | byte b =>
    have read := (needs_u8 b.toUInt8).map fun v => Value.byte v.toInt8
    rwa [Int8.toInt8_toUInt8] at read
  | char c => exact (needs_u16 c).map Value.char
  | short n =>
    have read := (needs_u16 n.toUInt16).map fun v => Value.short v.toInt16
    rwa [Int16.toInt16_toUInt16] at read
  | int n => exact (needs_i32 n).map Value.int
  | long n => exact (needs_i64 n).map Value.long
  | float bits => exact (needs_u32 bits).map Value.float
  | double bits => exact (needs_u64 bits).map Value.double
  | void => exact .pure Value.void
  | object tag id =>
    rw [Value.tag, untagged_object h.1]
    exact (needs_id .object sizes h.2).map _

theorem needs_value {v : Value} (sizes : s.Valid) (h : v.Fits s) : Needs (value s) (Encode.value s v) v :=
  (needs_u8 v.tag).bind (needs_untagged sizes h)

end Decoder

/-! ### One item after another -/

/-- Something that is written into a packet. -/
inductive Item where
  | value (v : Value)
  | place (p : CodePlace)
  | text (t : String)
  | ident (kind : IdKind) (id : UInt64)

namespace Item

/-- What a reader has to know of an item. -/
inductive Shape where
  | value
  | place
  | text
  | ident (kind : IdKind)

def shape : Item → Shape
  | value _ => .value
  | place _ => .place
  | text _ => .text
  | ident kind _ => .ident kind

def write (s : IdSizes) : Item → Bytes
  | value v => Encode.value s v
  | place p => Encode.place s p
  | text t => Encode.text t
  | ident kind id => Encode.ident (s.of kind) id

/-- The item can be written: its identifiers have room, and a text is not too long to count. -/
def Fits (s : IdSizes) : Item → Prop
  | value v => v.Fits s
  | place p => p.Fits s
  | text t => (Text.Utf8.encode t).length < UInt32.size
  | ident kind id => s.Holds kind id

instance (s : IdSizes) : (i : Item) → Decidable (i.Fits s)
  | value v => inferInstanceAs (Decidable (v.Fits s))
  | place p => inferInstanceAs (Decidable (p.Fits s))
  | text _ => inferInstanceAs (Decidable (_ < _))
  | ident kind id => inferInstanceAs (Decidable (s.Holds kind id))

end Item

open Decoder

def Item.Shape.read (s : IdSizes) : Item.Shape → Decoder Item
  | value => .value <$> Decoder.value s
  | place => .place <$> Decoder.place s
  | text => .text <$> Decoder.text
  | ident kind => .ident kind <$> Decoder.ident (s.of kind)

/-- Reads items one after another. -/
def Item.Shape.readAll (s : IdSizes) : List Item.Shape → Decoder (List Item)
  | [] => return []
  | k :: ks => do
    let i ← k.read s
    let is ← readAll s ks
    return i :: is

namespace Item

theorem needs_read {i : Item} (sizes : s.Valid) (h : i.Fits s) : Needs (i.shape.read s) (i.write s) i := by
  cases i with
  | value v => exact (needs_value sizes h).map value
  | place p => exact (needs_place sizes h).map place
  | text t => exact (needs_text h).map text
  | ident kind id => exact (needs_id kind sizes h).map (ident kind)

theorem reads_readAll (sizes : s.Valid) : {is : List Item} → (∀ i ∈ is, i.Fits s) →
    Reads (Shape.readAll s (is.map shape)) (is.flatMap (write s)) is
  | [], _ => .pure []
  | i :: _, h => (needs_read sizes (h i (.head _))).reads.bind
      ((reads_readAll sizes fun j hj => h j (.tail _ hj)).bind_return (i :: ·))

/-- The items before the cut are read as they were, and the next one is found too short. -/
theorem readAll_cut (sizes : s.Valid) {is : List Item} (fits : ∀ i ∈ is, i.Fits s) {front : Bytes}
    (hp : front <+: is.flatMap (write s)) (hne : front ≠ is.flatMap (write s)) (offset : Nat) :
    ∃ before i after c, is = before ++ i :: after ∧
      Shape.readAll s (before.map shape) ⟨offset, front⟩ = .ok (before, c) ∧ Underflows (i.shape.read s c) := by
  induction is generalizing front offset with
  | nil => exact (hne (List.prefix_nil.mp hp)).elim
  | cons i is ih =>
    have needs := needs_read sizes (fits i (.head _))
    rw [List.flatMap_cons] at hp hne
    by_cases whole : i.write s <+: front
    · obtain ⟨front, rfl⟩ := whole
      have read := needs.reads offset front
      have hp := (List.prefix_append_right_inj _).mp hp
      obtain ⟨before, j, after, c, rfl, readBefore, short⟩ :=
        ih (fun j hj => fits j (.tail _ hj)) hp (fun same => hne (same ▸ rfl)) (offset + (i.write s).length)
      refine ⟨i :: before, j, after, c, rfl, ?_, short⟩
      rw [List.map_cons, Shape.readAll, bind_of_ok read, bind_of_ok readBefore]
      rfl
    · have within := (List.prefix_or_prefix_of_prefix hp (List.prefix_append _ _)).resolve_right whole
      exact ⟨[], i, is, _, rfl, rfl, needs.short offset front within fun same => whole (same ▸ List.prefix_refl _)⟩

/-- Items are read back one after another, exactly as they were written and with what follows left over.
Where the packet was cut some read fails, and those before it give the items that were written. -/
theorem written_items_read_back (sizes : s.Valid) {is : List Item} (fits : ∀ i ∈ is, i.Fits s) (offset : Nat) :
    (∀ rest, Shape.readAll s (is.map shape) ⟨offset, is.flatMap (write s) ++ rest⟩ =
      .ok (is, ⟨offset + (is.flatMap (write s)).length, rest⟩)) ∧
    ∀ front, front <+: is.flatMap (write s) → front ≠ is.flatMap (write s) →
      ∃ before i after c, is = before ++ i :: after ∧
        Shape.readAll s (before.map shape) ⟨offset, front⟩ = .ok (before, c) ∧ Underflows (i.shape.read s c) :=
  ⟨fun rest => reads_readAll sizes fits offset rest, fun _ hp hne => readAll_cut sizes fits hp hne offset⟩

/-- A byte more than they need, an identifier of every size in use, and a text. -/
theorem mixed_items_read_back :
    let sizes : IdSizes := ⟨1, 2, 3, 8, 5⟩
    let items : List Item :=
      [.value (.int (-7)), .value (.object 76 0xBEEF), .place ⟨1, 0x123456789A, 258, 3⟩, .text "loop", .ident .field 255]
    Shape.readAll sizes (items.map shape) ⟨0, items.flatMap (write sizes) ++ [42]⟩ = .ok (items, ⟨37, [42]⟩) := by
  intro sizes items
  have valid : sizes.Valid := by
    intro k
    cases k <;> decide
  have fits : ∀ i ∈ items, i.Fits sizes := by
    decide
  exact (written_items_read_back valid fits 0).1 [42]

end Item

end Wire

end Debugger
