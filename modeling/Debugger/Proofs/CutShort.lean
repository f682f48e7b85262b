import Debugger.Proofs.ReadingBack

/-! # Bytes that end too soon

A decoder needs some bytes if it reads them back and finds every proper prefix of them too short, so that
nothing else is read from a packet that was cut.  Decoders of one thing after another need the bytes of
all of them.
-/

namespace Debugger.Wire

/-- The packet was found too short. -/
def Underflows {α : Type} (r : Except Malformed α) : Prop :=
  ∃ need offset size, r = .error (.underflow need offset size)

namespace Decoder

variable {α β : Type} {d : Decoder α} {bs bs' : Bytes} {a : α}

/-- No proper prefix of the bytes is enough for the decoder. -/
def FindsShort (d : Decoder α) (bs : Bytes) : Prop :=
  ∀ offset front, front <+: bs → front ≠ bs → Underflows (d ⟨offset, front⟩)

/-- The decoder reads `a` from the bytes and needs all of them. -/
structure Needs (d : Decoder α) (bs : Bytes) (a : α) : Prop where
  reads : Reads d bs a
  short : FindsShort d bs

/-- What follows a decoder that finds the packet too short is not reached. -/
theorem underflows_bind {f : α → Decoder β} {c : Cursor} (h : Underflows (d c)) : Underflows ((d >>= f) c) := by
  obtain ⟨need, offset, size, h⟩ := h
  exact ⟨need, offset, size, by simp only [Bind.bind, StateT.bind, Except.bind, h]⟩

namespace FindsShort

theorem bind_left (h : FindsShort d bs) (f : α → Decoder β) : FindsShort (d >>= f) bs :=
  fun offset front hp hne => underflows_bind (h offset front hp hne)

/-- A packet that is cut ends within the first part, or after it and within the second. -/
theorem bind {f : α → Decoder β} (h : FindsShort d bs) (read : Reads d bs a) (hf : FindsShort (f a) bs') :
    FindsShort (d >>= f) (bs ++ bs') := by
  intro offset front hp hne
  rcases List.prefix_or_prefix_of_prefix hp (List.prefix_append bs bs') with within | ⟨front', rfl⟩
  · by_cases whole : front = bs
    · subst whole
      have left := read offset []
      rw [List.append_nil] at left
      rw [bind_of_ok left]
      refine hf _ [] List.nil_prefix fun hnil => hne ?_
      rw [← hnil, List.append_nil]
    · exact underflows_bind (h offset front within whole)
  · rw [bind_of_ok (read offset front')]
    exact hf _ front' ((List.prefix_append_right_inj bs).mp hp) fun same => hne (same ▸ rfl)

theorem map (f : α → β) (h : FindsShort d bs) : FindsShort (f <$> d) bs := by
  intro offset front hp hne
  obtain ⟨need, at', size, h⟩ := h offset front hp hne
  exact ⟨need, at', size, by simp only [Functor.map, StateT.map, Bind.bind, Except.bind, h]⟩

end FindsShort

namespace Needs

theorem pure (a : α) : Needs (Pure.pure a) [] a where
  reads := .pure a
  short _ _ hp hne := (hne (List.prefix_nil.mp hp)).elim

theorem bind {f : α → Decoder β} {b : β} (h : Needs d bs a) (hf : Needs (f a) bs' b) :
    Needs (d >>= f) (bs ++ bs') b := ⟨h.reads.bind hf.reads, h.short.bind h.reads hf.short⟩

theorem map (f : α → β) (h : Needs d bs a) : Needs (f <$> d) bs (f a) := ⟨h.reads.map f, h.short.map f⟩

/-- What was read last is only put into a form. -/
theorem bind_return (f : α → β) (h : Needs d bs a) : Needs (d >>= fun a => Pure.pure (f a)) bs (f a) :=
  ⟨h.reads.bind_return f, h.short.bind_left _⟩

end Needs

/-! ### Words -/

theorem needs_take (bs : Bytes) : Needs (take bs.length) bs bs where
  reads := reads_take bs
  short offset front hp hne := by
    have fewer : ¬bs.length ≤ front.length := fun enough => hne (hp.eq_of_length_le enough)
    exact ⟨_, _, _, if_neg fewer⟩

/-- A number of so many bytes is found short whatever it is. -/
private theorem short_number {bs : Bytes} {width : Nat} (h : bs.length = width) : FindsShort (number width) bs := by
  subst h
  exact ((needs_take bs).map Bytes.toNat).short

theorem needs_u8 (v : UInt8) : Needs u8 (Encode.u8 v) v := ⟨reads_u8 v, (short_number rfl).map _⟩

theorem needs_bool (b : Bool) : Needs bool (Encode.bool b) b := ⟨reads_bool b, ((short_number rfl).map _).map _⟩

theorem needs_u16 (v : UInt16) : Needs u16 (Encode.u16 v) v :=
  ⟨reads_u16 v, (short_number (Bytes.length_ofNat 2 _)).map _⟩

theorem needs_u32 (v : UInt32) : Needs u32 (Encode.u32 v) v :=
  ⟨reads_u32 v, (short_number (Bytes.length_ofNat 4 _)).map _⟩

theorem needs_i32 (v : Int32) : Needs i32 (Encode.i32 v) v := ⟨reads_i32 v, (needs_u32 _).short.map _⟩

theorem needs_u64 (v : UInt64) : Needs u64 (Encode.u64 v) v :=
  ⟨reads_u64 v, (short_number (Bytes.length_ofNat 8 _)).map _⟩

theorem needs_i64 (v : Int64) : Needs i64 (Encode.i64 v) v := ⟨reads_i64 v, (needs_u64 _).short.map _⟩

theorem needs_count {n : Nat} (h : n < UInt32.size) : Needs count (Encode.count n) n :=
  ⟨reads_count h, (needs_u32 _).short.map _⟩

theorem needs_ident {size : Nat} {v : UInt64} (pos : 1 ≤ size) (le : size ≤ 8) (h : v.toNat < Nat.pow 256 size) :
    Needs (ident size) (Encode.ident size v) v where
  reads := reads_ident pos le h
  short := by
    have valid : ¬(size = 0 ∨ size > 8) := by omega
    have width : (Encode.ident size v).length = size := by
      rw [Encode.ident, Bytes.length_ofNat]
      omega
    rw [ident, if_neg valid]
    exact (short_number width).map _

theorem needs_text {s : String} (short : (Text.Utf8.encode s).length < UInt32.size) :
    Needs text (Encode.text s) s where
  reads := reads_text short
  short := (needs_count short).short.bind (reads_count short) ((needs_take _).short.bind_left _)

end Decoder

end Debugger.Wire
