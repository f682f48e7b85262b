import Debugger.Wire.Decode
import Debugger.Wire.Encode

/-! # Reading back what was written

A decoder reads some bytes if it takes exactly them off the front of a packet, wherever they stand in it.
What the decoders read of one thing after another follows their structure, down to the words that
`Debugger.Wire.Encode` writes.
-/

namespace Debugger.Wire.Decoder

variable {α β : Type} {d : Decoder α} {bs bs' : Bytes} {a : α}

/-- The decoder takes the bytes off the front and gives `a`, whatever follows. -/
def Reads (d : Decoder α) (bs : Bytes) (a : α) : Prop :=
  ∀ offset rest, d ⟨offset, bs ++ rest⟩ = .ok (a, ⟨offset + bs.length, rest⟩)

theorem bind_of_ok {f : α → Decoder β} {c c' : Cursor} (h : d c = .ok (a, c')) : (d >>= f) c = f a c' := by
  simp only [Bind.bind, StateT.bind, Except.bind, h]

theorem get_bind (f : Cursor → Decoder β) (c : Cursor) : (get >>= f) c = f c c := rfl

namespace Reads

/-- Bytes that follow do not matter to who reads a packet from its start. -/
theorem run_append (h : Reads d bs a) (rest : Bytes) : d.run (bs ++ rest) = .ok a := by
  rw [run, h]
  rfl

theorem run (h : Reads d bs a) : d.run bs = .ok a := by
  have := h.run_append []
  rwa [List.append_nil] at this

theorem pure (a : α) : Reads (Pure.pure a) [] a := fun _ _ => rfl

theorem bind {f : α → Decoder β} {b : β} (h : Reads d bs a) (hf : Reads (f a) bs' b) :
    Reads (d >>= f) (bs ++ bs') b := fun offset rest => by
  rw [List.append_assoc, List.length_append, ← Nat.add_assoc]
  rw [bind_of_ok (h offset _), hf]

theorem map (f : α → β) (h : Reads d bs a) : Reads (f <$> d) bs (f a) := fun offset rest => by
  simp only [Functor.map, StateT.map, Bind.bind, Except.bind, h offset, Pure.pure, Except.pure]

/-- What was read last is only put into a form. -/
theorem bind_return (f : α → β) (h : Reads d bs a) : Reads (d >>= fun a => Pure.pure (f a)) bs (f a) := by
  have read := h.bind (f := fun a => Pure.pure (f a)) (pure (f a))
  rwa [List.append_nil] at read

end Reads

/-! ### Words -/

theorem reads_take (bs : Bytes) : Reads (take bs.length) bs bs := fun offset rest => by
  simp [take]

theorem reads_number {width n : Nat} (h : n < Nat.pow 256 width) :
    Reads (number width) (.ofNat width n) n := by
  have taken := (reads_take (.ofNat width n)).map Bytes.toNat
  rwa [Bytes.length_ofNat, Bytes.toNat_ofNat h] at taken

/-- A word is read as a number and then as a word. -/
private theorem reads_word {width n : Nat} (f : Nat → α) (h : n < Nat.pow 256 width) :
    Reads (f <$> number width) (.ofNat width n) (f n) := (reads_number h).map f

theorem reads_u8 (v : UInt8) : Reads u8 (Encode.u8 v) v := by
  have word := reads_word UInt8.ofNat (show v.toNat < Nat.pow 256 1 from v.toNat_lt)
  rw [UInt8.ofNat_toNat] at word
  simpa [Bytes.ofNat, u8, Encode.u8] using word

theorem reads_bool (b : Bool) : Reads bool (Encode.bool b) b := by
  have flag := (reads_u8 (if b then 1 else 0)).map (· != 0)
  cases b <;> exact flag

theorem reads_u16 (v : UInt16) : Reads u16 (Encode.u16 v) v := by
  have word := reads_word UInt16.ofNat (show v.toNat < Nat.pow 256 2 from v.toNat_lt)
  rwa [UInt16.ofNat_toNat] at word

theorem reads_u32 (v : UInt32) : Reads u32 (Encode.u32 v) v := by
  have word := reads_word UInt32.ofNat (show v.toNat < Nat.pow 256 4 from v.toNat_lt)
  rwa [UInt32.ofNat_toNat] at word

theorem reads_i32 (v : Int32) : Reads i32 (Encode.i32 v) v := by
  have word := (reads_u32 v.toUInt32).map UInt32.toInt32
  rwa [Int32.toInt32_toUInt32] at word

theorem reads_u64 (v : UInt64) : Reads u64 (Encode.u64 v) v := by
  have word := reads_word UInt64.ofNat (show v.toNat < Nat.pow 256 8 from v.toNat_lt)
  rwa [UInt64.ofNat_toNat] at word

theorem reads_i64 (v : Int64) : Reads i64 (Encode.i64 v) v := by
  have word := (reads_u64 v.toUInt64).map UInt64.toInt64
  rwa [Int64.toInt64_toUInt64] at word

theorem reads_count {n : Nat} (h : n < UInt32.size) : Reads count (Encode.count n) n := by
  have word := (reads_u32 (.ofNat n)).map UInt32.toNat
  rwa [UInt32.toNat_ofNat_of_lt' h] at word

/-- An identifier that has room in the bytes of its kind. -/
theorem reads_ident {size : Nat} {v : UInt64} (pos : 1 ≤ size) (le : size ≤ 8) (h : v.toNat < Nat.pow 256 size) :
    Reads (ident size) (Encode.ident size v) v := by
  have word := reads_word UInt64.ofNat h
  have width : max 1 (min size 8) = size := by omega
  have valid : ¬(size = 0 ∨ size > 8) := by omega
  rw [UInt64.ofNat_toNat] at word
  rw [ident, Encode.ident, width, if_neg valid]
  exact word

/-- An identifier where zero stands for nothing. -/
theorem reads_ident? {size : Nat} {v : UInt64} (pos : 1 ≤ size) (le : size ≤ 8) (h : v.toNat < Nat.pow 256 size) :
    Reads (ident? size) (Encode.ident size v) (if v = 0 then none else some v) :=
  (reads_ident pos le h).bind_return fun v => if v = 0 then none else some v

theorem reads_text {s : String} (short : (Text.Utf8.encode s).length < UInt32.size) :
    Reads text (Encode.text s) s := fun offset rest => by
  have counted := reads_count short offset (Text.Utf8.encode s ++ rest)
  have taken := reads_take (Text.Utf8.encode s) (offset + (Encode.count (Text.Utf8.encode s).length).length) rest
  rw [Encode.text, List.append_assoc, List.length_append, ← Nat.add_assoc]
  rw [text, bind_of_ok counted, bind_of_ok taken, Text.Utf8.decode?_encode]
  rfl

/-! ### Sequences -/

theorem reads_times {f : α → Bytes} : {as : List α} → (∀ a ∈ as, Reads d (f a) a) →
    Reads (times d as.length) (as.flatMap f) as
  | [], _ => .pure []
  | a :: _, h => (h a (.head _)).bind ((reads_times fun b hb => h b (.tail _ hb)).bind_return (a :: ·))

theorem reads_list {f : α → Bytes} {as : List α} (short : as.length < UInt32.size) (h : ∀ a ∈ as, Reads d (f a) a) :
    Reads (list d) (Encode.list f as) as := (reads_count short).bind (reads_times h)

private theorem all_go {f : α → Bytes} (some_bytes : ∀ a, f a ≠ []) :
    ∀ {as : List α} (fuel offset : Nat), (∀ a ∈ as, Reads d (f a) a) → (as.flatMap f).length ≤ fuel →
      ∃ c, all.go d fuel ⟨offset, as.flatMap f⟩ = .ok (as, c)
  | [], 0, _, _, _ => ⟨_, rfl⟩
  | [], _ + 1, _, _, _ => ⟨_, rfl⟩
  | a :: as, fuel, offset, h, enough => by
    have long := List.length_pos_iff.mpr (some_bytes a)
    rw [List.flatMap_cons, List.length_append] at enough
    obtain ⟨fuel, rfl⟩ := Nat.exists_eq_succ_of_ne_zero (show fuel ≠ 0 by omega)
    have read := h a (.head _) offset (as.flatMap f)
    obtain ⟨c, rest⟩ := all_go some_bytes fuel (offset + (f a).length) (fun b hb => h b (.tail _ hb)) (by omega)
    have more : (f a ++ as.flatMap f).isEmpty = false :=
      List.isEmpty_eq_false_iff.mpr (List.append_ne_nil_of_left_ne_nil (some_bytes a) _)
    refine ⟨c, ?_⟩
    rw [List.flatMap_cons, all.go, get_bind, more, if_neg Bool.false_ne_true, bind_of_ok read, bind_of_ok rest]
    rfl

/-- Whoever reads all there is gets every piece, as each takes up some bytes. -/
theorem run_all {f : α → Bytes} {as : List α} (h : ∀ a ∈ as, Reads d (f a) a) (some_bytes : ∀ a, f a ≠ []) :
    (all d).run (as.flatMap f) = .ok as := by
  obtain ⟨c, read⟩ := all_go some_bytes _ 0 h (Nat.le_refl _)
  rw [run, all, get_bind, read]
  rfl

end Debugger.Wire.Decoder
