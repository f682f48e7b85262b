import Debugger.Wire.Packet

/-! # Packets in a stream

A stream that begins with the bytes of a packet begins with that packet, and goes on with what follows them:
the announced length covers the packet and nothing else.
-/

namespace Debugger.Wire

theorem Bytes.toNat_count {n : Nat} (h : n < UInt32.size) : Bytes.toNat (Encode.count n) = n := by
  rw [Encode.count, Encode.u32, UInt32.toNat_ofNat_of_lt' h]
  exact Bytes.toNat_ofNat h

theorem Bytes.toNat_u32 (v : UInt32) : Bytes.toNat (Encode.u32 v) = v.toNat :=
  Bytes.toNat_ofNat (show v.toNat < Nat.pow 256 4 from v.toNat_lt)

@[simp] theorem Encode.length_u32 (v : UInt32) : (Encode.u32 v).length = 4 := Bytes.length_ofNat 4 _

@[simp] theorem Encode.length_count (n : Nat) : (Encode.count n).length = 4 := Encode.length_u32 _

namespace Packet

/-! ### Replies -/

theorem isReply_reply (id : UInt32) (code : UInt16) (payload : Bytes) : (reply id code payload).isReply :=
  (by decide : (replyFlag &&& replyFlag != 0) = true)

/-- The two bytes of an error code make up the code. -/
theorem code_reply (id : UInt32) (code : UInt16) (payload : Bytes) : (reply id code payload).code = code := by
  have small := code.toNat_lt
  have high : code.toNat / 2 ^ 8 < 2 ^ 8 := by omega
  have shifted : (code.toNat / 2 ^ 8) <<< 8 < 2 ^ 16 := by
    rw [Nat.shiftLeft_eq]
    omega
  refine UInt16.toNat.inj ?_
  simp only [reply, Packet.code, UInt16.toNat_or, UInt16.toNat_shiftLeft, UInt8.toNat_toUInt16, UInt16.toNat_toUInt8,
    UInt16.toNat_shiftRight]
  rw [show (8 : UInt16).toNat % 16 = 8 from rfl, Nat.shiftRight_eq_div_pow, Nat.mod_eq_of_lt high,
    Nat.mod_eq_of_lt shifted, ← Nat.shiftLeft_add_eq_or_of_lt (Nat.mod_lt _ (by decide)), Nat.shiftLeft_eq]
  omega

/-! ### Packets among bytes -/

/-- The packet is not longer than packets may be. -/
def Fits (p : Packet) : Prop := headerSize + p.payload.length ≤ maxSize

theorem length_encode (p : Packet) : p.encode.length = headerSize + p.payload.length := by
  simp [encode, headerSize]
  omega

theorem front_encode {p : Packet} (h : p.Fits) (rest : Bytes) : front (p.encode ++ rest) = .packet p rest := by
  have fits : headerSize + p.payload.length ≤ maxSize := h
  have size : Bytes.toNat ((p.encode ++ rest).take 4) = headerSize + p.payload.length := by
    have : (p.encode ++ rest).take 4 = Encode.count (headerSize + p.payload.length) := by
      simp [encode]
    rw [this, Bytes.toNat_count (Nat.lt_of_le_of_lt fits (by decide))]
  have id : Bytes.toNat (((p.encode ++ rest).drop 4).take 4) = p.id.toNat := by
    have : ((p.encode ++ rest).drop 4).take 4 = Encode.u32 p.id := by
      simp [encode]
    rw [this, Bytes.toNat_u32]
  have header : (p.encode ++ rest).drop 8 = p.flags :: p.high :: p.low :: (p.payload ++ rest) := by
    simp [encode, List.drop_append]
  have tail : (p.encode ++ rest).drop (headerSize + p.payload.length) = rest := by
    rw [← length_encode, List.drop_left]
  have whole : (p.encode ++ rest).length = headerSize + p.payload.length + rest.length := by
    rw [List.length_append, length_encode]
  simp only [front, size, whole, id, header, tail]
  rw [if_neg (by omega), if_neg (by simp; omega), if_neg (by omega), Nat.add_sub_cancel_left, List.take_left,
    UInt32.ofNat_toNat]

theorem split_nil (n : Nat) : split n [] = ([], [], false) := by
  cases n <;> rfl

/-- Packets in a row are taken off one after another. -/
theorem split_encode {p : Packet} (h : p.Fits) (n : Nat) (rest : Bytes) :
    split (n + 1) (p.encode ++ rest) = (p :: (split n rest).1, (split n rest).2) := by
  rw [split, front_encode h]

/-- All that was sent is a row of packets, so all of them are there and nothing is left. -/
theorem split_flatMap_encode {ps : List Packet} (h : ∀ p ∈ ps, p.Fits) {n : Nat} (enough : ps.length ≤ n) :
    split n (ps.flatMap encode) = (ps, [], false) := by
  induction ps generalizing n with
  | nil => exact split_nil n
  | cons p ps ih =>
    obtain ⟨n, rfl⟩ := Nat.exists_eq_add_of_lt enough
    rw [List.flatMap_cons, show ps.length + n + 1 = (ps.length + n) + 1 from rfl, split_encode (h p (.head _)),
      ih (fun q hq => h q (.tail _ hq)) (Nat.le_add_right _ _)]

end Packet

end Debugger.Wire
