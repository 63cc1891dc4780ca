import Mathlib.Tactic

/-!
Big-endian integer fields of the RESPB wire format: the readers `read_u16_be`, `read_u32_be`
of `respb_parser.c` and the writers `respb_write_u16`, `respb_write_u32`, `respb_write_u64` of
`respb_serializer.c`, with the C shifts and masks. `be16` and `be32` spell a number's bytes,
most significant first. Each writer emits exactly these bytes, and each reader takes them back
to the number modulo the width of the field.
-/

namespace ProtocolBench.Respb

def readU16Be (b0 b1 : UInt8) : UInt16 := (b0.toUInt16 <<< 8) ||| b1.toUInt16

def readU32Be (b0 b1 b2 b3 : UInt8) : UInt32 :=
  (b0.toUInt32 <<< 24) ||| (b1.toUInt32 <<< 16) ||| (b2.toUInt32 <<< 8) ||| b3.toUInt32

def respbWriteU16 (val : UInt16) : List UInt8 :=
  [((val >>> 8) &&& 0xFF).toUInt8, (val &&& 0xFF).toUInt8]

def respbWriteU32 (val : UInt32) : List UInt8 :=
  [((val >>> 24) &&& 0xFF).toUInt8, ((val >>> 16) &&& 0xFF).toUInt8,
    ((val >>> 8) &&& 0xFF).toUInt8, (val &&& 0xFF).toUInt8]

def respbWriteU64 (val : UInt64) : List UInt8 :=
  [((val >>> 56) &&& 0xFF).toUInt8, ((val >>> 48) &&& 0xFF).toUInt8,
    ((val >>> 40) &&& 0xFF).toUInt8, ((val >>> 32) &&& 0xFF).toUInt8,
    ((val >>> 24) &&& 0xFF).toUInt8, ((val >>> 16) &&& 0xFF).toUInt8,
    ((val >>> 8) &&& 0xFF).toUInt8, (val &&& 0xFF).toUInt8]

def be16 (n : Nat) : List UInt8 := [UInt8.ofNat (n / 2 ^ 8), UInt8.ofNat n]

def be32 (n : Nat) : List UInt8 :=
  [UInt8.ofNat (n / 2 ^ 24), UInt8.ofNat (n / 2 ^ 16), UInt8.ofNat (n / 2 ^ 8), UInt8.ofNat n]

@[simp] theorem be16_length (n : Nat) : (be16 n).length = 2 := rfl

@[simp] theorem be32_length (n : Nat) : (be32 n).length = 4 := rfl

@[simp] theorem respbWriteU16_length (v : UInt16) : (respbWriteU16 v).length = 2 := rfl

@[simp] theorem respbWriteU32_length (v : UInt32) : (respbWriteU32 v).length = 4 := rfl

@[simp] theorem respbWriteU64_length (v : UInt64) : (respbWriteU64 v).length = 8 := rfl

theorem toNat_toUInt16 (b : UInt8) : b.toUInt16.toNat = b.toNat := by
  simp [UInt8.toUInt16, UInt16.toNat, Nat.toUInt16, UInt16.ofNat, UInt8.toNat]

theorem toNat_toUInt32 (b : UInt8) : b.toUInt32.toNat = b.toNat := by
  have := UInt8.toNat_lt_size b
  simp only [UInt8.size, UInt8.toNat] at this
  simp [UInt8.toUInt32, UInt32.toNat, Nat.toUInt32, UInt32.ofNat, UInt8.toNat]

theorem toNat_lor16 (a b : UInt16) : (a ||| b).toNat = a.toNat ||| b.toNat := by
  show (a.toBitVec ||| b.toBitVec).toNat = _
  simp [UInt16.toNat]

theorem toNat_lor32 (a b : UInt32) : (a ||| b).toNat = a.toNat ||| b.toNat := by
  show (a.toBitVec ||| b.toBitVec).toNat = _
  simp [UInt32.toNat]

theorem toNat_shiftLeft16 (a k : UInt16) :
    (a <<< k).toNat = a.toNat * 2 ^ (k.toNat % 16) % 2 ^ 16 := by
  show (a.toBitVec <<< (UInt16.mod k 16).toBitVec).toNat = _
  simp [UInt16.toNat, BitVec.shiftLeft_eq', Nat.shiftLeft_eq]
  rfl

theorem toNat_shiftLeft32 (a k : UInt32) :
    (a <<< k).toNat = a.toNat * 2 ^ (k.toNat % 32) % 2 ^ 32 := by
  show (a.toBitVec <<< (UInt32.mod k 32).toBitVec).toNat = _
  simp [UInt32.toNat, BitVec.shiftLeft_eq', Nat.shiftLeft_eq]
  rfl

/-- Or-ing in a number below `2 ^ k` adds it to a multiple of `2 ^ k`. -/
theorem or_eq_add (x b k : Nat) (hx : x % 2 ^ k = 0) (hb : b < 2 ^ k) : x ||| b = x + b := by
  have : x = 2 ^ k * (x / 2 ^ k) := by have := Nat.div_add_mod x (2 ^ k); omega
  rw [this, ← Nat.mul_add_lt_is_or hb]

theorem readU16Be_toNat (b0 b1 : UInt8) :
    (readU16Be b0 b1).toNat = b0.toNat * 2 ^ 8 + b1.toNat := by
  have h0 := UInt8.toNat_lt_size b0
  have h1 := UInt8.toNat_lt_size b1
  simp only [UInt8.size] at h0 h1
  rw [readU16Be, toNat_lor16, toNat_shiftLeft16, toNat_toUInt16, toNat_toUInt16,
    show (8 : UInt16).toNat % 16 = 8 from rfl, Nat.mod_eq_of_lt (by omega)]
  exact or_eq_add _ _ 8 (by omega) h1

theorem readU32Be_toNat (b0 b1 b2 b3 : UInt8) :
    (readU32Be b0 b1 b2 b3).toNat =
      b0.toNat * 2 ^ 24 + b1.toNat * 2 ^ 16 + b2.toNat * 2 ^ 8 + b3.toNat := by
  have h0 := UInt8.toNat_lt_size b0
  have h1 := UInt8.toNat_lt_size b1
  have h2 := UInt8.toNat_lt_size b2
  have h3 := UInt8.toNat_lt_size b3
  simp only [UInt8.size] at h0 h1 h2 h3
  rw [readU32Be, toNat_lor32, toNat_lor32, toNat_lor32, toNat_shiftLeft32, toNat_shiftLeft32,
    toNat_shiftLeft32, toNat_toUInt32, toNat_toUInt32, toNat_toUInt32, toNat_toUInt32,
    show (24 : UInt32).toNat % 32 = 24 from rfl, show (16 : UInt32).toNat % 32 = 16 from rfl,
    show (8 : UInt32).toNat % 32 = 8 from rfl, Nat.mod_eq_of_lt (by omega),
    Nat.mod_eq_of_lt (by omega), Nat.mod_eq_of_lt (by omega),
    or_eq_add (b0.toNat * 2 ^ 24) _ 24 (by omega) (by omega),
    or_eq_add (b0.toNat * 2 ^ 24 + b1.toNat * 2 ^ 16) _ 16 (by omega) (by omega),
    or_eq_add (b0.toNat * 2 ^ 24 + b1.toNat * 2 ^ 16 + b2.toNat * 2 ^ 8) _ 8 (by omega)
      (by omega)]

theorem toNat_ofNat8 (n : Nat) : (UInt8.ofNat n).toNat = n % 2 ^ 8 := by
  simp [UInt8.toNat, UInt8.ofNat]

/-- The reader of a 2-byte field takes `be16 n` back to `n` modulo `2 ^ 16`. -/
theorem readU16Be_be16 (n : Nat) :
    (readU16Be (UInt8.ofNat (n / 2 ^ 8)) (UInt8.ofNat n)).toNat = n % 2 ^ 16 := by
  rw [readU16Be_toNat, toNat_ofNat8, toNat_ofNat8]
  omega

theorem readU32Be_be32 (n : Nat) :
    (readU32Be (UInt8.ofNat (n / 2 ^ 24)) (UInt8.ofNat (n / 2 ^ 16)) (UInt8.ofNat (n / 2 ^ 8))
      (UInt8.ofNat n)).toNat = n % 2 ^ 32 := by
  rw [readU32Be_toNat, toNat_ofNat8, toNat_ofNat8, toNat_ofNat8, toNat_ofNat8]
  omega

theorem toUInt8_eq_ofNat16 (a : UInt16) : a.toUInt8 = UInt8.ofNat a.toNat := rfl

theorem toUInt8_eq_ofNat32 (a : UInt32) : a.toUInt8 = UInt8.ofNat a.toNat := rfl

theorem ofNat8_mod (n : Nat) : UInt8.ofNat (n % 2 ^ 8) = UInt8.ofNat n := by
  apply UInt8.toNat.inj
  rw [toNat_ofNat8, toNat_ofNat8, Nat.mod_mod]

theorem respbWriteU16_eq (v : UInt16) : respbWriteU16 v = be16 v.toNat := by
  simp only [respbWriteU16, be16, toUInt8_eq_ofNat16, List.cons.injEq, and_true]
  constructor
  · show UInt8.ofNat ((v.toBitVec >>> (UInt16.mod 8 16).toBitVec) &&& 0xFF#16).toNat = _
    rw [← ofNat8_mod (v.toNat / 2 ^ 8)]
    simp only [BitVec.toNat_and, BitVec.ushiftRight_eq', BitVec.toNat_ushiftRight,
      Nat.shiftRight_eq_div_pow, BitVec.toNat_ofNat]
    rw [show (UInt16.mod 8 16).toBitVec.toNat = 8 from rfl,
      show 255 % 2 ^ 16 = 2 ^ 8 - 1 from rfl, Nat.and_pow_two_sub_one_eq_mod]
    rfl
  · show UInt8.ofNat (v.toBitVec &&& 0xFF#16).toNat = _
    rw [← ofNat8_mod v.toNat]
    simp only [BitVec.toNat_and, BitVec.toNat_ofNat]
    rw [show 255 % 2 ^ 16 = 2 ^ 8 - 1 from rfl, Nat.and_pow_two_sub_one_eq_mod]
    rfl

theorem respbWriteU32_eq (v : UInt32) : respbWriteU32 v = be32 v.toNat := by
  simp only [respbWriteU32, be32, toUInt8_eq_ofNat32, List.cons.injEq, and_true]
  have shr : ∀ k : UInt32, k.toNat < 32 →
      (((v >>> k) &&& 0xFF).toNat) = v.toNat / 2 ^ k.toNat % 2 ^ 8 := by
    intro k hk
    show ((v.toBitVec >>> (UInt32.mod k 32).toBitVec) &&& 0xFF#32).toNat = _
    simp only [BitVec.toNat_and, BitVec.ushiftRight_eq', BitVec.toNat_ushiftRight,
      Nat.shiftRight_eq_div_pow, BitVec.toNat_ofNat]
    rw [show (UInt32.mod k 32).toBitVec.toNat = k.toNat % 32 from rfl, Nat.mod_eq_of_lt hk,
      show 255 % 2 ^ 32 = 2 ^ 8 - 1 from rfl, Nat.and_pow_two_sub_one_eq_mod]
    rfl
  refine ⟨?_, ?_, ?_, ?_⟩
  · rw [shr 24 (by decide), ofNat8_mod]; rfl
  · rw [shr 16 (by decide), ofNat8_mod]; rfl
  · rw [shr 8 (by decide), ofNat8_mod]; rfl
  · show UInt8.ofNat (v.toBitVec &&& 0xFF#32).toNat = _
    rw [← ofNat8_mod v.toNat]
    simp only [BitVec.toNat_and, BitVec.toNat_ofNat]
    rw [show 255 % 2 ^ 32 = 2 ^ 8 - 1 from rfl, Nat.and_pow_two_sub_one_eq_mod]
    rfl

/-- A 2-byte field keeps the low 16 bits of what is written into it. -/
theorem be16_mod (n : Nat) : be16 (n % 2 ^ 16) = be16 n := by
  simp only [be16, List.cons.injEq, and_true]
  constructor
  · rw [← ofNat8_mod, ← ofNat8_mod (n / 2 ^ 8)]; congr 1; omega
  · rw [← ofNat8_mod, ← ofNat8_mod n]; congr 1; omega

theorem be32_mod (n : Nat) : be32 (n % 2 ^ 32) = be32 n := by
  simp only [be32, List.cons.injEq, and_true]
  refine ⟨?_, ?_, ?_, ?_⟩
  · rw [← ofNat8_mod, ← ofNat8_mod (n / 2 ^ 24)]; congr 1; omega
  · rw [← ofNat8_mod, ← ofNat8_mod (n / 2 ^ 16)]; congr 1; omega
  · rw [← ofNat8_mod, ← ofNat8_mod (n / 2 ^ 8)]; congr 1; omega
  · rw [← ofNat8_mod, ← ofNat8_mod n]; congr 1; omega

/-- `respb_write_u16` of a `size_t` converted to `uint16_t`: the low 16 bits of the number. -/
theorem respbWriteU16_toUInt16 (n : Nat) : respbWriteU16 n.toUInt16 = be16 n := by
  rw [respbWriteU16_eq, show n.toUInt16.toNat = n % 2 ^ 16 from rfl, be16_mod]

theorem respbWriteU32_toUInt32 (n : Nat) : respbWriteU32 n.toUInt32 = be32 n := by
  rw [respbWriteU32_eq, show n.toUInt32.toNat = n % 2 ^ 32 from rfl, be32_mod]

end ProtocolBench.Respb
