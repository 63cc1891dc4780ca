import ProtocolBench.Respb.ParseM

/-!
Byte strings in the parser's buffer. `BytesAt buf p bs` says that the buffer holds `bs` from offset
`p`; `argBytes` reads back the bytes of an argument slice. `str2` and `str4` are the
length-prefixed strings of the wire format, `[2B len][bytes]` and `[4B len][bytes]`, the fields
that `READ_STRING_2B` and `READ_STRING_4B` read. The lemmas say what the readers of the buffer
see when it holds such fields.
-/

namespace ProtocolBench.Respb

/-- The buffer holds the bytes `bs` from offset `p`. -/
def BytesAt (buf : Nat → UInt8) (p : Nat) (bs : List UInt8) : Prop :=
  ∀ i (h : i < bs.length), buf (p + i) = bs[i]

/-- The bytes of the slice `a` of the buffer. -/
def argBytes (buf : Nat → UInt8) (a : RespbArg) : List UInt8 :=
  (List.range a.len).map fun i => buf (a.data + i)

/-- `[2B len][bytes]`. -/
def str2 (d : List UInt8) : List UInt8 := be16 d.length ++ d

/-- `[4B len][bytes]`. -/
def str4 (d : List UInt8) : List UInt8 := be32 d.length ++ d

@[simp] theorem str2_length (d : List UInt8) : (str2 d).length = 2 + d.length := by
  simp [str2]

@[simp] theorem str4_length (d : List UInt8) : (str4 d).length = 4 + d.length := by
  simp [str4]

section BytesAt

variable {buf : Nat → UInt8} {p : Nat}

@[simp] theorem bytesAt_nil : BytesAt buf p [] := fun _ h => absurd h (Nat.not_lt_zero _)

theorem bytesAt_append {xs ys : List UInt8} :
    BytesAt buf p (xs ++ ys) ↔ BytesAt buf p xs ∧ BytesAt buf (p + xs.length) ys := by
  constructor
  · intro h
    refine ⟨fun i hi => ?_, fun i hi => ?_⟩
    · rw [h i (by simp; omega), List.getElem_append_left hi]
    · rw [List.getElem_append_right' xs hi, ← h (i + xs.length) (by simp; omega)]
      congr 1; omega
  · rintro ⟨hx, hy⟩ i hi
    by_cases hlt : i < xs.length
    · rw [List.getElem_append_left hlt, hx i hlt]
    · have hj : i - xs.length < ys.length := by simp at hi; omega
      rw [List.getElem_append_right (by omega), ← hy _ hj]
      congr 1; omega

theorem argBytes_of_bytesAt {d : List UInt8} (h : BytesAt buf p d) :
    argBytes buf ⟨p, d.length⟩ = d := by
  apply List.ext_getElem (by simp [argBytes])
  intro i h₁ h₂
  simp only [argBytes, List.getElem_map, List.getElem_range]
  exact h i h₂

theorem u16_of_bytesAt {s : ParseState} {n : Nat} (h : BytesAt s.buffer p (be16 n)) :
    s.u16 p = n % 2 ^ 16 := by
  have h0 := h 0 (by simp)
  have h1 := h 1 (by simp)
  simp only [Nat.add_zero, be16, List.getElem_cons_zero, List.getElem_cons_succ] at h0 h1
  rw [ParseState.u16, h0, h1, readU16Be_be16]

theorem u32_of_bytesAt {s : ParseState} {n : Nat} (h : BytesAt s.buffer p (be32 n)) :
    (s.u32 p).toNat = n % 2 ^ 32 := by
  have h0 := h 0 (by simp)
  have h1 := h 1 (by simp)
  have h2 := h 2 (by simp)
  have h3 := h 3 (by simp)
  simp only [Nat.add_zero, be32, List.getElem_cons_zero, List.getElem_cons_succ] at h0 h1 h2 h3
  rw [ParseState.u32, h0, h1, h2, h3, readU32Be_be32]

end BytesAt

end ProtocolBench.Respb
