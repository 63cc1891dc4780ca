import ProtocolBench.Respb.RoundTrip

/-!
The capacity contract of `respb_serialize_command`. Each case checks `pos + n > buf_len` before
it writes its next `n` bytes, and its checks cover every byte of its frame, so for a record whose
`argc` is within `RESPB_MAX_ARGS` the call returns the frame its case lays out when the case's
arity holds and the frame fits `buf_len`, and 0 otherwise: no write falls outside `buf`, and the
frame does not depend on `buf_len`. A length field holds the low bits of the length, as
`respb_write_u16` and `respb_write_u32` keep them, so an argument of `2^16` bytes or more behind
a 2-byte prefix is copied in full under a prefix that announces fewer bytes.
-/

namespace ProtocolBench.Respb
open SerializeM

/-- The case of `respb_serialize_command`'s `switch` an opcode falls in. -/
inductive SerializeCase where
  | single | set | append | incrby | keys | mset | push | hset | hget | empty | module
  | passthrough | generic
  deriving DecidableEq, Repr

/-- The `case` labels of the `switch`, in the order of `serializePayload`. -/
def serializeCase : Option Op → SerializeCase
  | some .get | some .incr | some .decr | some .ttl | some .llen | some .scard => .single
  | some .set => .set
  | some .append => .append
  | some .incrby | some .decrby => .incrby
  | some .mget | some .del | some .«exists» => .keys
  | some .mset => .mset
  | some .lpush | some .rpush | some .sadd => .push
  | some .hset => .hset
  | some .hget => .hget
  | some .ping | some .multi | some .exec => .empty
  | some .module => .module
  | some .respPassthrough => .passthrough
  | _ => .generic

/-- The arity each case checks before it writes: its minimum `argc`, and the parity of the
pairs of MSET and HSET. -/
def SerializeCase.arityOk : SerializeCase → Nat → Bool
  | .single, argc | .incrby, argc | .push, argc => 1 ≤ argc
  | .set, argc | .append, argc | .hget, argc => 2 ≤ argc
  | .mset, argc => 2 ≤ argc ∧ argc % 2 = 0
  | .hset, argc => 1 ≤ argc ∧ (argc - 1) % 2 = 0
  | _, _ => true

/-- The opcode taken for each case: every opcode of a case runs the same code. -/
def SerializeCase.rep : SerializeCase → Option Op
  | .single => some .get | .set => some .set | .append => some .append
  | .incrby => some .incrby | .keys => some .mget | .mset => some .mset | .push => some .lpush
  | .hset => some .hset | .hget => some .hget | .empty => some .ping | .module => some .module
  | .passthrough => some .respPassthrough | .generic => none

/-- `respb_serialize_command` runs the code of the case of its opcode. -/
theorem serializePayload_eq_rep (mem : Nat → UInt8) (bufLen : Nat) (cmd : RespbCommand)
    (o : Option Op) :
    serializePayload mem bufLen cmd o = serializePayload mem bufLen cmd (serializeCase o).rep := by
  rcases o with _ | op
  · rfl
  · cases op <;> rfl

section Layout

variable (mem : Nat → UInt8) (cmd : RespbCommand)

/-- `[2B len][args[k]]` for `k` in `[first, first + n)`. -/
def RespbCommand.argStrs (first n : Nat) : List UInt8 :=
  strs2 ((List.range' first n).map (cmd.argBytesAt mem))

/-- `[2B len][args[k]][4B len][args[k+1]]` for the `n` pairs from `args[first]`. -/
def RespbCommand.argPairs (first n : Nat) : List UInt8 :=
  pairs24 ((List.range' first n 2).map fun k => (cmd.argBytesAt mem k, cmd.argBytesAt mem (k + 1)))

/-- The module payload after the 8-byte header: JSON.SET `[2B key][2B path][4B json][1B flags]`,
BF.ADD and FT.SEARCH two strings, any other command the arguments. -/
def RespbCommand.modulePayload : List UInt8 :=
  if cmd.moduleId = respbModuleJson then
    if cmd.commandId = 0x0000 ∧ 3 ≤ cmd.argc then
      str2 (cmd.argBytesAt mem 0) ++ str2 (cmd.argBytesAt mem 1) ++ str4 (cmd.argBytesAt mem 2) ++ [0]
    else cmd.argStrs mem 0 cmd.argc
  else if cmd.moduleId = respbModuleBf then
    if cmd.commandId = 0x0000 ∧ 2 ≤ cmd.argc then
      str2 (cmd.argBytesAt mem 0) ++ str2 (cmd.argBytesAt mem 1)
    else cmd.argStrs mem 0 cmd.argc
  else if cmd.moduleId = respbModuleFt then
    if cmd.commandId = 0x0001 ∧ 2 ≤ cmd.argc then
      str2 (cmd.argBytesAt mem 0) ++ str2 (cmd.argBytesAt mem 1)
    else cmd.argStrs mem 0 cmd.argc
  else cmd.argStrs mem 0 cmd.argc

/-- The header each case leaves in `buf[0..)`: `[2B opcode][2B mux_id]`, which the module and
passthrough cases rewrite as their 8-byte headers. -/
def RespbCommand.frameHeader : SerializeCase → List UInt8
  | .module => respbHeader .module cmd.muxId ++ be32 cmd.moduleSubcommand.toNat
  | .passthrough => respbHeader .respPassthrough cmd.muxId ++ be32 cmd.respLength.toNat
  | _ => be16 cmd.opcode.toNat ++ be16 cmd.muxId.toNat

/-- What each case lays out after its header, as the comments on the cases give it. -/
def RespbCommand.payload : SerializeCase → List UInt8
  | .single => str2 (cmd.argBytesAt mem 0)
  | .set => str2 (cmd.argBytesAt mem 0) ++ str4 (cmd.argBytesAt mem 1) ++ [0] ++ respbWriteU64 0
  | .append => str2 (cmd.argBytesAt mem 0) ++ str4 (cmd.argBytesAt mem 1)
  | .incrby => str2 (cmd.argBytesAt mem 0) ++ respbWriteU64 1
  | .keys | .generic => be16 cmd.argc ++ cmd.argStrs mem 0 cmd.argc
  | .mset => be16 (cmd.argc / 2) ++ cmd.argPairs mem 0 (cmd.argc / 2)
  | .push => str2 (cmd.argBytesAt mem 0) ++ be16 (cmd.argc - 1) ++ cmd.argStrs mem 1 (cmd.argc - 1)
  | .hset =>
    str2 (cmd.argBytesAt mem 0) ++ be16 ((cmd.argc - 1) / 2) ++ cmd.argPairs mem 1 ((cmd.argc - 1) / 2)
  | .hget => str2 (cmd.argBytesAt mem 0) ++ str2 (cmd.argBytesAt mem 1)
  | .empty => []
  | .module => cmd.modulePayload mem
  | .passthrough => argBytes mem ⟨cmd.respData, cmd.respLength.toNat⟩

/-- The frame the case of the record's opcode lays out. -/
def respbFrame : List UInt8 :=
  cmd.frameHeader (serializeCase (Op.ofCode cmd.opcode)) ++
    cmd.payload mem (serializeCase (Op.ofCode cmd.opcode))

end Layout

theorem RespbCommand.argBytesAt_of_lt (mem : Nat → UInt8) (cmd : RespbCommand) {k : Nat}
    (hk : k < respbMaxArgs) : cmd.argBytesAt mem k = argBytes mem (cmd.args ⟨k, hk⟩) :=
  dif_pos hk

namespace SerializeM

/-- From any `buf[0..pos)` with room below `buf_len` for `p` more bytes, `m` returns `a` and
appends `bs` when `bs` fits, and returns 0 when it does not. A step that checks before it writes
needs no room (`p = 0`); writes that an earlier check covered need room for their bytes. -/
structure Fits {α : Type} (bufLen p : Nat) (m : SerializeM α) (a : α) (bs : List UInt8) :
    Prop where
  run : ∀ out : List UInt8, out.length + p ≤ bufLen →
    m out = if out.length + bs.length ≤ bufLen then .ok (a, out ++ bs) else .error .declined

section Fits

variable {α β : Type} {bufLen : Nat} {mem : Nat → UInt8} {cmd : RespbCommand}

theorem Fits.of_eq {p : Nat} {m : SerializeM α} {a : α} {bs bs' : List UInt8}
    (h : Fits bufLen p m a bs) (e : bs = bs') : Fits bufLen p m a bs' := e ▸ h

/-- A test of the code that the layout makes as well. -/
theorem fits_ite {c : Prop} [Decidable c] {p : Nat} {m m' : SerializeM α} {a : α}
    {bs bs' : List UInt8} (h : c → Fits bufLen p m a bs) (h' : ¬c → Fits bufLen p m' a bs') :
    Fits bufLen p (if c then m else m') a (if c then bs else bs') := by
  split_ifs with hc
  exacts [h hc, h' hc]

/-- Writes with no check of their own need room for what they write. -/
theorem Emits.fits {m : SerializeM α} {a : α} {bs : List UInt8} (h : Emits bufLen m a bs) :
    Fits bufLen bs.length m a bs :=
  ⟨fun out hout => by rw [h.run out hout, if_pos hout]⟩

theorem fits_pure (a : α) : Fits bufLen 0 (pure a : SerializeM α) a [] :=
  ⟨fun out hout => by rw [List.length_nil, if_pos hout, List.append_nil]; rfl⟩

theorem fits_argAt {i : Nat} (hi : i < respbMaxArgs) :
    Fits bufLen 0 (argAt cmd i) (cmd.args ⟨i, hi⟩) [] :=
  ⟨fun out hout => by rw [argAt, dif_pos hi, List.length_nil, if_pos hout, List.append_nil]⟩

/-- A step, then a step that checks before it writes. -/
theorem fits_bind {p : Nat} {m : SerializeM α} {f : α → SerializeM β} {a : α} {b : β}
    {bs₁ bs₂ : List UInt8} (h₁ : Fits bufLen p m a bs₁) (h₂ : Fits bufLen 0 (f a) b bs₂) :
    Fits bufLen p (m >>= f) b (bs₁ ++ bs₂) :=
  ⟨fun out hout => by
    show (m out >>= fun q => f q.1 q.2) = _
    rw [h₁.run out hout, List.length_append, ← Nat.add_assoc]
    by_cases h : out.length + bs₁.length ≤ bufLen
    · rw [if_pos h]
      show f a (out ++ bs₁) = _
      rw [h₂.run _ (by simpa using h), List.length_append, List.append_assoc]
    · rw [if_neg h, if_neg (by omega)]
      rfl⟩

/-- Writes whose room an earlier check covered, then the rest of the case. -/
theorem fits_emits_bind {q : Nat} {m : SerializeM α} {f : α → SerializeM β} {a : α} {b : β}
    {bs₁ bs₂ : List UInt8} (h₁ : Emits bufLen m a bs₁) (h₂ : Fits bufLen q (f a) b bs₂) :
    Fits bufLen (bs₁.length + q) (m >>= f) b (bs₁ ++ bs₂) :=
  ⟨fun out hout => by
    show (m out >>= fun r => f r.1 r.2) = _
    rw [h₁.run out (by omega)]
    show f a (out ++ bs₁) = _
    rw [h₂.run _ (by simp only [List.length_append]; omega), List.length_append,
      List.length_append, List.append_assoc, Nat.add_assoc]⟩

/-- `if (pos + n > buf_len) return 0;` before the writes it covers: `n` is at least the room they
need and at most the bytes they write. -/
theorem fits_need {p n : Nat} {m : SerializeM α} {a : α} {bs : List UInt8}
    (h : Fits bufLen p m a bs) (hp : p ≤ n) (hn : n ≤ bs.length) :
    Fits bufLen 0 (need bufLen n >>= fun _ => m) a bs :=
  ⟨fun out _ => by
    show (need bufLen n out >>= fun r => m r.2) = _
    unfold need
    by_cases hc : out.length + n > bufLen
    · rw [if_pos hc, if_neg (by omega)]
      rfl
    · rw [if_neg hc]
      exact h.run out (by omega)⟩

/-- A check that covers exactly the writes after it. -/
theorem fits_need_emits {n : Nat} {m : SerializeM α} {a : α} {bs : List UInt8}
    (h : Emits bufLen m a bs) (hn : bs.length = n) :
    Fits bufLen 0 (need bufLen n >>= fun _ => m) a bs :=
  fits_need h.fits hn.le hn.ge

theorem fits_emitArgsFrom : ∀ i n, i + n ≤ respbMaxArgs →
    Fits bufLen 0 (emitArgsFrom mem bufLen cmd i n) () (cmd.argStrs mem i n)
  | _, 0, _ => fits_pure ()
  | i, n + 1, hin => by
    have hi : i < respbMaxArgs := by omega
    rw [RespbCommand.argStrs, strs2_range'_succ hi]
    exact (fits_bind (fits_argAt hi) (fits_need (fits_emits_bind (emits_emitString2B _)
      (fits_emitArgsFrom _ _ (by omega))) (by simp) (by simp))).of_eq (List.nil_append _)

theorem fits_emitPairsFrom : ∀ i n, i + 2 * n ≤ respbMaxArgs →
    Fits bufLen 0 (emitPairsFrom mem bufLen cmd i n) () (cmd.argPairs mem i n)
  | _, 0, _ => fits_pure ()
  | i, n + 1, hin => by
    have hi : i + 1 < respbMaxArgs := by omega
    rw [RespbCommand.argPairs, pairs24_range'_succ hi]
    refine (fits_bind (fits_argAt (by omega)) (fits_bind (fits_argAt hi) (fits_need
      (fits_emits_bind (emits_emitString2B _) (fits_emits_bind (emits_emitString4B _)
        (fits_emitPairsFrom _ _ (by omega)))) (by simp; omega) (by simp; omega)))).of_eq ?_
    simp only [List.nil_append, List.append_assoc]
    rfl

/-- The run of a whole case from `buf[0..pos)`, as `respb_serialize_command` reports it. -/
theorem Fits.run_map {m : SerializeM Unit} {bs : List UInt8} (h : Fits bufLen 0 m () bs)
    {out : List UInt8} (hout : out.length ≤ bufLen) :
    (m.run out).map Prod.snd =
      if (out ++ bs).length ≤ bufLen then .ok (out ++ bs) else .error .declined := by
  rw [StateT.run, h.run out (by omega), List.length_append]
  split <;> rfl

/-- The module and passthrough cases: `if (buf_len < 8) return 0;`, the 8-byte header over
`buf[0..8)`, then the rest of the case. -/
theorem rewriteHeader_fits {hdr bs : List UInt8} {m : SerializeM Unit} (hhdr : hdr.length = 8)
    (h : Fits bufLen 0 m () bs) (out : List UInt8) :
    ((if bufLen < 8 then decline else rewriteHeader bufLen hdr >>= fun _ => m).run
        out).map Prod.snd =
      if (hdr ++ bs).length ≤ bufLen then .ok (hdr ++ bs) else .error .declined := by
  by_cases h8 : bufLen < 8
  · rw [if_pos h8, if_neg (by simp only [List.length_append, hhdr]; omega)]
    rfl
  · rw [if_neg h8]
    show ((rewriteHeader bufLen hdr out >>= fun r => m r.2).map Prod.snd) = _
    rw [rewriteHeader, if_neg (by omega)]
    exact h.run_map (show hdr.length ≤ bufLen by omega)

end Fits

end SerializeM

section Cases

variable {bufLen : Nat} {mem : Nat → UInt8} {cmd : RespbCommand}

theorem fits_single (har : SerializeCase.single.arityOk cmd.argc) :
    Fits bufLen 0 (serializePayload mem bufLen cmd (some .get)) () (cmd.payload mem .single) := by
  have h0 : 0 < respbMaxArgs := by decide
  have : 1 ≤ cmd.argc := by simpa [SerializeCase.arityOk] using har
  unfold serializePayload
  dsimp only
  rw [if_neg (by omega)]
  exact (fits_bind (fits_argAt h0) (fits_need_emits (emits_emitString2B _) (by simp))).of_eq
    (by simp [RespbCommand.payload, RespbCommand.argBytesAt_of_lt mem cmd h0])

theorem fits_set (har : SerializeCase.set.arityOk cmd.argc) :
    Fits bufLen 0 (serializePayload mem bufLen cmd (some .set)) () (cmd.payload mem .set) := by
  have h0 : 0 < respbMaxArgs := by decide
  have h1 : 1 < respbMaxArgs := by decide
  have : 2 ≤ cmd.argc := by simpa [SerializeCase.arityOk] using har
  unfold serializePayload
  dsimp only
  rw [if_neg (by omega)]
  exact (fits_bind (fits_argAt h0) (fits_bind (fits_argAt h1) (fits_need_emits
    (emits_bind (emits_emitString2B _) (emits_bind (emits_emitString4B _)
      (emits_bind (emits_emit _) (emits_emit _)))) (by simp [respbWriteU64]; omega)))).of_eq
    (by simp [RespbCommand.payload, RespbCommand.argBytesAt_of_lt mem cmd h0,
      RespbCommand.argBytesAt_of_lt mem cmd h1])

theorem fits_append (har : SerializeCase.append.arityOk cmd.argc) :
    Fits bufLen 0 (serializePayload mem bufLen cmd (some .append)) () (cmd.payload mem .append) := by
  have h0 : 0 < respbMaxArgs := by decide
  have h1 : 1 < respbMaxArgs := by decide
  have : 2 ≤ cmd.argc := by simpa [SerializeCase.arityOk] using har
  unfold serializePayload
  dsimp only
  rw [if_neg (by omega)]
  exact (fits_bind (fits_argAt h0) (fits_bind (fits_argAt h1) (fits_need_emits
    (emits_bind (emits_emitString2B _) (emits_emitString4B _)) (by simp; omega)))).of_eq
    (by simp [RespbCommand.payload, RespbCommand.argBytesAt_of_lt mem cmd h0,
      RespbCommand.argBytesAt_of_lt mem cmd h1])

theorem fits_incrby (har : SerializeCase.incrby.arityOk cmd.argc) :
    Fits bufLen 0 (serializePayload mem bufLen cmd (some .incrby)) () (cmd.payload mem .incrby) := by
  have h0 : 0 < respbMaxArgs := by decide
  have : 1 ≤ cmd.argc := by simpa [SerializeCase.arityOk] using har
  unfold serializePayload
  dsimp only
  rw [if_neg (by omega)]
  exact (fits_bind (fits_argAt h0) (fits_need_emits
    (emits_bind (emits_emitString2B _) (emits_emit _)) (by simp [respbWriteU64]))).of_eq
    (by simp [RespbCommand.payload, RespbCommand.argBytesAt_of_lt mem cmd h0])

/-- MGET, DEL, EXISTS, and the fallback for any other opcode: `[2B argc]`, then the arguments. -/
theorem fits_keys (hargc : cmd.argc ≤ respbMaxArgs) :
    Fits bufLen 0 (serializePayload mem bufLen cmd (some .mget)) () (cmd.payload mem .keys) := by
  unfold serializePayload
  dsimp only
  exact (fits_need (fits_emits_bind (emits_emit _) (fits_emitArgsFrom 0 cmd.argc (by omega)))
    (by simp) (by simp)).of_eq (by rw [respbWriteU16_toUInt16]; rfl)

theorem fits_mset (hargc : cmd.argc ≤ respbMaxArgs) (har : SerializeCase.mset.arityOk cmd.argc) :
    Fits bufLen 0 (serializePayload mem bufLen cmd (some .mset)) () (cmd.payload mem .mset) := by
  have : 2 ≤ cmd.argc ∧ cmd.argc % 2 = 0 := by simpa [SerializeCase.arityOk] using har
  unfold serializePayload
  dsimp only
  rw [if_neg (by omega)]
  refine (fits_need (fits_emits_bind (emits_emit _) (fits_emitPairsFrom 0 ((cmd.argc + 1) / 2)
    (by omega))) (by simp) (by simp)).of_eq ?_
  rw [respbWriteU16_toUInt16, show (cmd.argc + 1) / 2 = cmd.argc / 2 by omega]
  rfl

theorem fits_push (hargc : cmd.argc ≤ respbMaxArgs) (har : SerializeCase.push.arityOk cmd.argc) :
    Fits bufLen 0 (serializePayload mem bufLen cmd (some .lpush)) () (cmd.payload mem .push) := by
  have h0 : 0 < respbMaxArgs := by decide
  have : 1 ≤ cmd.argc := by simpa [SerializeCase.arityOk] using har
  unfold serializePayload
  dsimp only
  rw [if_neg (by omega)]
  exact (fits_bind (fits_argAt h0) (fits_need (fits_emits_bind (emits_emitString2B _)
    (fits_emits_bind (emits_emit _) (fits_emitArgsFrom 1 (cmd.argc - 1) (by omega))))
    (by simp) (by simp))).of_eq
    (by simp [RespbCommand.payload, RespbCommand.argBytesAt_of_lt mem cmd h0,
      respbWriteU16_toUInt16])

theorem fits_hset (hargc : cmd.argc ≤ respbMaxArgs) (har : SerializeCase.hset.arityOk cmd.argc) :
    Fits bufLen 0 (serializePayload mem bufLen cmd (some .hset)) () (cmd.payload mem .hset) := by
  have h0 : 0 < respbMaxArgs := by decide
  have : 1 ≤ cmd.argc ∧ (cmd.argc - 1) % 2 = 0 := by simpa [SerializeCase.arityOk] using har
  unfold serializePayload
  dsimp only
  rw [if_neg (by omega)]
  refine (fits_bind (fits_argAt h0) (fits_need (fits_emits_bind (emits_emitString2B _)
    (fits_emits_bind (emits_emit _) (fits_emitPairsFrom 1 (cmd.argc / 2) (by omega))))
    (by simp) (by simp))).of_eq ?_
  rw [show cmd.argc / 2 = (cmd.argc - 1) / 2 by omega]
  simp [RespbCommand.payload, RespbCommand.argBytesAt_of_lt mem cmd h0, respbWriteU16_toUInt16]

theorem fits_hget (har : SerializeCase.hget.arityOk cmd.argc) :
    Fits bufLen 0 (serializePayload mem bufLen cmd (some .hget)) () (cmd.payload mem .hget) := by
  have h0 : 0 < respbMaxArgs := by decide
  have h1 : 1 < respbMaxArgs := by decide
  have : 2 ≤ cmd.argc := by simpa [SerializeCase.arityOk] using har
  unfold serializePayload
  dsimp only
  rw [if_neg (by omega)]
  exact (fits_bind (fits_argAt h0) (fits_bind (fits_argAt h1) (fits_need_emits
    (emits_bind (emits_emitString2B _) (emits_emitString2B _)) (by simp; omega)))).of_eq
    (by simp [RespbCommand.payload, RespbCommand.argBytesAt_of_lt mem cmd h0,
      RespbCommand.argBytesAt_of_lt mem cmd h1])

theorem fits_serializeModule (hargc : cmd.argc ≤ respbMaxArgs) :
    Fits bufLen 0 (serializeModule mem bufLen cmd) () (cmd.modulePayload mem) := by
  have h0 : 0 < respbMaxArgs := by decide
  have h1 : 1 < respbMaxArgs := by decide
  have h2 : 2 < respbMaxArgs := by decide
  have hargs : Fits bufLen 0 (emitArgs mem bufLen cmd) () (cmd.argStrs mem 0 cmd.argc) :=
    fits_emitArgsFrom 0 cmd.argc (by omega)
  have htwo : Fits bufLen 0 (emitTwoStrings mem bufLen cmd) ()
      (str2 (cmd.argBytesAt mem 0) ++ str2 (cmd.argBytesAt mem 1)) :=
    (fits_bind (fits_argAt h0) (fits_bind (fits_argAt h1) (fits_need_emits
      (emits_bind (emits_emitString2B _) (emits_emitString2B _)) (by simp; omega)))).of_eq
      (by simp [RespbCommand.argBytesAt_of_lt mem cmd h0, RespbCommand.argBytesAt_of_lt mem cmd h1])
  unfold serializeModule RespbCommand.modulePayload
  refine fits_ite (fun _ => fits_ite (fun _ => ?_) fun _ => hargs)
    fun _ => fits_ite (fun _ => fits_ite (fun _ => htwo) fun _ => hargs)
      fun _ => fits_ite (fun _ => fits_ite (fun _ => htwo) fun _ => hargs) fun _ => hargs
  exact (fits_bind (fits_argAt h0) (fits_bind (fits_argAt h1) (fits_bind (fits_argAt h2)
    (fits_need_emits (emits_bind (emits_emitString2B _) (emits_bind (emits_emitString2B _)
      (emits_bind (emits_emitString4B _) (emits_emit _)))) (by simp; omega))))).of_eq
    (by simp [RespbCommand.argBytesAt_of_lt mem cmd h0, RespbCommand.argBytesAt_of_lt mem cmd h1,
      RespbCommand.argBytesAt_of_lt mem cmd h2])

/-- Every case but the module and passthrough ones, within its arity: it appends its payload
after the 4-byte header when the payload fits, and returns 0 otherwise. -/
theorem fits_serializePayload (hargc : cmd.argc ≤ respbMaxArgs) {c : SerializeCase}
    (hm : c ≠ .module) (hp : c ≠ .passthrough) (har : c.arityOk cmd.argc) :
    Fits bufLen 0 (serializePayload mem bufLen cmd c.rep) () (cmd.payload mem c) := by
  cases c
  case single => exact fits_single har
  case set => exact fits_set har
  case append => exact fits_append har
  case incrby => exact fits_incrby har
  case keys | generic => exact fits_keys hargc
  case mset => exact fits_mset hargc har
  case push => exact fits_push hargc har
  case hset => exact fits_hset hargc har
  case hget => exact fits_hget har
  case empty => exact fits_pure ()
  case module => exact absurd rfl hm
  case passthrough => exact absurd rfl hp

/-- A case whose arity fails returns 0 before it writes. -/
theorem serializePayload_rep_declines {c : SerializeCase} (har : c.arityOk cmd.argc = false) :
    serializePayload mem bufLen cmd c.rep = decline := by
  cases c <;> simp only [SerializeCase.arityOk, decide_eq_false_iff_not, Bool.true_eq_false] at har <;>
    unfold serializePayload <;> dsimp only [SerializeCase.rep] <;> rw [if_pos (by omega)]

/-- Each case within its arity, from the 4-byte header: its frame when the frame fits, and 0
otherwise. -/
theorem run_serializePayload_rep (hargc : cmd.argc ≤ respbMaxArgs) (h4 : 4 ≤ bufLen)
    {c : SerializeCase} (har : c.arityOk cmd.argc) :
    ((serializePayload mem bufLen cmd c.rep).run
        (respbWriteU16 cmd.opcode ++ respbWriteU16 cmd.muxId)).map Prod.snd =
      if (cmd.frameHeader c ++ cmd.payload mem c).length ≤ bufLen
      then .ok (cmd.frameHeader c ++ cmd.payload mem c) else .error .declined := by
  rw [respbWriteU16_eq, respbWriteU16_eq]
  cases c
  case module =>
    unfold serializePayload
    dsimp only [SerializeCase.rep]
    rw [respbWriteU16_eq, respbWriteU16_eq, respbWriteU32_eq]
    exact rewriteHeader_fits (by rfl) (fits_serializeModule hargc) _
  case passthrough =>
    unfold serializePayload
    dsimp only [SerializeCase.rep]
    rw [respbWriteU16_eq, respbWriteU16_eq, respbWriteU32_eq]
    exact rewriteHeader_fits (by rfl) (fits_need_emits (emits_emit _) (by simp)) _
  all_goals exact (fits_serializePayload hargc (by decide) (by decide) har).run_map (by simp; omega)

end Cases

/-- `respb_serialize_command` on a record within `RESPB_MAX_ARGS`, for every `buf_len`: the frame
of its case when the case's arity holds and the frame fits, and 0 otherwise. -/
theorem respbSerializeCommand_eq_frame (mem : Nat → UInt8) (cmd : RespbCommand)
    (hargc : cmd.argc ≤ respbMaxArgs) (bufLen : Nat) :
    respbSerializeCommand mem bufLen cmd =
      if (serializeCase (Op.ofCode cmd.opcode)).arityOk cmd.argc ∧
        (respbFrame mem cmd).length ≤ bufLen
      then .ok (respbFrame mem cmd) else .error .declined := by
  unfold respbSerializeCommand respbFrame
  rw [serializePayload_eq_rep]
  generalize serializeCase (Op.ofCode cmd.opcode) = c
  have hhdr : 4 ≤ (cmd.frameHeader c).length := by cases c <;> simp [RespbCommand.frameHeader]
  by_cases h4 : bufLen < 4
  · rw [if_pos h4, if_neg (by simp only [List.length_append]; omega)]
  rw [if_neg h4]
  cases har : c.arityOk cmd.argc
  · rw [serializePayload_rep_declines har, if_neg (by simp)]
    rfl
  · rw [run_serializePayload_rep hargc (by omega) har]
    simp only [true_and]

/-- The capacity contract of `respb_serialize_command`, for every record within
`RESPB_MAX_ARGS`: at no `buf_len` does it write a byte at an index `≥ buf_len`, and when the
record meets its case's arity it returns the frame of its case, the same for every `buf_len`,
exactly when `buf_len` holds the frame, and 0 otherwise. -/
theorem respbSerializeCommand_capacityContract (mem : Nat → UInt8) (cmd : RespbCommand)
    (hargc : cmd.argc ≤ respbMaxArgs) :
    (∀ bufLen, respbSerializeCommand mem bufLen cmd ≠ .error .outOfBounds) ∧
    ((serializeCase (Op.ofCode cmd.opcode)).arityOk cmd.argc → ∀ bufLen,
      respbSerializeCommand mem bufLen cmd =
        if (respbFrame mem cmd).length ≤ bufLen then .ok (respbFrame mem cmd) else .error .declined) := by
  refine ⟨fun bufLen => ?_, fun har bufLen => ?_⟩
  · rw [respbSerializeCommand_eq_frame mem cmd hargc]
    split <;> simp
  · simp only [respbSerializeCommand_eq_frame mem cmd hargc, har, true_and]

theorem respbSerializeCommand_capacityContract_mgetTwoKeys :
    let cmd : RespbCommand :=
      { (default : RespbCommand) with
        opcode := Op.mget.code
        argc := 2
        args := fun i => if i.val = 0 then ⟨0, 2⟩ else ⟨2, 1⟩ }
    let mem := bufOf [97, 98, 99]
    cmd.argc ≤ respbMaxArgs ∧ (serializeCase (Op.ofCode cmd.opcode)).arityOk cmd.argc ∧
    respbFrame mem cmd = respbHeader .mget 0 ++ be16 2 ++ str2 [97, 98] ++ str2 [99] ∧
    (∀ bufLen, respbSerializeCommand mem bufLen cmd ≠ .error .outOfBounds) ∧
    ((serializeCase (Op.ofCode cmd.opcode)).arityOk cmd.argc → ∀ bufLen,
      respbSerializeCommand mem bufLen cmd =
        if (respbFrame mem cmd).length ≤ bufLen then .ok (respbFrame mem cmd)
        else .error .declined) :=
  ⟨by decide, by decide, by decide, respbSerializeCommand_capacityContract _ _ (by decide)⟩

/-- A GET record with `buf_len` room for its frame: the header, the key's length in the 2-byte
field, and the key. -/
theorem respbSerializeCommand_get (mem : Nat → UInt8) (cmd : RespbCommand) (bufLen : Nat)
    (hop : cmd.opcode = Op.get.code) (hargc : 1 ≤ cmd.argc)
    (hcap : 6 + (cmd.args ⟨0, by decide⟩).len ≤ bufLen) :
    respbSerializeCommand mem bufLen cmd = .ok (respbHeader .get cmd.muxId ++
      be16 (argBytes mem (cmd.args ⟨0, by decide⟩)).length ++ argBytes mem (cmd.args ⟨0, by decide⟩)) := by
  have h0 : 0 < respbMaxArgs := by decide
  have hlen : (respbHeader .get cmd.muxId ++ cmd.payload mem .single).length ≤ bufLen := by
    simp only [List.length_append, respbHeader_length, RespbCommand.payload, str2_length,
      RespbCommand.argBytesAt_of_lt mem cmd h0, argBytes_length]
    omega
  rw [respbSerializeCommand, if_neg (by omega), hop, Op.ofCode_code, respbWriteU16_eq,
    respbWriteU16_eq, ← respbHeader, (fits_single (by simpa [SerializeCase.arityOk] using
      hargc)).run_map (show (respbHeader .get cmd.muxId).length ≤ bufLen by
        simp only [respbHeader_length]; omega), if_pos hlen]
  simp only [RespbCommand.payload, RespbCommand.argBytesAt_of_lt mem cmd h0, str2, List.append_assoc]

/-- A GET frame followed by any bytes: the parser reads the key its 2-byte length announces and
stops right after it, whatever follows. -/
theorem respbParseCommand_getFrame (mux : UInt16) (d T : List UInt8) (hd : d.length < 2 ^ 16) :
    let F := respbHeader .get mux ++ str2 d ++ T
    ∃ D, respbParseCommand (respbParserInit (bufOf F) F.length) default =
        some (1, { respbParserInit (bufOf F) F.length with pos := 6 + d.length }, D) ∧
      argBytes (bufOf F) (D.args ⟨0, by decide⟩) = d := by
  intro F
  have h0 : 0 < respbMaxArgs := by decide
  have hrun : Runs (parsePayload .get) (str2 d ++ []) () _ _ :=
    runs_bind (runs_readString2B h0 hd) (runs_setArgc 1)
  have hbytes : BytesAt (bufOf F) 0 (respbHeader .get mux ++ (str2 d ++ [])) := by
    rw [List.append_nil]
    exact (bytesAt_append.1 (bytesAt_bufOf F)).1
  obtain ⟨t, ht, hpos, hbuf, -, -, hslot⟩ :=
    @parseCommand_of_runs (.start (respbParserInit (bufOf F) F.length) default) _ _ _ _ _ hrun
      hbytes (by simp [F, respbParserInit, ParseState.start])
  refine ⟨t.cmd, ?_, ?_⟩
  · rw [respbParseCommand_of_ok ht, hpos]
    simp [respbParserInit, ParseState.start]
    omega
  · have h := (hslot ⟨0, h0⟩).2
    simp only [Writes.then_none, Writes.one, if_pos] at h
    rw [hbuf] at h
    exact h

/-- A single-key record whose key has `2^16` bytes or more, with `buf_len` room for its frame:
`respb_serialize_command` returns the header, a 2-byte length that holds the low 16 bits of the
key's length, and the whole key. The parser reads the frame back as a shorter key and stops
inside the key. -/
theorem respbSerializeCommand_longKeyPrefixWraps (mem : Nat → UInt8) (cmd : RespbCommand)
    (bufLen : Nat) (hop : cmd.opcode = Op.get.code) (hargc : 1 ≤ cmd.argc)
    (hlong : 2 ^ 16 ≤ (cmd.args ⟨0, by decide⟩).len)
    (hcap : 6 + (cmd.args ⟨0, by decide⟩).len ≤ bufLen) :
    let key := argBytes mem (cmd.args ⟨0, by decide⟩)
    let F := respbHeader .get cmd.muxId ++ be16 (key.length % 2 ^ 16) ++ key
    respbSerializeCommand mem bufLen cmd = .ok F ∧ key.length % 2 ^ 16 < key.length ∧
    ∃ D, respbParseCommand (respbParserInit (bufOf F) F.length) default =
        some (1, { respbParserInit (bufOf F) F.length with pos := 6 + key.length % 2 ^ 16 }, D) ∧
      argBytes (bufOf F) (D.args ⟨0, by decide⟩) = key.take (key.length % 2 ^ 16) := by
  intro key F
  have hlt : key.length % 2 ^ 16 < key.length := by
    rw [show key.length = _ from argBytes_length _] at *; omega
  refine ⟨?_, hlt, ?_⟩
  · rw [respbSerializeCommand_get mem cmd bufLen hop hargc hcap]
    simp only [F, key, be16_mod]
  · have hdlen : (key.take (key.length % 2 ^ 16)).length = key.length % 2 ^ 16 := by
      rw [List.length_take]; omega
    have hF : F = respbHeader .get cmd.muxId ++ str2 (key.take (key.length % 2 ^ 16)) ++
        key.drop (key.length % 2 ^ 16) := by
      simp only [F, str2, hdlen, List.append_assoc, List.take_append_drop]
    have h := respbParseCommand_getFrame cmd.muxId (key.take (key.length % 2 ^ 16))
      (key.drop (key.length % 2 ^ 16)) (by rw [hdlen]; exact Nat.mod_lt _ (by norm_num))
    rw [hdlen, ← hF] at h
    exact h

theorem respbSerializeCommand_longKeyPrefixWraps_key65536 :
    let cmd : RespbCommand :=
      { (default : RespbCommand) with opcode := Op.get.code, argc := 1, args := fun _ => ⟨0, 2 ^ 16⟩ }
    cmd.opcode = Op.get.code ∧ 1 ≤ cmd.argc ∧ 2 ^ 16 ≤ (cmd.args ⟨0, by decide⟩).len ∧
    6 + (cmd.args ⟨0, by decide⟩).len ≤ 6 + 2 ^ 16 ∧
    let key := argBytes (fun _ => 0) (cmd.args ⟨0, by decide⟩)
    let F := respbHeader .get cmd.muxId ++ be16 (key.length % 2 ^ 16) ++ key
    respbSerializeCommand (fun _ => 0) (6 + 2 ^ 16) cmd = .ok F ∧
    key.length % 2 ^ 16 < key.length ∧
    ∃ D, respbParseCommand (respbParserInit (bufOf F) F.length) default =
        some (1, { respbParserInit (bufOf F) F.length with pos := 6 + key.length % 2 ^ 16 }, D) ∧
      argBytes (bufOf F) (D.args ⟨0, by decide⟩) = key.take (key.length % 2 ^ 16) :=
  ⟨rfl, by decide, le_rfl, le_rfl,
    respbSerializeCommand_longKeyPrefixWraps _ _ _ rfl (by decide) le_rfl le_rfl⟩

end ProtocolBench.Respb
