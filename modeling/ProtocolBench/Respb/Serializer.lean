import ProtocolBench.Respb.Frames

/-!
`respb_serialize_command`: the header `[2B opcode][2B mux_id]`, then the case of the opcode for
the opcodes the serializer knows, and for every other opcode a generic `[2B argc]` followed by
the arguments. Each case checks that its next bytes fit `buf_len` before it writes them, and
returns 0 when they do not or when `argc` is below the case's arity. The module and passthrough
cases rewrite the header as the 8-byte module or passthrough header. An argument is a slice of the
caller's memory `mem`; a `size_t` length written into a 2- or 4-byte field keeps its low bytes.
Every write is checked against `buf_len` as well: a byte at an index `≥ buf_len` would fall
outside `buf`, and the model stops there with `outOfBounds`. Lengths are `Nat`: a `size_t` sum of
the lengths of objects in memory does not wrap.
-/

namespace ProtocolBench.Respb

/-- Why `respb_serialize_command` writes no frame: it returns 0; for a record whose `argc`
exceeds `RESPB_MAX_ARGS`, it would read past the end of `args`; or it would write a byte at an
index `≥ buf_len`. -/
inductive SerializeStop where
  | declined
  | argsOverread
  | outOfBounds
  deriving DecidableEq, Repr

/-- The serializer's steps: each appends to the bytes written so far, `buf[0..pos)`. -/
abbrev SerializeM := StateT (List UInt8) (Except SerializeStop)

namespace SerializeM

section Steps

variable (mem : Nat → UInt8) (bufLen : Nat) (cmd : RespbCommand)

/-- `if (pos + n > buf_len) return 0;` -/
def need (n : Nat) : SerializeM Unit := fun out =>
  if out.length + n > bufLen then .error .declined else .ok ((), out)

/-- `return 0;` -/
def decline : SerializeM Unit := fun _ => .error .declined

/-- Writes `bs` at `buf[pos..)`, `pos += |bs|`. -/
def emit (bs : List UInt8) : SerializeM Unit := fun out =>
  if out.length + bs.length > bufLen then .error .outOfBounds else .ok ((), out ++ bs)

/-- `pos = 0`, then the 8-byte module or passthrough header over `buf[0..8)`. -/
def rewriteHeader (hdr : List UInt8) : SerializeM Unit := fun _ =>
  if hdr.length > bufLen then .error .outOfBounds else .ok ((), hdr)

/-- `cmd->args[i]`. -/
def argAt (i : Nat) : SerializeM RespbArg := fun out =>
  if h : i < respbMaxArgs then .ok (cmd.args ⟨i, h⟩, out) else .error .argsOverread

/-- `respb_write_u16(buf + pos, a.len); memcpy(buf + pos + 2, a.data, a.len)`. -/
def emitString2B (a : RespbArg) : SerializeM Unit :=
  emit bufLen (respbWriteU16 a.len.toUInt16 ++ argBytes mem a)

/-- `respb_write_u32(buf + pos, a.len); memcpy(buf + pos + 4, a.data, a.len)`. -/
def emitString4B (a : RespbArg) : SerializeM Unit :=
  emit bufLen (respbWriteU32 a.len.toUInt32 ++ argBytes mem a)

/-- `for (i = first; i < argc; i++)`, `n` iterations left: check `pos + 2 + len`, then write
`[2B len][arg]`. -/
def emitArgsFrom : Nat → Nat → SerializeM Unit
  | _, 0 => pure ()
  | i, n + 1 => do
    let a ← argAt cmd i
    need bufLen (2 + a.len)
    emitString2B mem bufLen a
    emitArgsFrom (i + 1) n

/-- `for (i = first; i < argc; i += 2)`, `n` iterations left: check the pair, then write
`[2B len][field][4B len][value]`. -/
def emitPairsFrom : Nat → Nat → SerializeM Unit
  | _, 0 => pure ()
  | i, n + 1 => do
    let f ← argAt cmd i
    let v ← argAt cmd (i + 1)
    need bufLen (2 + f.len + 4 + v.len)
    emitString2B mem bufLen f
    emitString4B mem bufLen v
    emitPairsFrom (i + 2) n

/-- The generic loop over all the arguments, `for (i = 0; i < argc; i++)`. -/
def emitArgs : SerializeM Unit := emitArgsFrom mem bufLen cmd 0 cmd.argc

/-- BF.ADD and FT.SEARCH: `[2B len][args[0]][2B len][args[1]]` under one check. -/
def emitTwoStrings : SerializeM Unit := do
  let a0 ← argAt cmd 0
  let a1 ← argAt cmd 1
  need bufLen (2 + a0.len + 2 + a1.len)
  emitString2B mem bufLen a0
  emitString2B mem bufLen a1

/-- The module case after its 8-byte header, by module id and command id. -/
def serializeModule : SerializeM Unit :=
  if cmd.moduleId = respbModuleJson then
    if cmd.commandId = 0x0000 ∧ 3 ≤ cmd.argc then do
      let a0 ← argAt cmd 0
      let a1 ← argAt cmd 1
      let a2 ← argAt cmd 2
      need bufLen (2 + a0.len + 2 + a1.len + 4 + a2.len + 1)
      emitString2B mem bufLen a0
      emitString2B mem bufLen a1
      emitString4B mem bufLen a2
      emit bufLen [0]
    else emitArgs mem bufLen cmd
  else if cmd.moduleId = respbModuleBf then
    if cmd.commandId = 0x0000 ∧ 2 ≤ cmd.argc then emitTwoStrings mem bufLen cmd
    else emitArgs mem bufLen cmd
  else if cmd.moduleId = respbModuleFt then
    if cmd.commandId = 0x0001 ∧ 2 ≤ cmd.argc then emitTwoStrings mem bufLen cmd
    else emitArgs mem bufLen cmd
  else emitArgs mem bufLen cmd

/-- The `switch` on the opcode, after the 4-byte header. LPUSH, RPUSH and SADD, which the source
writes as two cases with the same body, share one arm. -/
def serializePayload : Option Op → SerializeM Unit
  | some .get | some .incr | some .decr | some .ttl | some .llen | some .scard =>
    if cmd.argc < 1 then decline else do
    let a0 ← argAt cmd 0
    need bufLen (2 + a0.len)
    emitString2B mem bufLen a0
  | some .set =>
    if cmd.argc < 2 then decline else do
    let a0 ← argAt cmd 0
    let a1 ← argAt cmd 1
    need bufLen (2 + a0.len + 4 + a1.len + 9)
    emitString2B mem bufLen a0
    emitString4B mem bufLen a1
    emit bufLen [0]
    emit bufLen (respbWriteU64 0)
  | some .append =>
    if cmd.argc < 2 then decline else do
    let a0 ← argAt cmd 0
    let a1 ← argAt cmd 1
    need bufLen (2 + a0.len + 4 + a1.len)
    emitString2B mem bufLen a0
    emitString4B mem bufLen a1
  | some .incrby | some .decrby =>
    if cmd.argc < 1 then decline else do
    let a0 ← argAt cmd 0
    need bufLen (2 + a0.len + 8)
    emitString2B mem bufLen a0
    emit bufLen (respbWriteU64 1)
  | some .mget | some .del | some .«exists» => do
    need bufLen 2
    emit bufLen (respbWriteU16 cmd.argc.toUInt16)
    emitArgs mem bufLen cmd
  | some .mset =>
    if cmd.argc < 2 ∨ cmd.argc % 2 ≠ 0 then decline else do
    need bufLen 2
    emit bufLen (respbWriteU16 (cmd.argc / 2).toUInt16)
    emitPairsFrom mem bufLen cmd 0 ((cmd.argc + 1) / 2)
  | some .lpush | some .rpush | some .sadd =>
    if cmd.argc < 1 then decline else do
    let a0 ← argAt cmd 0
    need bufLen (2 + a0.len + 2)
    emitString2B mem bufLen a0
    emit bufLen (respbWriteU16 (cmd.argc - 1).toUInt16)
    emitArgsFrom mem bufLen cmd 1 (cmd.argc - 1)
  | some .hset =>
    if cmd.argc < 1 ∨ (cmd.argc - 1) % 2 ≠ 0 then decline else do
    let a0 ← argAt cmd 0
    need bufLen (2 + a0.len + 2)
    emitString2B mem bufLen a0
    emit bufLen (respbWriteU16 ((cmd.argc - 1) / 2).toUInt16)
    emitPairsFrom mem bufLen cmd 1 (cmd.argc / 2)
  | some .hget =>
    if cmd.argc < 2 then decline else do
    let a0 ← argAt cmd 0
    let a1 ← argAt cmd 1
    need bufLen (2 + a0.len + 2 + a1.len)
    emitString2B mem bufLen a0
    emitString2B mem bufLen a1
  | some .ping | some .multi | some .exec => pure ()
  | some .module =>
    if bufLen < 8 then decline else do
    rewriteHeader bufLen (respbWriteU16 Op.module.code ++ respbWriteU16 cmd.muxId ++
      respbWriteU32 cmd.moduleSubcommand)
    serializeModule mem bufLen cmd
  | some .respPassthrough =>
    if bufLen < 8 then decline else do
    rewriteHeader bufLen (respbWriteU16 Op.respPassthrough.code ++ respbWriteU16 cmd.muxId ++
      respbWriteU32 cmd.respLength)
    need bufLen cmd.respLength.toNat
    emit bufLen (argBytes mem ⟨cmd.respData, cmd.respLength.toNat⟩)
  | _ => do
    need bufLen 2
    emit bufLen (respbWriteU16 cmd.argc.toUInt16)
    emitArgs mem bufLen cmd

end Steps

end SerializeM

open SerializeM in
/-- `respb_serialize_command(buf, buf_len, cmd)`: the bytes `buf[0..n)` it writes when it
returns `n > 0`. -/
def respbSerializeCommand (mem : Nat → UInt8) (bufLen : Nat) (cmd : RespbCommand) :
    Except SerializeStop (List UInt8) :=
  if bufLen < 4 then .error .declined
  else (serializePayload mem bufLen cmd (Op.ofCode cmd.opcode)).run
    (respbWriteU16 cmd.opcode ++ respbWriteU16 cmd.muxId) |>.map Prod.snd

/-- The bytes of `args[i]` in `mem`; none past the end of `args`. -/
def RespbCommand.argBytesAt (mem : Nat → UInt8) (cmd : RespbCommand) (i : Nat) : List UInt8 :=
  if h : i < respbMaxArgs then argBytes mem (cmd.args ⟨i, h⟩) else []

namespace SerializeM

/-- From any `buf[0..pos)` that leaves room for `bs` below `buf_len`, `m` returns `a` and
appends `bs`. -/
structure Emits {α : Type} (bufLen : Nat) (m : SerializeM α) (a : α) (bs : List UInt8) :
    Prop where
  run : ∀ out : List UInt8, out.length + bs.length ≤ bufLen → m out = .ok (a, out ++ bs)

section Emits

variable {α β : Type} {bufLen : Nat} {mem : Nat → UInt8} {cmd : RespbCommand}

theorem emits_pure (a : α) : Emits bufLen (pure a : SerializeM α) a [] :=
  ⟨fun out _ => by rw [List.append_nil]; rfl⟩

theorem emits_bind {m : SerializeM α} {f : α → SerializeM β} {a : α} {b : β}
    {bs₁ bs₂ : List UInt8} (h₁ : Emits bufLen m a bs₁) (h₂ : Emits bufLen (f a) b bs₂) :
    Emits bufLen (m >>= f) b (bs₁ ++ bs₂) :=
  ⟨fun out hout => by
    simp only [List.length_append] at hout
    have e₂ := h₂.run (out ++ bs₁) (by simp only [List.length_append]; omega)
    show (m out >>= fun p => f p.1 p.2) = _
    rw [h₁.run out (by omega), ← List.append_assoc]
    exact e₂⟩

theorem emits_ite_pos {c : Prop} [Decidable c] {m₁ m₂ : SerializeM α} {a : α} {bs : List UInt8}
    (hc : c) (h : Emits bufLen m₁ a bs) : Emits bufLen (if c then m₁ else m₂) a bs := by
  rwa [if_pos hc]

theorem emits_ite_neg {c : Prop} [Decidable c] {m₁ m₂ : SerializeM α} {a : α} {bs : List UInt8}
    (hc : ¬c) (h : Emits bufLen m₂ a bs) : Emits bufLen (if c then m₁ else m₂) a bs := by
  rwa [if_neg hc]

theorem emits_emit (bs : List UInt8) : Emits bufLen (emit bufLen bs) () bs :=
  ⟨fun out hout => by unfold emit; rw [if_neg (by omega)]⟩

/-- A check `pos + n > buf_len` passes when the `n` bytes are among those written next. -/
theorem emits_need {n : Nat} {m : SerializeM α} {a : α} {bs : List UInt8} (hn : n ≤ bs.length)
    (h : Emits bufLen m a bs) : Emits bufLen (need bufLen n >>= fun _ => m) a bs :=
  ⟨fun out hout => by
    show (need bufLen n out >>= fun p => m p.2) = _
    rw [need, if_neg (by omega)]
    exact h.run out hout⟩

theorem emits_argAt {i : Nat} (hi : i < respbMaxArgs) :
    Emits bufLen (argAt cmd i) (cmd.args ⟨i, hi⟩) [] :=
  ⟨fun out _ => by rw [argAt, dif_pos hi, List.append_nil]⟩

@[simp] theorem argBytes_length (a : RespbArg) : (argBytes mem a).length = a.len := by
  simp [argBytes]

/-- `[2B len][arg]`, the field holding the length's low 16 bits. -/
theorem emits_emitString2B (a : RespbArg) :
    Emits bufLen (emitString2B mem bufLen a) () (str2 (argBytes mem a)) := by
  rw [emitString2B, respbWriteU16_toUInt16, str2, argBytes_length]
  exact emits_emit _

theorem emits_emitString4B (a : RespbArg) :
    Emits bufLen (emitString4B mem bufLen a) () (str4 (argBytes mem a)) := by
  rw [emitString4B, respbWriteU32_toUInt32, str4, argBytes_length]
  exact emits_emit _

/-- Every argument of the record fits a 2-byte length prefix. -/
def ShortArgs (cmd : RespbCommand) : Prop := ∀ k : Fin respbMaxArgs, (cmd.args k).len < 2 ^ 16

/-- The strings `args[i..i+n+1)`: `args[i]` first. -/
theorem strs2_range'_succ {i n : Nat} (hi : i < respbMaxArgs) :
    strs2 ((List.range' i (n + 1)).map (cmd.argBytesAt mem)) =
      str2 (argBytes mem (cmd.args ⟨i, hi⟩)) ++
        strs2 ((List.range' (i + 1) n).map (cmd.argBytesAt mem)) := by
  simp [strs2, RespbCommand.argBytesAt, hi, List.range'_succ]

/-- The pairs from `args[i]`: `(args[i], args[i+1])` first. -/
theorem pairs24_range'_succ {i n : Nat} (hi : i + 1 < respbMaxArgs) :
    pairs24 ((List.range' i (n + 1) 2).map
        fun k => (cmd.argBytesAt mem k, cmd.argBytesAt mem (k + 1))) =
      str2 (argBytes mem (cmd.args ⟨i, by omega⟩)) ++ (str4 (argBytes mem (cmd.args ⟨i + 1, hi⟩)) ++
        pairs24 ((List.range' (i + 2) n 2).map
          fun k => (cmd.argBytesAt mem k, cmd.argBytesAt mem (k + 1)))) := by
  simp [pairs24, RespbCommand.argBytesAt, hi, show i < respbMaxArgs by omega, List.range'_succ]

theorem emits_emitArgsFrom :
    ∀ i n, i + n ≤ respbMaxArgs →
      Emits bufLen (emitArgsFrom mem bufLen cmd i n) () (strs2 ((List.range' i n).map
        (cmd.argBytesAt mem)))
  | _, 0, _ => emits_pure ()
  | i, n + 1, hin => by
    have hi : i < respbMaxArgs := by omega
    rw [strs2_range'_succ hi, ← List.nil_append (str2 _ ++ _)]
    exact emits_bind (emits_argAt hi) (emits_need (by simp) (emits_bind
      (emits_emitString2B _) (emits_emitArgsFrom _ _ (by omega))))

theorem emits_emitPairsFrom :
    ∀ i n, i + 2 * n ≤ respbMaxArgs →
      Emits bufLen (emitPairsFrom mem bufLen cmd i n) () (pairs24 ((List.range' i n 2).map
        fun k => (cmd.argBytesAt mem k, cmd.argBytesAt mem (k + 1))))
  | _, 0, _ => emits_pure ()
  | i, n + 1, hin => by
    have hi : i + 1 < respbMaxArgs := by omega
    rw [pairs24_range'_succ hi, ← List.nil_append (str2 _ ++ _), ← List.nil_append (str2 _ ++ _)]
    exact emits_bind (emits_argAt (by omega)) (emits_bind (emits_argAt hi) (emits_need
      (by simp; omega) (emits_bind (emits_emitString2B _) (emits_bind (emits_emitString4B _)
        (emits_emitPairsFrom _ _ (by omega))))))

end Emits

end SerializeM

end ProtocolBench.Respb
