import ProtocolBench.Respb.Serializer

/-!
Serializer against parser. `respbSerializeCommand_of_emits` gives the frame that
`respb_serialize_command` writes from what the case of the opcode emits; the run lemmas of
`Frames` read it back. For HSET the two disagree at 31 field/value pairs: the serializer writes
`argc = 63` arguments and the parser's formula reports 64. For the module frame of JSON.GET the
serializer falls back to its generic loop and writes no `[2B numpaths]`, which the parser reads
after the key.
-/

namespace ProtocolBench.Respb
open SerializeM

section Frames

variable {mem : Nat → UInt8} {bufLen : Nat} {cmd : RespbCommand}

theorem argBytesAt_length_lt (hshort : ShortArgs cmd) (k : Nat) :
    (cmd.argBytesAt mem k).length < 2 ^ 16 := by
  unfold RespbCommand.argBytesAt
  split
  · next h => simpa using hshort ⟨k, h⟩
  · simp

/-- `respb_serialize_command` on a record whose case emits `bs`: the header, then `bs`. -/
theorem respbSerializeCommand_of_emits {op : Op} {bs : List UInt8} (hop : cmd.opcode = op.code)
    (h : Emits bufLen (serializePayload mem bufLen cmd (some op)) () bs)
    (hlen : 4 + bs.length ≤ bufLen) :
    respbSerializeCommand mem bufLen cmd = .ok (respbHeader op cmd.muxId ++ bs) := by
  have hrun := h.run (respbWriteU16 cmd.opcode ++ respbWriteU16 cmd.muxId)
    (by simp only [List.length_append, respbWriteU16_eq, be16_length]; omega)
  rw [hop] at hrun
  rw [respbSerializeCommand, if_neg (by omega), hop, Op.ofCode_code, StateT.run, hrun]
  simp only [respbHeader, respbWriteU16_eq]
  rfl

/-- The HSET case on `argc = 2p + 1`: the key, `[2B p]`, then the `p` pairs. -/
theorem emits_hset {p : Nat} (hargc : cmd.argc = 2 * p + 1)
    (hp : 2 * p + 1 ≤ respbMaxArgs) :
    Emits bufLen (serializePayload mem bufLen cmd (some .hset)) ()
      (str2 (cmd.argBytesAt mem 0) ++ be16 p ++ pairs24 ((List.range' 1 p 2).map
        fun k => (cmd.argBytesAt mem k, cmd.argBytesAt mem (k + 1)))) := by
  have h0 : 0 < respbMaxArgs := by decide
  have hp16 : ((cmd.argc - 1) / 2).toUInt16.toNat = p :=
    (UInt16.toNat_ofNat_of_lt (show _ < 65536 by simp only [respbMaxArgs] at hp; omega)).trans
      (by omega)
  have hpairs : Emits bufLen (emitPairsFrom mem bufLen cmd 1 (cmd.argc / 2)) ()
      (pairs24 ((List.range' 1 p 2).map fun k => (cmd.argBytesAt mem k, cmd.argBytesAt mem (k + 1)))) := by
    rw [show cmd.argc / 2 = p by omega]
    exact emits_emitPairsFrom 1 p (by omega)
  have e : str2 (cmd.argBytesAt mem 0) ++ be16 p ++ pairs24 ((List.range' 1 p 2).map
        fun k => (cmd.argBytesAt mem k, cmd.argBytesAt mem (k + 1))) =
      [] ++ (str2 (argBytes mem (cmd.args ⟨0, h0⟩)) ++
        (respbWriteU16 ((cmd.argc - 1) / 2).toUInt16 ++ pairs24 ((List.range' 1 p 2).map
          fun k => (cmd.argBytesAt mem k, cmd.argBytesAt mem (k + 1))))) := by
    simp [RespbCommand.argBytesAt, h0, respbWriteU16_eq, hp16]
  have h : Emits bufLen (serializePayload mem bufLen cmd (some .hset)) () _ :=
    emits_ite_neg (by omega) (emits_bind (emits_argAt h0) (emits_need (by simp)
      (emits_bind (emits_emitString2B _) (emits_bind (emits_emit _) hpairs))))
  rwa [e]

end Frames

/-- HSET with 31 field/value pairs, `argc = 63`: the serializer writes the key, `[2B 31]` and the
pairs, and the parser reads the frame back to its end but reports `argc = 64`. -/
theorem hset_roundTripArgcDiffers (mem : Nat → UInt8) (C cmd : RespbCommand)
    (hop : C.opcode = Op.hset.code) (hargc : C.argc = 63) (hshort : ShortArgs C) :
    let bytes := respbHeader .hset C.muxId ++ (str2 (C.argBytesAt mem 0) ++ be16 31 ++
      pairs24 ((List.range' 1 31 2).map fun k => (C.argBytesAt mem k, C.argBytesAt mem (k + 1))))
    (∀ bufLen, bytes.length ≤ bufLen → respbSerializeCommand mem bufLen C = .ok bytes) ∧
    ∃ D, respbParseCommand (respbParserInit (bufOf bytes) bytes.length) cmd =
      some (1, { respbParserInit (bufOf bytes) bytes.length with pos := bytes.length }, D) ∧
      D.argc = 64 := by
  intro bytes
  refine ⟨fun bufLen hb => respbSerializeCommand_of_emits hop
    (emits_hset (show C.argc = 2 * 31 + 1 by omega) (by decide))
    (by simp only [bytes, List.length_append, respbHeader_length] at hb ⊢; omega), ?_⟩
  have hps : ShortPairs 32 ((List.range' 1 31 2).map
      fun k => (C.argBytesAt mem k, C.argBytesAt mem (k + 1))) := by
    intro q hq
    obtain ⟨k, -, rfl⟩ := List.mem_map.1 hq
    exact ⟨argBytesAt_length_lt hshort k, (argBytesAt_length_lt hshort (k + 1)).trans (by norm_num)⟩
  obtain ⟨t, ht, hpos, -, -, hcmd, -⟩ :=
    @parseCommand_of_runs (.start (respbParserInit (bufOf bytes) bytes.length) cmd) _ _ _ _ _
      (runs_hset (argBytesAt_length_lt hshort 0) hps (by norm_num) (by simp)) (bytesAt_bufOf bytes)
      (by simp [bytes, respbParserInit, ParseState.start])
  refine ⟨t.cmd, ?_, ?_⟩
  · rw [respbParseCommand_of_ok ht, hpos]
    simp [bytes, respbParserInit, ParseState.start]
  · have h := congrArg RespbCommand.argc (hcmd t.cmd.args)
    simpa [respbMaxArgs] using h

theorem hset_roundTripArgcDiffers_empty :
    let C : RespbCommand := { (default : RespbCommand) with opcode := Op.hset.code, argc := 63 }
    C.opcode = Op.hset.code ∧ C.argc = 63 ∧ ShortArgs C ∧
    let bytes := respbHeader .hset C.muxId ++ (str2 (C.argBytesAt (fun _ => 0) 0) ++ be16 31 ++
      pairs24 ((List.range' 1 31 2).map
        fun k => (C.argBytesAt (fun _ => 0) k, C.argBytesAt (fun _ => 0) (k + 1))))
    (∀ bufLen, bytes.length ≤ bufLen → respbSerializeCommand (fun _ => 0) bufLen C = .ok bytes) ∧
    ∃ D, respbParseCommand (respbParserInit (bufOf bytes) bytes.length) default =
      some (1, { respbParserInit (bufOf bytes) bytes.length with pos := bytes.length }, D) ∧
      D.argc = 64 :=
  ⟨rfl, rfl, fun _ => show 0 < 2 ^ 16 by decide,
    hset_roundTripArgcDiffers (fun _ => 0) _ default rfl rfl fun _ => show 0 < 2 ^ 16 by decide⟩

/-- JSON.GET with its key only: the serializer writes the 8-byte module header and the key, with
no `[2B numpaths]`, and the parser, which reads `numpaths` after the key, reports the frame
incomplete. -/
theorem jsonGet_serializedFrameIncomplete :
    let C : RespbCommand := { (default : RespbCommand) with
      opcode := Op.module.code
      moduleSubcommand := 1
      commandId := 1
      argc := 1
      args := fun _ => ⟨0, 1⟩ }
    (respbSerializeCommand (fun _ => 97) 64 C).toOption =
        some (be16 0xF000 ++ be16 0 ++ be32 1 ++ str2 [97]) ∧
      (respbParseCommand (respbParserInit (bufOf (be16 0xF000 ++ be16 0 ++ be32 1 ++ str2 [97]))
        11) default).map (fun r => (r.1, r.2.1.pos)) = some (0, 11) := by
  decide

end ProtocolBench.Respb
