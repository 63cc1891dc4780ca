import ProtocolBench.Respb.Codec

/-!
Module frames against the parser's module case. The serializer lays out a module payload by the
record's `module_id` and `command_id`; the parser reads the subcommand and lays the payload out
by its two halves. When the record's ids are those halves, the two agree on JSON.SET, BF.ADD,
BF.EXISTS on two arguments, FT.SEARCH, and on a single key under every other pair of ids, and
the frame reads back. They disagree on JSON.GET (see `jsonGet_serializedFrameIncomplete`), and on
BF.EXISTS, BF.ADD, FT.SEARCH and JSON.SET when the record has too few arguments for the
parser's layout.
-/

namespace ProtocolBench.Respb
open ParseM

/-- `(module_subcommand >> 16) & 0xFFFF`, as `respb_parse_command` takes the module id. -/
def moduleIdOf (sub : UInt32) : UInt16 := ((sub >>> 16) &&& 0xFFFF).toUInt16

/-- `module_subcommand & 0xFFFF`, as `respb_parse_command` takes the command id. -/
def commandIdOf (sub : UInt32) : UInt16 := (sub &&& 0xFFFF).toUInt16

/-- The module id, command id and `argc` on which the serializer's module payload and the parser's
module case agree, with the number of arguments both of them handle. -/
inductive ModuleShape : UInt16 → UInt16 → Nat → Nat → Prop
  | jsonSet {argc : Nat} : 3 ≤ argc → ModuleShape respbModuleJson 0 argc 3
  | bfAdd {argc : Nat} : 2 ≤ argc → ModuleShape respbModuleBf 0 argc 2
  | bfExists : ModuleShape respbModuleBf 2 2 2
  | ftSearch {argc : Nat} : 2 ≤ argc → ModuleShape respbModuleFt 1 argc 2
  | oneKey {mid cid : UInt16} : ¬ (mid = respbModuleJson ∧ (cid = 0 ∨ cid = 1)) →
      ¬ (mid = respbModuleBf ∧ (cid = 0 ∨ cid = 2)) → ¬ (mid = respbModuleFt ∧ cid = 1) →
      ModuleShape mid cid 1 1

theorem ModuleShape.written_le {mid cid : UInt16} {argc n : Nat} (h : ModuleShape mid cid argc n) :
    n ≤ 3 := by
  cases h <;> decide

/-- The width in bits of the prefix before `args[k]`: four bytes for the JSON value of
JSON.SET, two otherwise. -/
def modulePrefixBits (n k : Nat) : Nat := if n = 3 ∧ k = 2 then 32 else 16

/-- The module case runs over `[4B sub]` and `P`, stores the subcommand and its two halves, sets
`argc = n` and stores `a k` into `args[k]` for every `k < n`. -/
def ModuleReadsBack (sub : UInt32) (P : List UInt8) (n : Nat) (a : Nat → List UInt8) : Prop :=
  ∃ w : Writes, Runs (parsePayload .module) (be32 sub.toNat ++ P) ()
      (fun c => { c with
        moduleSubcommand := sub, moduleId := moduleIdOf sub, commandId := commandIdOf sub
        argc := n }) w ∧
    ∀ k : Fin respbMaxArgs, k.val < n → w k = some (a k)

section Layouts

variable {sub : UInt32} {a : Nat → List UInt8}

/-- JSON.SET: `[2B keylen][key][2B pathlen][path][4B jsonlen][json][1B flags]`. -/
theorem moduleReadsBack_jsonSet (hm : moduleIdOf sub = respbModuleJson) (hc : commandIdOf sub = 0)
    (h0 : (a 0).length < 2 ^ 16) (h1 : (a 1).length < 2 ^ 16) (h2 : (a 2).length < 2 ^ 32) :
    ModuleReadsBack sub (str2 (a 0) ++ str2 (a 1) ++ str4 (a 2) ++ [0]) 3 a := by
  have h : Runs (parsePayload .module) (be32 sub.toNat ++ ([] ++
      (str2 (a 0) ++ (str2 (a 1) ++ (str4 (a 2) ++ ([0] ++ [])))))) () _ _ :=
    runs_bind (runs_readU32 sub) (runs_bind (runs_setCmd fun _ _ => rfl)
      (runs_ite_pos hm (runs_ite_pos hc (runs_bind (runs_readString2B (by decide) h0)
        (runs_bind (runs_readString2B (by decide) h1) (runs_bind (runs_readString4B (by decide) h2)
          (runs_bind (runs_skip (show [(0 : UInt8)].length = 1 from rfl)) (runs_setArgc 3))))))))
  refine ⟨_, h.congr (by simp) rfl rfl, fun k hk => ?_⟩
  obtain h | h | h : k.val = 0 ∨ k.val = 1 ∨ k.val = 2 := by omega
  all_goals simp only [h, Writes.then, Writes.one, Writes.none]; rfl

/-- The two-string layout `[2B len][args[0]][2B len][args[1]]` of BF.ADD and BF.EXISTS. -/
theorem moduleReadsBack_bf (hm : moduleIdOf sub = respbModuleBf)
    (hc : commandIdOf sub = 0 ∨ commandIdOf sub = 2)
    (h0 : (a 0).length < 2 ^ 16) (h1 : (a 1).length < 2 ^ 16) :
    ModuleReadsBack sub (str2 (a 0) ++ str2 (a 1)) 2 a := by
  have h : Runs (parsePayload .module) (be32 sub.toNat ++ ([] ++ (str2 (a 0) ++ (str2 (a 1) ++ []))))
      () _ _ :=
    runs_bind (runs_readU32 sub) (runs_bind (runs_setCmd fun _ _ => rfl)
      (runs_ite_neg (fun h => absurd (hm.symm.trans h) (by decide)) (runs_ite_pos hm (runs_ite_pos hc
        (runs_bind (runs_readString2B (by decide) h0)
          (runs_bind (runs_readString2B (by decide) h1) (runs_setArgc 2)))))))
  refine ⟨_, h.congr (by simp) rfl rfl, fun k hk => ?_⟩
  obtain h | h : k.val = 0 ∨ k.val = 1 := by omega
  all_goals simp only [h, Writes.then, Writes.one, Writes.none]; rfl

/-- FT.SEARCH: `[2B idxlen][index][2B querylen][query]`. -/
theorem moduleReadsBack_ft (hm : moduleIdOf sub = respbModuleFt) (hc : commandIdOf sub = 1)
    (h0 : (a 0).length < 2 ^ 16) (h1 : (a 1).length < 2 ^ 16) :
    ModuleReadsBack sub (str2 (a 0) ++ str2 (a 1)) 2 a := by
  have h : Runs (parsePayload .module) (be32 sub.toNat ++ ([] ++ (str2 (a 0) ++ (str2 (a 1) ++ []))))
      () _ _ :=
    runs_bind (runs_readU32 sub) (runs_bind (runs_setCmd fun _ _ => rfl)
      (runs_ite_neg (fun h => absurd (hm.symm.trans h) (by decide))
        (runs_ite_neg (fun h => absurd (hm.symm.trans h) (by decide)) (runs_ite_pos hm
        (runs_ite_pos hc (runs_bind (runs_readString2B (by decide) h0)
          (runs_bind (runs_readString2B (by decide) h1) (runs_setArgc 2))))))))
  refine ⟨_, h.congr (by simp) rfl rfl, fun k hk => ?_⟩
  obtain h | h : k.val = 0 ∨ k.val = 1 := by omega
  all_goals simp only [h, Writes.then, Writes.one, Writes.none]; rfl

/-- Every other pair of ids: the key alone. -/
theorem moduleReadsBack_oneKey
    (hj : ¬ (moduleIdOf sub = respbModuleJson ∧ (commandIdOf sub = 0 ∨ commandIdOf sub = 1)))
    (hb : ¬ (moduleIdOf sub = respbModuleBf ∧ (commandIdOf sub = 0 ∨ commandIdOf sub = 2)))
    (hf : ¬ (moduleIdOf sub = respbModuleFt ∧ commandIdOf sub = 1)) (h0 : (a 0).length < 2 ^ 16) :
    ModuleReadsBack sub (str2 (a 0)) 1 a := by
  have hkey : Runs (do readString2B 0; setArgc 1 : ParseM Unit) (str2 (a 0) ++ []) () _ _ :=
    runs_bind (runs_readString2B (by decide) h0) (runs_setArgc 1)
  have h : Runs (parsePayload .module) (be32 sub.toNat ++ ([] ++ (str2 (a 0) ++ []))) () _ _ :=
    runs_bind (runs_readU32 sub) (runs_bind (runs_setCmd fun _ _ => rfl) (by
      by_cases hJ : moduleIdOf sub = respbModuleJson
      · exact runs_ite_pos hJ (runs_ite_neg (fun h => hj ⟨hJ, .inl h⟩)
          (runs_ite_neg (fun h => hj ⟨hJ, .inr h⟩) hkey))
      by_cases hB : moduleIdOf sub = respbModuleBf
      · exact runs_ite_neg hJ (runs_ite_pos hB (runs_ite_neg (fun h => hb ⟨hB, h⟩) hkey))
      by_cases hF : moduleIdOf sub = respbModuleFt
      · exact runs_ite_neg hJ (runs_ite_neg hB (runs_ite_pos hF (runs_ite_neg (fun h => hf ⟨hF, h⟩)
          hkey)))
      · exact runs_ite_neg hJ (runs_ite_neg hB (runs_ite_neg hF hkey))))
  refine ⟨_, h.congr (by simp) rfl rfl, fun k hk => ?_⟩
  rw [show k.val = 0 by omega]
  rfl

end Layouts

/-- A module frame whose case reads back: `respb_parse_command` returns 1 just past it, whatever
record it is given, with the header's fields, the subcommand and its halves, `argc = n` and the
arguments. -/
theorem respbParseCommand_moduleReadsBack {sub : UInt32} {P : List UInt8} {n : Nat}
    {a : Nat → List UInt8} (h : ModuleReadsBack sub P n a) (mux : UInt16) (C₀ : RespbCommand) :
    let B := respbHeader .module mux ++ (be32 sub.toNat ++ P)
    ∃ D, respbParseCommand (respbParserInit (bufOf B) B.length) C₀ =
        some (1, { respbParserInit (bufOf B) B.length with pos := B.length }, D) ∧
      D.opcode = Op.module.code ∧ D.muxId = mux ∧ D.moduleSubcommand = sub ∧
      D.moduleId = moduleIdOf sub ∧ D.commandId = commandIdOf sub ∧ D.argc = n ∧
      ∀ k : Fin respbMaxArgs, k.val < n → argBytes (bufOf B) (D.args k) = a k := by
  intro B
  obtain ⟨w, hrun, hw⟩ := h
  set s := ParseState.start (respbParserInit (bufOf B) B.length) C₀
  have hB : BytesAt s.buffer s.pos (respbHeader .module mux ++ (be32 sub.toNat ++ P)) :=
    bytesAt_bufOf B
  obtain ⟨hop, hmux⟩ := frame_header hB
  obtain ⟨t, ht, hpos, hbuf, -, hcmd, hslot⟩ :=
    parseCommand_of_runs hrun hB (by simp [s, B, respbParserInit, ParseState.start])
  have hfields := hcmd t.cmd.args
  refine ⟨t.cmd, ?_, ?_, ?_, ?_, ?_, ?_, ?_, fun k hk => ?_⟩
  · rw [respbParseCommand_of_ok ht, hpos]
    simp [s, B, respbParserInit, ParseState.start]
  · simpa [ParseState.payloadState, hop] using congrArg RespbCommand.opcode hfields
  · simpa [ParseState.payloadState, hmux] using congrArg RespbCommand.muxId hfields
  · simpa using congrArg RespbCommand.moduleSubcommand hfields
  · simpa using congrArg RespbCommand.moduleId hfields
  · simpa using congrArg RespbCommand.commandId hfields
  · simpa using congrArg RespbCommand.argc hfields
  · have h := hslot k
    rw [hw k hk] at h
    rw [← h.2, hbuf]
    rfl

/-- The module payload of a record whose ids are the halves of its subcommand and whose shape the
parser agrees on reads back through the parser's module case. -/
theorem moduleReadsBack_payload (mem : Nat → UInt8) (cmd : RespbCommand) {mid cid : UInt16}
    {argc n : Nat}
    (hshape : ModuleShape mid cid argc n) (hm : cmd.moduleId = mid) (hc : cmd.commandId = cid)
    (ha : cmd.argc = argc) (hmid : mid = moduleIdOf cmd.moduleSubcommand)
    (hcid : cid = commandIdOf cmd.moduleSubcommand)
    (hfit : ∀ k < n, (cmd.argBytesAt mem k).length < 2 ^ modulePrefixBits n k) :
    ModuleReadsBack cmd.moduleSubcommand (cmd.modulePayload mem) n (cmd.argBytesAt mem) := by
  unfold RespbCommand.modulePayload
  cases hshape with
  | jsonSet h3 =>
    rw [if_pos hm, if_pos ⟨hc, ha ▸ h3⟩]
    exact moduleReadsBack_jsonSet hmid.symm hcid.symm (hfit 0 (by decide)) (hfit 1 (by decide))
      (hfit 2 (by decide))
  | bfAdd h2 =>
    rw [if_neg (fun h => absurd (hm.symm.trans h) (by decide)), if_pos hm, if_pos ⟨hc, ha ▸ h2⟩]
    exact moduleReadsBack_bf hmid.symm (.inl hcid.symm) (hfit 0 (by decide)) (hfit 1 (by decide))
  | ftSearch h2 =>
    rw [if_neg (fun h => absurd (hm.symm.trans h) (by decide)),
      if_neg (fun h => absurd (hm.symm.trans h) (by decide)), if_pos hm, if_pos ⟨hc, ha ▸ h2⟩]
    exact moduleReadsBack_ft hmid.symm hcid.symm (hfit 0 (by decide)) (hfit 1 (by decide))
  | bfExists =>
    rw [if_neg (fun h => absurd (hm.symm.trans h) (by decide)), if_pos hm,
      if_neg (fun h => absurd (hc.symm.trans h.1) (by decide)), ha,
      show cmd.argStrs mem 0 2 = str2 (cmd.argBytesAt mem 0) ++ str2 (cmd.argBytesAt mem 1) by
        simp [RespbCommand.argStrs, strs2, List.range'_succ]]
    exact moduleReadsBack_bf hmid.symm (.inr hcid.symm) (hfit 0 (by decide)) (hfit 1 (by decide))
  | oneKey hj hb hf =>
    subst hmid hcid
    have hkey : cmd.argStrs mem 0 cmd.argc = str2 (cmd.argBytesAt mem 0) := by
      simp [ha, RespbCommand.argStrs, strs2]
    have h := moduleReadsBack_oneKey hj hb hf (hfit 0 (by decide))
    split_ifs <;> first | exact hkey ▸ h | omega

section Record

variable (mem : Nat → UInt8) (cmd : RespbCommand)

/-- The frame of a MODULE record: the 8-byte module header and the module payload. -/
theorem respbFrame_module (hop : cmd.opcode = Op.module.code) :
    respbFrame mem cmd =
      respbHeader .module cmd.muxId ++ (be32 cmd.moduleSubcommand.toNat ++ cmd.modulePayload mem) := by
  have hcode : Op.ofCode cmd.opcode = some .module := by rw [hop, Op.ofCode_code]
  simp only [respbFrame, hcode, show serializeCase (some .module) = .module from rfl,
    RespbCommand.frameHeader, RespbCommand.payload, List.append_assoc]

/-- The module payload of a record of an agreeing shape whose ids are the halves of its
subcommand, with its written arguments fitting their prefixes. -/
theorem moduleReadsBack_of_fits {n : Nat} (hmid : cmd.moduleId = moduleIdOf cmd.moduleSubcommand)
    (hcid : cmd.commandId = commandIdOf cmd.moduleSubcommand)
    (hshape : ModuleShape cmd.moduleId cmd.commandId cmd.argc n)
    (hfit : ∀ k : Fin respbMaxArgs, k.val < n → (cmd.args k).len < 2 ^ modulePrefixBits n k) :
    ModuleReadsBack cmd.moduleSubcommand (cmd.modulePayload mem) n (cmd.argBytesAt mem) := by
  have hn := hshape.written_le
  refine moduleReadsBack_payload mem cmd hshape rfl rfl rfl hmid hcid fun k hk => ?_
  have hk' : k < respbMaxArgs := by unfold respbMaxArgs; omega
  rw [RespbCommand.argBytesAt_of_lt mem cmd hk', SerializeM.argBytes_length]
  exact hfit ⟨k, hk'⟩ hk

end Record

/-- A MODULE record whose frame reads back: within `RESPB_MAX_ARGS`, its ids the halves of its
subcommand, of a shape the parser agrees on, and its written arguments fitting their prefixes. -/
def RespbCommand.ModuleRereadable (cmd : RespbCommand) : Prop :=
  cmd.opcode = Op.module.code ∧ cmd.argc ≤ respbMaxArgs ∧
    cmd.moduleId = moduleIdOf cmd.moduleSubcommand ∧
    cmd.commandId = commandIdOf cmd.moduleSubcommand ∧
    ∃ n, ModuleShape cmd.moduleId cmd.commandId cmd.argc n ∧
      ∀ k : Fin respbMaxArgs, k.val < n → (cmd.args k).len < 2 ^ modulePrefixBits n k

/-- The serializer's module frames read back: for a MODULE record within `RESPB_MAX_ARGS` whose
`module_id` and `command_id` are the halves of its subcommand, whose ids and `argc` are of a shape
the parser agrees on, and whose written arguments fit their prefixes, `respb_serialize_command`
with room for the frame returns it, and `respb_parse_command` on that frame alone returns 1 just
past it, with the record's opcode, `mux_id`, subcommand and ids, `argc` the number of arguments
the shape writes, and each of them with the bytes it had. -/
theorem respbSerializeCommand_moduleReadsBack (mem : Nat → UInt8) (cmd C₀ : RespbCommand)
    (bufLen : Nat) {n : Nat} (hop : cmd.opcode = Op.module.code) (hargc : cmd.argc ≤ respbMaxArgs)
    (hmid : cmd.moduleId = moduleIdOf cmd.moduleSubcommand)
    (hcid : cmd.commandId = commandIdOf cmd.moduleSubcommand)
    (hshape : ModuleShape cmd.moduleId cmd.commandId cmd.argc n)
    (hfit : ∀ k : Fin respbMaxArgs, k.val < n → (cmd.args k).len < 2 ^ modulePrefixBits n k)
    (hcap : (respbFrame mem cmd).length ≤ bufLen) :
    let F := respbFrame mem cmd
    respbSerializeCommand mem bufLen cmd = .ok F ∧
    ∃ D, respbParseCommand (respbParserInit (bufOf F) F.length) C₀ =
        some (1, { respbParserInit (bufOf F) F.length with pos := F.length }, D) ∧
      D.opcode = cmd.opcode ∧ D.muxId = cmd.muxId ∧ D.moduleSubcommand = cmd.moduleSubcommand ∧
      D.moduleId = cmd.moduleId ∧ D.commandId = cmd.commandId ∧ D.argc = n ∧
      ∀ k : Fin respbMaxArgs, k.val < n →
        argBytes (bufOf F) (D.args k) = argBytes mem (cmd.args k) := by
  intro F
  have hcode : Op.ofCode cmd.opcode = some .module := by rw [hop, Op.ofCode_code]
  refine ⟨by rw [respbSerializeCommand_eq_frame mem cmd hargc, hcode, if_pos ⟨rfl, hcap⟩], ?_⟩
  obtain ⟨D, hD, hopD, hmux, hsub, hmidD, hcidD, hargcD, hslots⟩ :=
    respbParseCommand_moduleReadsBack (moduleReadsBack_of_fits mem cmd hmid hcid hshape hfit)
      cmd.muxId C₀
  rw [← respbFrame_module mem cmd hop] at hD hslots
  refine ⟨D, hD, hopD.trans hop.symm, hmux, hsub, hmidD.trans hmid.symm, hcidD.trans hcid.symm,
    hargcD, fun k hk => ?_⟩
  rw [hslots k hk, RespbCommand.argBytesAt_of_lt mem cmd k.isLt]

theorem respbSerializeCommand_moduleReadsBack_bfAdd :
    let cmd : RespbCommand := { (default : RespbCommand) with
      opcode := Op.module.code, moduleSubcommand := 0x00010000, moduleId := 1, commandId := 0,
      argc := 2, args := fun k => ⟨k, 1⟩ }
    let mem : Nat → UInt8 := fun i => 97 + i.toUInt8
    cmd.opcode = Op.module.code ∧ cmd.argc ≤ respbMaxArgs ∧
    cmd.moduleId = moduleIdOf cmd.moduleSubcommand ∧ cmd.commandId = commandIdOf cmd.moduleSubcommand ∧
    ModuleShape cmd.moduleId cmd.commandId cmd.argc 2 ∧
    (∀ k : Fin respbMaxArgs, k.val < 2 → (cmd.args k).len < 2 ^ modulePrefixBits 2 k) ∧
    (respbFrame mem cmd).length ≤ 64 ∧
    let F := respbFrame mem cmd
    respbSerializeCommand mem 64 cmd = .ok F ∧
    ∃ D, respbParseCommand (respbParserInit (bufOf F) F.length) default =
        some (1, { respbParserInit (bufOf F) F.length with pos := F.length }, D) ∧
      D.opcode = cmd.opcode ∧ D.muxId = cmd.muxId ∧ D.moduleSubcommand = cmd.moduleSubcommand ∧
      D.moduleId = cmd.moduleId ∧ D.commandId = cmd.commandId ∧ D.argc = 2 ∧
      ∀ k : Fin respbMaxArgs, k.val < 2 →
        argBytes (bufOf F) (D.args k) = argBytes mem (cmd.args k) :=
  have hshape : ModuleShape 1 0 2 2 := .bfAdd (by decide)
  ⟨rfl, by decide, by decide, by decide, hshape, by decide, by decide,
    respbSerializeCommand_moduleReadsBack _ _ default 64 rfl (by decide) (by decide) (by decide)
      hshape (by decide) (by decide)⟩

end ProtocolBench.Respb
