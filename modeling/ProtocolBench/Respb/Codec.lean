import ProtocolBench.Respb.Capacity
import ProtocolBench.Respb.Counted

/-!
The serializer's frames read back. For each case of `respb_serialize_command` whose layout the
parser's case for the same opcode reads field for field, `respb_parse_command` on the frame returns
1 just past it, with the opcode, the `mux_id`, the number of arguments the case writes and their
bytes, as long as each argument the case writes fits its length prefix. Among the opcodes without
a case of their own, whose frames the serializer writes as `[2B argc]` and the arguments, the same
holds for those the parser reads as a plain count of keys. The cases left out do not read back:
HSET at 31 pairs, the module frame of JSON.GET, and the generic frame of every opcode whose
parser case reads another layout.
-/

namespace ProtocolBench.Respb
open ParseM

/-- The number of arguments each case writes: one or two for the fixed layouts, none for PING,
MULTI, EXEC and the passthrough, all of them for the counted layouts. -/
def SerializeCase.written : SerializeCase → Nat → Nat
  | .single, _ | .incrby, _ => 1
  | .set, _ | .append, _ | .hget, _ => 2
  | .empty, _ | .passthrough, _ => 0
  | _, argc => argc

theorem SerializeCase.written_le {c : SerializeCase} {argc : Nat} (h : argc ≤ respbMaxArgs) :
    c.written argc ≤ respbMaxArgs := by
  cases c <;> simp only [SerializeCase.written, respbMaxArgs] at h ⊢ <;> omega

/-- The width in bits of the length prefix each case writes before `args[k]`: four bytes for the
values of SET, APPEND, MSET and HSET, two bytes otherwise. -/
def SerializeCase.prefixBits : SerializeCase → Nat → Nat
  | .set, k | .append, k => if k = 1 then 32 else 16
  | .mset, k => if k % 2 = 1 then 32 else 16
  | .hset, k => if k ≠ 0 ∧ k % 2 = 0 then 32 else 16
  | _, _ => 16

/-- The cases whose frames the parser's case for the same opcode reads field for field (HSET
below 31 pairs, where the parser's `argc` formula stops counting). -/
def SerializeCase.rereads : SerializeCase → Bool
  | .single | .set | .append | .incrby | .keys | .mset | .push | .hset | .hget | .empty => true
  | _ => false

/-- The parser's case for the opcodes of each serializer case, taken at one of them; for the
generic case, the case of the plain key lists. -/
def SerializeCase.parseRep : SerializeCase → Op
  | .single => .get | .set => .set | .append => .append | .incrby => .incrby
  | .keys | .generic => .mget | .mset => .mset | .push => .lpush | .hget => .hget
  | .empty => .ping | .hset => .hset | .module => .module | .passthrough => .respPassthrough

/-- The opcodes whose frames read back: those of a case that the parser reads field for field,
and those of the generic case whose parser case reads `[2B count]` and the keys. -/
def Op.Rereadable (op : Op) : Prop :=
  (serializeCase (some op)).rereads = true ∨
    serializeCase (some op) = .generic ∧ op.groupLayout = some (.keys 0 0)

instance : DecidablePred Op.Rereadable := fun _ =>
  inferInstanceAs (Decidable (_ ∨ _))

/-- A record that reads back: its opcode is known and reads back, its `argc` is within
`RESPB_MAX_ARGS` and meets its case's arity (for HSET, below 31 pairs), and every argument its
case writes fits its prefix. -/
def RespbCommand.Rereadable (cmd : RespbCommand) : Prop :=
  ∃ op ∈ Op.ofCode cmd.opcode, op.Rereadable ∧ cmd.argc ≤ respbMaxArgs ∧
    (serializeCase (some op)).arityOk cmd.argc = true ∧
    (serializeCase (some op) = .hset → cmd.argc < respbMaxArgs - 1) ∧
    ∀ k : Fin respbMaxArgs, k.val < (serializeCase (some op)).written cmd.argc →
      (cmd.args k).len < 2 ^ (serializeCase (some op)).prefixBits k

instance : DecidablePred RespbCommand.Rereadable := fun cmd =>
  inferInstanceAs (Decidable (∃ op ∈ Op.ofCode cmd.opcode, _))

/-- Every opcode that reads back is parsed by the code of its case's representative. -/
theorem parsePayload_eq_parseRep {op : Op} (h : op.Rereadable) :
    parsePayload op = parsePayload (serializeCase (some op)).parseRep := by
  cases op <;> first | exact absurd h (by decide) | rfl

/-- The case of `op` runs over `F`, sets `argc = n` and stores `a k` into `args[k]` for every
`k < n`. -/
def ReadsBack (op : Op) (F : List UInt8) (n : Nat) (a : Nat → List UInt8) : Prop :=
  ∃ w : Writes, Runs (parsePayload op) F () (fun c => { c with argc := n }) w ∧
    ∀ k : Fin respbMaxArgs, k.val < n → w k = some (a k)

/-- A frame whose case reads back: `respb_parse_command` returns 1 just past it, with the
header's opcode and `mux_id`, `argc = n` and the arguments `a`. -/
theorem respbParseCommand_readsBack {op : Op} {F : List UInt8} {n : Nat} {a : Nat → List UInt8}
    (h : ReadsBack op F n a) (mux : UInt16) (C₀ : RespbCommand) :
    let B := respbHeader op mux ++ F
    ∃ D, respbParseCommand (respbParserInit (bufOf B) B.length) C₀ =
        some (1, { respbParserInit (bufOf B) B.length with pos := B.length }, D) ∧
      D.opcode = op.code ∧ D.muxId = mux ∧ D.argc = n ∧
      ∀ k : Fin respbMaxArgs, k.val < n → argBytes (bufOf B) (D.args k) = a k := by
  intro B
  obtain ⟨w, hrun, hw⟩ := h
  set s := ParseState.start (respbParserInit (bufOf B) B.length) C₀
  have hB : BytesAt s.buffer s.pos (respbHeader op mux ++ F) := bytesAt_bufOf B
  obtain ⟨hop, hmux⟩ := frame_header hB
  obtain ⟨t, ht, hpos, hbuf, -, hcmd, hslot⟩ :=
    parseCommand_of_runs hrun hB (by simp [s, B, respbParserInit, ParseState.start])
  have hfields := hcmd t.cmd.args
  refine ⟨t.cmd, ?_, ?_, ?_, ?_, fun k hk => ?_⟩
  · rw [respbParseCommand_of_ok ht, hpos]
    simp [s, B, respbParserInit, ParseState.start]
  · simpa [ParseState.payloadState, hop] using congrArg RespbCommand.opcode hfields
  · simpa [ParseState.payloadState, hmux] using congrArg RespbCommand.muxId hfields
  · simpa using congrArg RespbCommand.argc hfields
  · have h := hslot k
    rw [hw k hk] at h
    rw [← h.2, hbuf]
    rfl

section Slots

variable (a : Nat → List UInt8)

/-- The keys loop from slot `f` over the arguments `a (i + f), …`: each slot in range holds its
argument, and no other slot is written. -/
theorem loopWrites_one_map (f : Nat) : ∀ (n i k : Nat),
    loopWrites (fun j d => Writes.one (j + f) d) i ((List.range' (i + f) n).map a) k =
      if i + f ≤ k ∧ k < i + f + n then some (a k) else none
  | 0, i, k => by rw [if_neg (by omega)]; rfl
  | n + 1, i, k => by
    rw [List.range'_succ, List.map_cons, loopWrites, Writes.then,
      show i + f + 1 = i + 1 + f by omega, loopWrites_one_map f n (i + 1) k]
    simp only [Writes.one]
    split_ifs <;> first | rfl | omega | (subst_vars; rfl)

/-- The pair loop from slot `2 i + f` over the pairs `(a k, a (k + 1))`: slots `2 i + f` to
`2 (i + p) + f - 1` hold their arguments. -/
theorem loopWrites_pairs_map (f : Nat) : ∀ (p i k : Nat),
    loopWrites (pairWrites (fun j => j * 2 + f) (fun j => j * 2 + f + 1)) i
        ((List.range' (i * 2 + f) p 2).map fun j => (a j, a (j + 1))) k =
      if i * 2 + f ≤ k ∧ k < i * 2 + f + 2 * p then some (a k) else none
  | 0, i, k => by rw [if_neg (by omega)]; rfl
  | p + 1, i, k => by
    rw [List.range'_succ, List.map_cons, loopWrites, Writes.then,
      show i * 2 + f + 2 = (i + 1) * 2 + f by omega, loopWrites_pairs_map f p (i + 1) k]
    simp only [pairWrites, Writes.then, Writes.one]
    split_ifs <;> first | rfl | omega | (subst_vars; rfl)

end Slots

section Layouts

variable {a : Nat → List UInt8}

/-- `[2B keylen][key]`, the layout of GET, INCR, DECR, TTL, LLEN and SCARD. -/
theorem readsBack_single (h0 : (a 0).length < 2 ^ 16) : ReadsBack .get (str2 (a 0)) 1 a := by
  have h : Runs (parsePayload .get) (str2 (a 0) ++ []) () _ _ :=
    runs_bind (runs_readString2B (by decide) h0) (runs_setArgc 1)
  refine ⟨_, h.congr (List.append_nil _) rfl rfl, fun k hk => ?_⟩
  rw [show k.val = 0 by omega]
  rfl

/-- SET: `[2B keylen][key][4B vallen][value][1B flags][8B expiry]`. -/
theorem readsBack_set (h0 : (a 0).length < 2 ^ 16) (h1 : (a 1).length < 2 ^ 32) :
    ReadsBack .set (str2 (a 0) ++ str4 (a 1) ++ [0] ++ respbWriteU64 0) 2 a := by
  have h : Runs (parsePayload .set) (str2 (a 0) ++ (str4 (a 1) ++ (([0] ++ respbWriteU64 0) ++ [])))
      () _ _ :=
    runs_bind (runs_readString2B (by decide) h0) (runs_bind (runs_readString4B (by decide) h1)
      (runs_bind (runs_skip (show ([0] ++ respbWriteU64 0).length = 9 from rfl)) (runs_setArgc 2)))
  refine ⟨_, h.congr (by simp) rfl rfl, fun k hk => ?_⟩
  obtain h | h : k.val = 0 ∨ k.val = 1 := by omega
  all_goals rw [h]; rfl

/-- APPEND: `[2B keylen][key][4B vallen][value]`. -/
theorem readsBack_append (h0 : (a 0).length < 2 ^ 16) (h1 : (a 1).length < 2 ^ 32) :
    ReadsBack .append (str2 (a 0) ++ str4 (a 1)) 2 a := by
  have h : Runs (parsePayload .append) (str2 (a 0) ++ (str4 (a 1) ++ [])) () _ _ :=
    runs_bind (runs_readString2B (by decide) h0) (runs_bind (runs_readString4B (by decide) h1)
      (runs_setArgc 2))
  refine ⟨_, h.congr (by simp) rfl rfl, fun k hk => ?_⟩
  obtain h | h : k.val = 0 ∨ k.val = 1 := by omega
  all_goals rw [h]; rfl

/-- INCRBY and DECRBY: `[2B keylen][key][8B increment]`; the increment is skipped. -/
theorem readsBack_incrby (h0 : (a 0).length < 2 ^ 16) :
    ReadsBack .incrby (str2 (a 0) ++ respbWriteU64 1) 1 a := by
  have h : Runs (parsePayload .incrby) (str2 (a 0) ++ (respbWriteU64 1 ++ [])) () _ _ :=
    runs_bind (runs_readString2B (by decide) h0) (runs_bind (runs_skip (respbWriteU64_length 1))
      (runs_setArgc 1))
  refine ⟨_, h.congr (by simp) rfl rfl, fun k hk => ?_⟩
  rw [show k.val = 0 by omega]
  rfl

/-- HGET: `[2B keylen][key][2B fieldlen][field]`. -/
theorem readsBack_hget (h0 : (a 0).length < 2 ^ 16) (h1 : (a 1).length < 2 ^ 16) :
    ReadsBack .hget (str2 (a 0) ++ str2 (a 1)) 2 a := by
  have h : Runs (parsePayload .hget) (str2 (a 0) ++ (str2 (a 1) ++ [])) () _ _ :=
    runs_bind (runs_readString2B (by decide) h0) (runs_bind (runs_readString2B (by decide) h1)
      (runs_setArgc 2))
  refine ⟨_, h.congr (by simp) rfl rfl, fun k hk => ?_⟩
  obtain h | h : k.val = 0 ∨ k.val = 1 := by omega
  all_goals rw [h]; rfl

/-- PING, MULTI and EXEC: no payload. -/
theorem readsBack_empty : ReadsBack .ping [] 0 a :=
  ⟨_, runs_setArgc 0, fun _ hk => absurd hk (Nat.not_lt_zero _)⟩

/-- MGET, DEL, EXISTS and the other plain key lists: `[2B count]`, then the `count` keys. -/
theorem readsBack_keys {n : Nat} (hn : n ≤ respbMaxArgs)
    (hs : ∀ k < n, (a k).length < 2 ^ 16) :
    ReadsBack .mget (be16 n ++ strs2 ((List.range' 0 n).map a)) n a := by
  have hks : Short2 ((List.range' 0 n).map a) := by
    intro d hd
    obtain ⟨k, hk, rfl⟩ := List.mem_map.1 hd
    exact hs k (by simpa using hk)
  have h := runs_keys hks (show n < 2 ^ 16 by simp only [respbMaxArgs] at hn; omega)
    (by simp only [List.length_map, List.length_range']; omega)
  refine ⟨_, h.congr rfl (by funext c; simp [cappedArgc, respbMaxArgs] at hn ⊢; omega) rfl,
    fun k hk => ?_⟩
  rw [show List.range' 0 n = List.range' (0 + 0) n from rfl, loopWrites_one_map a 0 n 0 k,
    if_pos (by omega)]

/-- MSET: `[2B npairs]`, then `npairs` pairs `[2B keylen][key][4B vallen][value]`. -/
theorem readsBack_mset {p : Nat} (hp : 2 * p ≤ respbMaxArgs)
    (he : ∀ k < 2 * p, k % 2 = 0 → (a k).length < 2 ^ 16)
    (ho : ∀ k < 2 * p, k % 2 = 1 → (a k).length < 2 ^ 32) :
    ReadsBack .mset (be16 p ++ pairs24 ((List.range' 0 p 2).map fun k => (a k, a (k + 1))))
      (2 * p) a := by
  have hps : ShortPairs 32 ((List.range' 0 p 2).map fun k => (a k, a (k + 1))) := by
    intro q hq
    obtain ⟨k, hk, rfl⟩ := List.mem_map.1 hq
    obtain ⟨i, hi, rfl⟩ := List.mem_range'.1 hk
    exact ⟨he _ (by omega) (by omega), ho _ (by omega) (by omega)⟩
  have h := runs_mset hps (show p < 2 ^ 16 by simp only [respbMaxArgs] at hp; omega)
    (by simp only [List.length_map, List.length_range']; simp only [respbMaxArgs] at hp ⊢; omega)
  refine ⟨_, h.congr rfl (by funext c; simp only [respbMaxArgs] at hp ⊢; split_ifs <;> congr 1 <;> omega) rfl,
    fun k hk => ?_⟩
  exact (loopWrites_pairs_map a 0 p 0 k).trans (if_pos (by omega))

/-- LPUSH, RPUSH and SADD: `[2B keylen][key][2B count]`, then the `count` elements. -/
theorem readsBack_push {n : Nat} (hn : n + 1 ≤ respbMaxArgs)
    (hs : ∀ k < n + 1, (a k).length < 2 ^ 16) :
    ReadsBack .lpush (str2 (a 0) ++ be16 n ++ strs2 ((List.range' 1 n).map a)) (n + 1) a := by
  have hks : Short2 ((List.range' 1 n).map a) := by
    intro d hd
    obtain ⟨k, hk, rfl⟩ := List.mem_map.1 hd
    exact hs k (by simp at hk; omega)
  have h := runs_keyed (hs 0 (by omega)) hks (show n < 2 ^ 16 by simp only [respbMaxArgs] at hn; omega)
    (by simp only [List.length_map, List.length_range']; simp only [respbMaxArgs] at hn ⊢; omega)
  refine ⟨_, h.congr rfl (by funext c; simp only [keyedArgc, respbMaxArgs] at hn ⊢; split_ifs <;> congr 1 <;> omega) rfl,
    fun k hk => ?_⟩
  simp only [Writes.then]
  rw [show List.range' 1 n = List.range' (0 + 1) n from rfl, loopWrites_one_map a 1 n 0 k]
  by_cases h0 : k.val = 0
  · rw [if_neg (by omega), h0]
    rfl
  · rw [if_pos (by omega)]
    rfl

/-- HSET below 31 pairs: `[2B keylen][key][2B npairs]`, then the pairs
`[2B fieldlen][field][4B vallen][value]`. -/
theorem readsBack_hset {p : Nat} (hp : p < (respbMaxArgs - 1) / 2) (h0 : (a 0).length < 2 ^ 16)
    (ho : ∀ k < 2 * p + 1, k % 2 = 1 → (a k).length < 2 ^ 16)
    (he : ∀ k < 2 * p + 1, k ≠ 0 → k % 2 = 0 → (a k).length < 2 ^ 32) :
    ReadsBack .hset (str2 (a 0) ++ be16 p ++ pairs24 ((List.range' 1 p 2).map fun k => (a k, a (k + 1))))
      (2 * p + 1) a := by
  have hps : ShortPairs 32 ((List.range' 1 p 2).map fun k => (a k, a (k + 1))) := by
    intro q hq
    obtain ⟨k, hk, rfl⟩ := List.mem_map.1 hq
    obtain ⟨i, hi, rfl⟩ := List.mem_range'.1 hk
    exact ⟨ho _ (by omega) (by omega), he _ (by omega) (by omega) (by omega)⟩
  have h := runs_hset h0 hps (show p < 2 ^ 16 by simp only [respbMaxArgs] at hp; omega)
    (by simp only [List.length_map, List.length_range']; simp only [respbMaxArgs] at hp; omega)
  refine ⟨_, h.congr rfl (by funext c; rw [if_pos hp]; congr 1; omega) rfl, fun k hk => ?_⟩
  simp only [Writes.then]
  rw [show List.range' 1 p 2 = List.range' (0 * 2 + 1) p 2 from rfl]
  have hpairs := loopWrites_pairs_map a 1 p 0 k
  by_cases h0 : k.val = 0
  · rw [hpairs, if_neg (by omega), h0]
    rfl
  · exact (hpairs.trans (if_pos (by omega))).symm ▸ rfl

end Layouts

/-- The payload each case lays out reads back through the parser's case for it, when the case's
arity holds and every argument it writes fits its prefix. -/
theorem readsBack_payload (mem : Nat → UInt8) (cmd : RespbCommand) {c : SerializeCase}
    (hc : c.rereads = true ∨ c = .generic) (hargc : cmd.argc ≤ respbMaxArgs)
    (har : c.arityOk cmd.argc) (hpairs : c = .hset → cmd.argc < respbMaxArgs - 1)
    (hfit : ∀ k < c.written cmd.argc, (cmd.argBytesAt mem k).length < 2 ^ c.prefixBits k) :
    ReadsBack c.parseRep (cmd.payload mem c) (c.written cmd.argc) (cmd.argBytesAt mem) := by
  cases c
  case single => exact readsBack_single (hfit 0 Nat.one_pos)
  case set => exact readsBack_set (hfit 0 (show 0 < 2 by decide)) (hfit 1 (show 1 < 2 by decide))
  case append =>
    exact readsBack_append (hfit 0 (show 0 < 2 by decide)) (hfit 1 (show 1 < 2 by decide))
  case incrby => exact readsBack_incrby (hfit 0 Nat.one_pos)
  case keys | generic => exact readsBack_keys hargc hfit
  case mset =>
    simp only [SerializeCase.arityOk, decide_eq_true_eq] at har
    have h := @readsBack_mset (cmd.argBytesAt mem) (cmd.argc / 2) (by omega)
      (fun k hk hk2 => by simpa [SerializeCase.prefixBits, hk2] using hfit k (by simp only [SerializeCase.written]; omega))
      (fun k hk hk2 => by simpa [SerializeCase.prefixBits, hk2] using hfit k (by simp only [SerializeCase.written]; omega))
    rwa [show 2 * (cmd.argc / 2) = cmd.argc by omega] at h
  case push =>
    simp only [SerializeCase.arityOk, decide_eq_true_eq] at har
    have h := @readsBack_push (cmd.argBytesAt mem) (cmd.argc - 1) (by omega)
      (fun k hk => hfit k (by simp only [SerializeCase.written]; omega))
    rwa [show cmd.argc - 1 + 1 = cmd.argc by omega] at h
  case hset =>
    simp only [SerializeCase.arityOk, decide_eq_true_eq] at har
    have hlt := hpairs rfl
    have h := @readsBack_hset (cmd.argBytesAt mem) ((cmd.argc - 1) / 2)
      (by simp only [respbMaxArgs] at hlt ⊢; omega) (hfit 0 (by simp only [SerializeCase.written]; omega))
      (fun k hk hk2 => by
        simpa [SerializeCase.prefixBits, hk2] using hfit k (by simp only [SerializeCase.written]; omega))
      (fun k hk hk0 hk2 => by
        simpa [SerializeCase.prefixBits, hk0, hk2] using hfit k (by simp only [SerializeCase.written]; omega))
    rwa [show 2 * ((cmd.argc - 1) / 2) + 1 = cmd.argc by omega] at h
  case hget => exact readsBack_hget (hfit 0 (show 0 < 2 by decide)) (hfit 1 (show 1 < 2 by decide))
  case empty => exact readsBack_empty
  case module | passthrough => exact absurd hc (by decide)

section Frame

variable (mem : Nat → UInt8) (cmd : RespbCommand) {op : Op}

/-- The frame of a record whose opcode reads back is the 4-byte header and its case's payload. -/
theorem respbFrame_eq_header (hop : Op.ofCode cmd.opcode = some op) (hre : op.Rereadable) :
    respbFrame mem cmd = respbHeader op cmd.muxId ++ cmd.payload mem (serializeCase (some op)) := by
  have hcode := Op.code_of_ofCode hop
  have hhdr : cmd.frameHeader (serializeCase (some op)) = respbHeader op cmd.muxId := by
    rcases hre with hc | ⟨hc, -⟩
    · revert hc
      cases serializeCase (some op) <;> simp [RespbCommand.frameHeader, respbHeader, hcode,
        SerializeCase.rereads]
    · simp [hc, RespbCommand.frameHeader, respbHeader, hcode]
  simp only [respbFrame, hop, hhdr]

/-- The payload of a record whose opcode reads back, within the arity of its case and with its
written arguments fitting their prefixes, reads back through the parser's case for its opcode. -/
theorem readsBack_of_rereadable (hre : op.Rereadable) (hargc : cmd.argc ≤ respbMaxArgs)
    (har : (serializeCase (some op)).arityOk cmd.argc)
    (hpairs : serializeCase (some op) = .hset → cmd.argc < respbMaxArgs - 1)
    (hfit : ∀ k : Fin respbMaxArgs, k.val < (serializeCase (some op)).written cmd.argc →
      (cmd.args k).len < 2 ^ (serializeCase (some op)).prefixBits k) :
    ReadsBack op (cmd.payload mem (serializeCase (some op)))
      ((serializeCase (some op)).written cmd.argc) (cmd.argBytesAt mem) := by
  unfold ReadsBack
  rw [parsePayload_eq_parseRep hre]
  exact readsBack_payload mem cmd (hre.imp_right And.left) hargc har hpairs fun k hk => by
    have hk' := (SerializeCase.written_le hargc).trans_lt' hk
    rw [RespbCommand.argBytesAt_of_lt mem cmd hk', SerializeM.argBytes_length]
    exact hfit ⟨k, hk'⟩ hk

/-- The frame of a record whose opcode reads back, within the arity of its case and with its
written arguments fitting their prefixes: `respb_parse_command` on it alone returns 1 just past
it, whatever record it is given, with the record's opcode and `mux_id`, `argc` the number of
arguments the case writes, and each of them with the bytes it had. -/
theorem respbFrame_readsBack (hop : Op.ofCode cmd.opcode = some op) (hre : op.Rereadable)
    (hargc : cmd.argc ≤ respbMaxArgs) (har : (serializeCase (some op)).arityOk cmd.argc)
    (hpairs : serializeCase (some op) = .hset → cmd.argc < respbMaxArgs - 1)
    (hfit : ∀ k : Fin respbMaxArgs, k.val < (serializeCase (some op)).written cmd.argc →
      (cmd.args k).len < 2 ^ (serializeCase (some op)).prefixBits k) (C₀ : RespbCommand) :
    let F := respbFrame mem cmd
    ∃ D, respbParseCommand (respbParserInit (bufOf F) F.length) C₀ =
        some (1, { respbParserInit (bufOf F) F.length with pos := F.length }, D) ∧
      D.opcode = cmd.opcode ∧ D.muxId = cmd.muxId ∧
      D.argc = (serializeCase (some op)).written cmd.argc ∧
      ∀ k : Fin respbMaxArgs, k.val < D.argc →
        argBytes (bufOf F) (D.args k) = argBytes mem (cmd.args k) := by
  intro F
  obtain ⟨D, hparse, hopD, hmux, hargcD, hslots⟩ :=
    respbParseCommand_readsBack (readsBack_of_rereadable mem cmd hre hargc har hpairs hfit) cmd.muxId C₀
  rw [← respbFrame_eq_header mem cmd hop hre] at hparse hslots
  refine ⟨D, hparse, hopD.trans (Op.code_of_ofCode hop), hmux, hargcD, fun k hk => ?_⟩
  rw [hslots k (hargcD ▸ hk), RespbCommand.argBytesAt_of_lt mem cmd k.isLt]

end Frame

/-- The serializer's frames read back: for a record within `RESPB_MAX_ARGS` whose opcode reads
back, whose case's arity holds and whose written arguments fit their prefixes,
`respb_serialize_command` with room for the frame returns it, and `respb_parse_command` on that
frame alone returns 1 just past it, with the record's opcode and `mux_id`, `argc` the number of
arguments the case writes, and each of them with the bytes it had. -/
theorem respbSerializeCommand_readsBack (mem : Nat → UInt8) (cmd C₀ : RespbCommand)
    (bufLen : Nat) {op : Op} (hop : Op.ofCode cmd.opcode = some op) (hre : op.Rereadable)
    (hargc : cmd.argc ≤ respbMaxArgs) (har : (serializeCase (some op)).arityOk cmd.argc)
    (hpairs : serializeCase (some op) = .hset → cmd.argc < respbMaxArgs - 1)
    (hfit : ∀ k : Fin respbMaxArgs, k.val < (serializeCase (some op)).written cmd.argc →
      (cmd.args k).len < 2 ^ (serializeCase (some op)).prefixBits k)
    (hcap : (respbFrame mem cmd).length ≤ bufLen) :
    let F := respbFrame mem cmd
    respbSerializeCommand mem bufLen cmd = .ok F ∧
    ∃ D, respbParseCommand (respbParserInit (bufOf F) F.length) C₀ =
        some (1, { respbParserInit (bufOf F) F.length with pos := F.length }, D) ∧
      D.opcode = cmd.opcode ∧ D.muxId = cmd.muxId ∧
      D.argc = (serializeCase (some op)).written cmd.argc ∧
      ∀ k : Fin respbMaxArgs, k.val < D.argc →
        argBytes (bufOf F) (D.args k) = argBytes mem (cmd.args k) :=
  ⟨by rw [respbSerializeCommand_eq_frame mem cmd hargc, hop, if_pos ⟨har, hcap⟩],
    respbFrame_readsBack mem cmd hop hre hargc har hpairs hfit C₀⟩

theorem respbSerializeCommand_readsBack_hset :
    let cmd : RespbCommand :=
      { (default : RespbCommand) with opcode := Op.hset.code, argc := 3, args := fun k => ⟨k, 1⟩ }
    let mem : Nat → UInt8 := fun i => 97 + i.toUInt8
    Op.ofCode cmd.opcode = some .hset ∧ Op.hset.Rereadable ∧ cmd.argc ≤ respbMaxArgs ∧
    (serializeCase (some .hset)).arityOk cmd.argc ∧
    (serializeCase (some .hset) = .hset → cmd.argc < respbMaxArgs - 1) ∧
    (∀ k : Fin respbMaxArgs, k.val < (serializeCase (some .hset)).written cmd.argc →
      (cmd.args k).len < 2 ^ (serializeCase (some .hset)).prefixBits k) ∧
    (respbFrame mem cmd).length ≤ 64 ∧
    let F := respbFrame mem cmd
    respbSerializeCommand mem 64 cmd = .ok F ∧
    ∃ D, respbParseCommand (respbParserInit (bufOf F) F.length) default =
        some (1, { respbParserInit (bufOf F) F.length with pos := F.length }, D) ∧
      D.opcode = cmd.opcode ∧ D.muxId = cmd.muxId ∧
      D.argc = (serializeCase (some .hset)).written cmd.argc ∧
      ∀ k : Fin respbMaxArgs, k.val < D.argc →
        argBytes (bufOf F) (D.args k) = argBytes mem (cmd.args k) :=
  ⟨Op.ofCode_code _, by decide, by decide, rfl, by decide, by decide, by decide,
    respbSerializeCommand_readsBack _ _ default 64 (Op.ofCode_code _) (by decide) (by decide) rfl
      (by decide) (by decide) (by decide)⟩

/-- The passthrough case on `[4B length][RESP text]` after the header: it stores the length, points
`resp_data` at the text and skips it. -/
theorem parseCommand_passthrough {s : ParseState} {L : UInt32} {d : List UInt8} {mux : UInt16}
    (hB : BytesAt s.buffer s.pos (respbHeader .respPassthrough mux ++ (be32 L.toNat ++ d)))
    (hlen : s.pos + 8 + L.toNat ≤ s.bufferLen) :
    ∃ t, parseCommand s = .ok () t ∧ t.pos = s.pos + 8 + L.toNat ∧ t.buffer = s.buffer ∧
      t.cmd.opcode = Op.respPassthrough.code ∧ t.cmd.muxId = mux ∧ t.cmd.argc = 0 ∧
      t.cmd.respLength = L ∧ t.cmd.respData = s.pos + 8 := by
  obtain ⟨hop, hmux⟩ := frame_header hB
  obtain ⟨hL, -⟩ := bytesAt_append.1 (bytesAt_append.1 hB).2
  have hu : s.payloadState.u32 s.payloadState.pos = L := by
    apply UInt32.toNat.inj
    rw [show s.payloadState.u32 s.payloadState.pos = s.u32 (s.pos + 4) from rfl,
      u32_of_bytesAt (by simpa using hL)]
    exact Nat.mod_eq_of_lt (UInt32.toNat_lt_size _)
  have hrun := parseCommand_apply s
  rw [if_neg (by omega), hop, Op.ofCode_code] at hrun
  dsimp only at hrun
  rw [show parsePayload .respPassthrough = parsePassthrough from rfl, parsePassthrough_apply,
    if_neg (by simp only [ParseState.payloadState]; omega), hu,
    if_neg (by simp only [ParseState.payloadState]; omega)] at hrun
  exact ⟨_, hrun, by simp only [ParseState.payloadState], rfl, hop, hmux, rfl, rfl, rfl⟩

/-- A passthrough frame `[2B 0xFFFF][2B mux_id][4B length][RESP text]`: `respb_parse_command`
returns 1 just past it, whatever record it is given, with `argc = 0`, the length, and
`resp_data` pointing at the text. -/
theorem respbParseCommand_passthrough {L : UInt32} {d : List UInt8} (hd : d.length = L.toNat)
    (mux : UInt16) (C₀ : RespbCommand) :
    let B := respbHeader .respPassthrough mux ++ (be32 L.toNat ++ d)
    ∃ D, respbParseCommand (respbParserInit (bufOf B) B.length) C₀ =
        some (1, { respbParserInit (bufOf B) B.length with pos := B.length }, D) ∧
      D.opcode = Op.respPassthrough.code ∧ D.muxId = mux ∧ D.argc = 0 ∧ D.respLength = L ∧
      argBytes (bufOf B) ⟨D.respData, D.respLength.toNat⟩ = d := by
  intro B
  have hlen : B.length = 8 + L.toNat := by simp [B, hd]; omega
  obtain ⟨t, ht, hpos, hbuf, hop, hmux, hargc, hL, hdata⟩ :=
    @parseCommand_passthrough (.start (respbParserInit (bufOf B) B.length) C₀) L d mux
      (bytesAt_bufOf B) (by simp only [ParseState.start, respbParserInit]; omega)
  refine ⟨t.cmd, ?_, hop, hmux, hargc, hL, ?_⟩
  · rw [respbParseCommand_of_ok ht, hpos]
    simp only [ParseState.start, respbParserInit, hlen, Nat.zero_add]
  · obtain ⟨-, hdat⟩ := bytesAt_append.1 (bytesAt_append.1 (bytesAt_bufOf B)).2
    rw [hdata, hL, ← hd]
    exact argBytes_of_bytesAt hdat

/-- The serializer's passthrough frames read back: for a RESP_PASSTHROUGH record within
`RESPB_MAX_ARGS`, `respb_serialize_command` with room for the 8-byte header and the text returns
the frame, and `respb_parse_command` on that frame alone returns 1 just past it, with the record's
opcode and `mux_id`, `argc = 0`, its `resp_length`, and `resp_data` pointing at its text. -/
theorem respbSerializeCommand_passthroughReadsBack (mem : Nat → UInt8) (cmd C₀ : RespbCommand)
    (bufLen : Nat) (hop : cmd.opcode = Op.respPassthrough.code) (hargc : cmd.argc ≤ respbMaxArgs)
    (hcap : 8 + cmd.respLength.toNat ≤ bufLen) :
    let F := respbFrame mem cmd
    respbSerializeCommand mem bufLen cmd = .ok F ∧
    ∃ D, respbParseCommand (respbParserInit (bufOf F) F.length) C₀ =
        some (1, { respbParserInit (bufOf F) F.length with pos := F.length }, D) ∧
      D.opcode = cmd.opcode ∧ D.muxId = cmd.muxId ∧ D.argc = 0 ∧ D.respLength = cmd.respLength ∧
      argBytes (bufOf F) ⟨D.respData, D.respLength.toNat⟩ =
        argBytes mem ⟨cmd.respData, cmd.respLength.toNat⟩ := by
  intro F
  have hcode : Op.ofCode cmd.opcode = some .respPassthrough := by rw [hop, Op.ofCode_code]
  have hF : F = respbHeader .respPassthrough cmd.muxId ++
      (be32 cmd.respLength.toNat ++ argBytes mem ⟨cmd.respData, cmd.respLength.toNat⟩) := by
    simp only [F, respbFrame, hcode, show serializeCase (some .respPassthrough) = .passthrough from rfl,
      RespbCommand.frameHeader, RespbCommand.payload, List.append_assoc]
  have hfit : F.length ≤ bufLen := by rw [hF]; simp only [List.length_append,
    respbHeader_length, be32_length, SerializeM.argBytes_length]; omega
  refine ⟨by rw [respbSerializeCommand_eq_frame mem cmd hargc, hcode, if_pos ⟨rfl, hfit⟩], ?_⟩
  rw [hF]
  obtain ⟨D, hD, hopD, hmux, hargcD, hL, hdat⟩ :=
    @respbParseCommand_passthrough cmd.respLength _
      (SerializeM.argBytes_length ⟨cmd.respData, cmd.respLength.toNat⟩ :
        (argBytes mem ⟨cmd.respData, cmd.respLength.toNat⟩).length = cmd.respLength.toNat)
      cmd.muxId C₀
  exact ⟨D, hD, hopD.trans hop.symm, hmux, hargcD, hL, hdat⟩

theorem respbSerializeCommand_passthroughReadsBack_ping :
    let cmd : RespbCommand :=
      { (default : RespbCommand) with opcode := Op.respPassthrough.code, respLength := 14 }
    let mem : Nat → UInt8 := fun i => 42 + i.toUInt8
    cmd.opcode = Op.respPassthrough.code ∧ cmd.argc ≤ respbMaxArgs ∧ 8 + cmd.respLength.toNat ≤ 32 ∧
    let F := respbFrame mem cmd
    respbSerializeCommand mem 32 cmd = .ok F ∧
    ∃ D, respbParseCommand (respbParserInit (bufOf F) F.length) default =
        some (1, { respbParserInit (bufOf F) F.length with pos := F.length }, D) ∧
      D.opcode = cmd.opcode ∧ D.muxId = cmd.muxId ∧ D.argc = 0 ∧ D.respLength = cmd.respLength ∧
      argBytes (bufOf F) ⟨D.respData, D.respLength.toNat⟩ =
        argBytes mem ⟨cmd.respData, cmd.respLength.toNat⟩ :=
  ⟨rfl, by decide, by decide,
    respbSerializeCommand_passthroughReadsBack _ _ default 32 rfl (by decide) (by decide)⟩

end ProtocolBench.Respb
