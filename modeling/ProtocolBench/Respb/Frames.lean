import ProtocolBench.Respb.Runs
import ProtocolBench.Respb.Parser

/-!
Whole frames. `respbHeader` is the 4-byte header `[2B opcode][2B mux_id]`; `parseCommand_of_runs`
lifts a run of an opcode's case to `respb_parse_command` on the header followed by the case's
bytes. The lemmas after it give the runs of the cases that read counted groups, for any count:
the loops read `min(count, capacity)` elements, so a group within the capacity is consumed
exactly and a larger one is cut off at the capacity.
-/

namespace ProtocolBench.Respb
open ParseM

/-- A buffer that holds `bs` from offset 0. -/
def bufOf (bs : List UInt8) : Nat → UInt8 := fun i => bs.getD i 0

theorem bytesAt_bufOf (bs : List UInt8) : BytesAt (bufOf bs) 0 bs := fun i h => by
  simp [bufOf, List.getElem?_eq_getElem h]

/-- The header `[2B opcode][2B mux_id]` that `respb_serialize_header` writes. -/
def respbHeader (op : Op) (mux : UInt16) : List UInt8 := be16 op.code.toNat ++ be16 mux.toNat

@[simp] theorem respbHeader_length (op : Op) (mux : UInt16) : (respbHeader op mux).length = 4 :=
  rfl

theorem frame_header {s : ParseState} {op : Op} {mux : UInt16} {F : List UInt8}
    (h : BytesAt s.buffer s.pos (respbHeader op mux ++ F)) :
    s.frameOpcode = op.code ∧ s.frameMuxId = mux := by
  rw [respbHeader, List.append_assoc, bytesAt_append, bytesAt_append] at h
  constructor
  · apply UInt16.toNat.inj
    rw [show s.frameOpcode.toNat = s.u16 s.pos from rfl, u16_of_bytesAt h.1]
    exact Nat.mod_eq_of_lt (UInt16.toNat_lt_size _)
  · apply UInt16.toNat.inj
    have h2 := h.2.1
    rw [be16_length] at h2
    rw [show s.frameMuxId.toNat = s.u16 (s.pos + 2) from rfl, u16_of_bytesAt h2]
    exact Nat.mod_eq_of_lt (UInt16.toNat_lt_size _)

/-- `respb_parse_command` on a frame whose case runs over `F`: it returns 1 past the frame, with
the header's fields, `raw_payload_len = |F|`, the case's fields and slots. -/
theorem parseCommand_of_runs {s : ParseState} {op : Op} {mux : UInt16} {F : List UInt8}
    {g : RespbCommand → RespbCommand} {w : Writes} (hrun : Runs (parsePayload op) F () g w)
    (hF : BytesAt s.buffer s.pos (respbHeader op mux ++ F))
    (hlen : s.pos + 4 + F.length ≤ s.bufferLen) :
    ∃ t, parseCommand s = .ok () t ∧ t.pos = s.pos + 4 + F.length ∧ t.buffer = s.buffer ∧
      t.bufferLen = s.bufferLen ∧
      (∀ args, { t.cmd with args := args } =
        { g { s.payloadState.cmd with args := args } with rawPayloadLen := F.length }) ∧
      ∀ k, SlotAfter s.payloadState t k (w k) := by
  obtain ⟨hop, -⟩ := frame_header hF
  rw [bytesAt_append] at hF
  obtain ⟨u, hu, hpu, hbu, hlu, hcu, hsu⟩ :=
    hrun.run s.payloadState (by simpa [ParseState.payloadState] using hF.2)
      (by simp only [ParseState.payloadState]; omega)
  have hpu' : u.pos = s.pos + 4 + F.length := hpu
  refine ⟨{ u with cmd := { u.cmd with rawPayloadLen := u.pos - (s.pos + 4) } }, ?_, hpu', hbu,
    hlu, fun args => ?_, hsu⟩
  · rw [parseCommand_apply, if_neg (by omega), hop, Op.ofCode_code]
    simp only [hu]
  · rw [← hcu args, hpu', Nat.add_sub_cancel_left]

/-- The same for `respb_parse_command`: it returns 1 with the cursor just past the frame. -/
theorem respbParseCommand_of_runs {parser : RespbParser} {cmd : RespbCommand} {op : Op}
    {mux : UInt16} {F : List UInt8} {g : RespbCommand → RespbCommand} {w : Writes}
    (hrun : Runs (parsePayload op) F () g w)
    (hF : BytesAt parser.buffer parser.pos (respbHeader op mux ++ F))
    (hlen : parser.pos + 4 + F.length ≤ parser.bufferLen) :
    ∃ c, respbParseCommand parser cmd =
      some (1, { parser with pos := parser.pos + 4 + F.length }, c) := by
  obtain ⟨t, ht, hpos, -⟩ := @parseCommand_of_runs (.start parser cmd) _ _ _ _ _ hrun hF hlen
  exact ⟨t.cmd, by
    rw [respbParseCommand, ht]
    dsimp only
    rw [hpos]
    rfl⟩

section Cases

variable {n : Nat} {ks : List (List UInt8)}

/-- The keys cases, MGET to PUNSUBSCRIBE: `[2B count]`, then `min(count, 64)` keys into
`args[0..]`. -/
theorem runs_keys (hks : Short2 ks) (hn : n < 2 ^ 16) (hlen : ks.length = min n respbMaxArgs) :
    Runs (parsePayload .mget) (be16 n ++ strs2 ks) () (fun c => { c with argc := cappedArgc n })
      (loopWrites (fun i d => Writes.one (i + 0) d) 0 ks) := by
  have h : Runs (parsePayload .mget) (be16 n ++ (strs2 ks ++ [])) () _ _ :=
    runs_bind (runs_readU16 hn) (runs_bind (runs_readKeys hks (by omega)) (runs_setArgc _))
  exact h.congr (by simp) rfl (by simp)

/-- The keys cases with `r` trailing bytes: LMPOP, ZDIFF, ZINTER, ZUNION, ZMPOP (`r = 1`) and
BLPOP, BRPOP, BZPOPMIN, BZPOPMAX (`r = 8`). -/
theorem runs_keysTrail {r : Nat} {trail : List UInt8} (hks : Short2 ks) (hn : n < 2 ^ 16)
    (hlen : ks.length = min n respbMaxArgs) (hr : trail.length = r) :
    Runs (do
        let count ← readU16
        readKeys 0 count
        skip r
        setArgc (cappedArgc count))
      (be16 n ++ strs2 ks ++ trail) () (fun c => { c with argc := cappedArgc n })
      (loopWrites (fun i d => Writes.one (i + 0) d) 0 ks) := by
  have h : Runs (do
        let count ← readU16
        readKeys 0 count
        skip r
        setArgc (cappedArgc count)) (be16 n ++ (strs2 ks ++ (trail ++ []))) () _ _ :=
    runs_bind (runs_readU16 hn) (runs_bind (runs_readKeys hks (by omega))
      (runs_bind (runs_skip hr) (runs_setArgc _)))
  exact h.congr (by simp) rfl (by simp)

/-- BLMPOP and BZMPOP: an 8-byte timeout, the keys, one trailing byte. -/
theorem runs_keysLeadTrail {lead trail : List UInt8} (hks : Short2 ks) (hn : n < 2 ^ 16)
    (hlen : ks.length = min n respbMaxArgs) (hl : lead.length = 8) (hr : trail.length = 1) :
    Runs (parsePayload .blmpop) (lead ++ be16 n ++ strs2 ks ++ trail) ()
      (fun c => { c with argc := cappedArgc n })
      (loopWrites (fun i d => Writes.one (i + 0) d) 0 ks) := by
  have h : Runs (parsePayload .blmpop) (lead ++ (be16 n ++ (strs2 ks ++ (trail ++ [])))) ()
      _ _ :=
    runs_bind (runs_skip hl) (runs_bind (runs_readU16 hn) (runs_bind (runs_readKeys hks
      (by omega)) (runs_bind (runs_skip hr) (runs_setArgc _))))
  exact h.congr (by simp) rfl (by simp)

/-- The keyed cases, LPUSH to GEOPOS: a key into `args[0]`, `[2B count]`, then
`min(count, 63)` elements into `args[1..]`. -/
theorem runs_keyed {key : List UInt8} (hkey : key.length < 2 ^ 16) (hks : Short2 ks)
    (hn : n < 2 ^ 16) (hlen : ks.length = min n (respbMaxArgs - 1)) :
    Runs (parsePayload .lpush) (str2 key ++ be16 n ++ strs2 ks) ()
      (fun c => { c with argc := keyedArgc n })
      ((Writes.one 0 key).then (loopWrites (fun i d => Writes.one (i + 1) d) 0 ks)) := by
  have h : Runs (parsePayload .lpush) (str2 key ++ (be16 n ++ (strs2 ks ++ []))) () _ _ :=
    runs_bind (runs_readString2B (by decide) hkey) (runs_bind (runs_readU16 hn)
      (runs_bind (runs_readKeys hks hlen) (runs_setArgc _)))
  exact h.congr (by simp) rfl (by simp)

/-- ZINTERSTORE and ZUNIONSTORE: the keyed layout with one trailing byte. -/
theorem runs_keyedTrail {key trail : List UInt8} (hkey : key.length < 2 ^ 16) (hks : Short2 ks)
    (hn : n < 2 ^ 16) (hlen : ks.length = min n (respbMaxArgs - 1)) (hr : trail.length = 1) :
    Runs (parsePayload .zinterstore) (str2 key ++ be16 n ++ strs2 ks ++ trail) ()
      (fun c => { c with argc := keyedArgc n })
      ((Writes.one 0 key).then (loopWrites (fun i d => Writes.one (i + 1) d) 0 ks)) := by
  have h : Runs (parsePayload .zinterstore) (str2 key ++ (be16 n ++ (strs2 ks ++ (trail ++ []))))
      () _ _ :=
    runs_bind (runs_readString2B (by decide) hkey) (runs_bind (runs_readU16 hn)
      (runs_bind (runs_readKeys hks hlen) (runs_bind (runs_skip hr) (runs_setArgc _))))
  exact h.congr (by simp) rfl (by simp)

/-- BITOP: the operation byte, then the keyed layout. -/
theorem runs_keyedLead {key lead : List UInt8} (hkey : key.length < 2 ^ 16) (hks : Short2 ks)
    (hn : n < 2 ^ 16) (hlen : ks.length = min n (respbMaxArgs - 1)) (hl : lead.length = 1) :
    Runs (parsePayload .bitop) (lead ++ str2 key ++ be16 n ++ strs2 ks) ()
      (fun c => { c with argc := keyedArgc n })
      ((Writes.one 0 key).then (loopWrites (fun i d => Writes.one (i + 1) d) 0 ks)) := by
  have h : Runs (parsePayload .bitop) (lead ++ (str2 key ++ (be16 n ++ (strs2 ks ++ [])))) ()
      _ _ :=
    runs_bind (runs_skip hl) (runs_bind (runs_readString2B (by decide) hkey)
      (runs_bind (runs_readU16 hn) (runs_bind (runs_readKeys hks hlen) (runs_setArgc _))))
  exact h.congr (by simp) rfl (by simp)

variable {ps : List (List UInt8 × List UInt8)}

/-- MSET and MSETNX: `[2B count]`, then `min(count, 32)` key/value pairs into `args[0..]`. -/
theorem runs_mset (hps : ShortPairs 32 ps) (hn : n < 2 ^ 16)
    (hlen : ps.length = min n (respbMaxArgs / 2)) :
    Runs (parsePayload .mset) (be16 n ++ pairs24 ps) ()
      (fun c => { c with argc := if n < respbMaxArgs / 2 then n * 2 else respbMaxArgs })
      (loopWrites (pairWrites (fun i => i * 2) (fun i => i * 2 + 1)) 0 ps) := by
  have h : Runs (parsePayload .mset) (be16 n ++ (pairs24 ps ++ [])) () _ _ :=
    runs_bind (runs_readU16 hn)
      (runs_bind (runs_pairs24 (fun i (hi : i * 2 + 1 < respbMaxArgs) => ⟨by omega, hi⟩) hps
        (fun i hi => show i * 2 + 1 < 64 by simp [respbMaxArgs] at hlen; omega) (by omega)
        (fun h => show ¬(ps.length * 2 + 1 < 64) by simp [respbMaxArgs] at hlen; omega))
        (runs_setArgc _))
  exact h.congr (by simp) rfl (by simp)

/-- XREAD: `[2B numkeys]`, then `min(numkeys, 32)` key/id pairs into `args[0..]`. -/
theorem runs_xread (hps : ShortPairs 16 ps) (hn : n < 2 ^ 16)
    (hlen : ps.length = min n (respbMaxArgs / 2)) :
    Runs (parsePayload .xread) (be16 n ++ pairs22 ps) ()
      (fun c => { c with argc := if n * 2 < respbMaxArgs then n * 2 else respbMaxArgs })
      (loopWrites (pairWrites (fun i => i * 2) (fun i => i * 2 + 1)) 0 ps) := by
  have h : Runs (parsePayload .xread) (be16 n ++ (pairs22 ps ++ [])) () _ _ :=
    runs_bind (runs_readU16 hn)
      (runs_bind (runs_pairs22 (fun i (hi : i * 2 + 1 < respbMaxArgs) => ⟨by omega, hi⟩) hps
        (fun i hi => show i * 2 + 1 < 64 by simp [respbMaxArgs] at hlen; omega) (by omega)
        (fun h => show ¬(ps.length * 2 + 1 < 64) by simp [respbMaxArgs] at hlen; omega))
        (runs_setArgc _))
  exact h.congr (by simp) rfl (by simp)

/-- XREADGROUP: the group and the consumer into `args[0]` and `args[1]`, `[2B numkeys]`, then
`min(numkeys, 31)` key/id pairs into `args[2..]`. -/
theorem runs_xreadgroup {group consumer : List UInt8} (hg : group.length < 2 ^ 16)
    (hc : consumer.length < 2 ^ 16) (hps : ShortPairs 16 ps) (hn : n < 2 ^ 16)
    (hlen : ps.length = min n ((respbMaxArgs - 2) / 2)) :
    Runs (parsePayload .xreadgroup) (str2 group ++ str2 consumer ++ be16 n ++ pairs22 ps) ()
      (fun c => { c with
        argc := 2 + if n * 2 < respbMaxArgs - 2 then n * 2 else respbMaxArgs - 2 })
      ((Writes.one 0 group).then ((Writes.one 1 consumer).then
        (loopWrites (pairWrites (fun i => i * 2 + 2) (fun i => i * 2 + 3)) 0 ps))) := by
  have h : Runs (parsePayload .xreadgroup)
      (str2 group ++ (str2 consumer ++ (be16 n ++ (pairs22 ps ++ [])))) () _ _ :=
    runs_bind (runs_readString2B (by decide) hg) (runs_bind (runs_readString2B (by decide) hc)
      (runs_bind (runs_readU16 hn)
        (runs_bind (runs_pairs22 (fun i (hi : i * 2 + 2 < respbMaxArgs) => ⟨hi, by
            simp [respbMaxArgs] at hi ⊢; omega⟩) hps
          (fun i hi => show i * 2 + 2 < 64 by simp [respbMaxArgs] at hlen; omega) (by omega)
          (fun h => show ¬(ps.length * 2 + 2 < 64) by simp [respbMaxArgs] at hlen; omega))
          (runs_setArgc _))))
  exact h.congr (by simp) rfl (by simp)

/-- JSON.GET, the module frame with subcommand 1: the key into `args[0]`, `[2B numpaths]`, then
`min(numpaths, 63)` paths into `args[1..]`. -/
theorem runs_jsonGet {key : List UInt8} (hkey : key.length < 2 ^ 16) (hks : Short2 ks)
    (hn : n < 2 ^ 16) (hlen : ks.length = min n (respbMaxArgs - 1)) :
    Runs (parsePayload .module) (be32 1 ++ str2 key ++ be16 n ++ strs2 ks) ()
      (fun c => { c with
        moduleSubcommand := 1, moduleId := respbModuleJson, commandId := 1, argc := keyedArgc n })
      ((Writes.one 0 key).then (loopWrites (fun i d => Writes.one (i + 1) d) 0 ks)) := by
  have h : Runs (parsePayload .module)
      (be32 (1 : UInt32).toNat ++ ([] ++ (str2 key ++ (be16 n ++ (strs2 ks ++ []))))) () _ _ :=
    runs_bind (runs_readU32 1) (runs_bind (runs_setCmd fun _ _ => rfl)
      (runs_ite_pos (by decide) (runs_ite_neg (by decide) (runs_ite_pos (by decide)
        (runs_bind (runs_readString2B (by decide) hkey) (runs_bind (runs_readU16 hn)
          (runs_bind (runs_readKeys hks hlen) (runs_setArgc _))))))))
  exact h.congr (by simp) rfl (by simp)

variable {keys args : List (List UInt8)}

/-- The tail of EVAL and its siblings when the keys and arguments fit: `[2B numkeys]`, the keys
into `args[1..]`, `[2B numargs]` and the one argument, if any, into `args[numkeys + 1]`. -/
theorem runs_readNumkeysFirstArg (hk : Short2 keys) (ha : Short2 args)
    (hnk : keys.length < 2 ^ 16) (hna : args.length ≤ 1)
    (hcap : keys.length + args.length < respbMaxArgs) :
    Runs readNumkeysFirstArg (be16 keys.length ++ strs2 keys ++ be16 args.length ++ strs2 args) ()
      (fun c => { c with argc := keys.length + args.length + 1 })
      ((loopWrites (fun i d => Writes.one (i + 1) d) 0 keys).then
        (loopWrites (fun i d => Writes.one (i + (keys.length + 1)) d) 0 args)) := by
  match args, ha, hna, hcap with
  | [], _, _, hcap =>
    have h : Runs readNumkeysFirstArg (be16 keys.length ++ (strs2 keys ++ (be16 0 ++ ([] ++ []))))
        () _ _ :=
      runs_bind (runs_readU16 hnk) (runs_bind (runs_readKeys hk (by omega))
        (runs_bind (runs_readU16 (by norm_num)) (runs_ite_neg (by simp)
          (runs_bind (runs_pure ()) (runs_setArgc _)))))
    refine h.congr (by simp [strs2]) ?_ (by simp [loopWrites])
    funext c
    simp only [Function.comp, id, List.length_nil]
    congr 1
    simp only [Nat.lt_irrefl, if_false, Nat.add_zero, List.length_nil] at hcap ⊢
    split <;> omega
  | [a], ha, _, hcap =>
    have h : Runs readNumkeysFirstArg
        (be16 keys.length ++ (strs2 keys ++ (be16 1 ++ (str2 a ++ [])))) () _ _ :=
      runs_bind (runs_readU16 hnk) (runs_bind (runs_readKeys hk (by omega))
        (runs_bind (runs_readU16 (by norm_num)) (runs_ite_pos (by simp at hcap ⊢; omega)
          (runs_bind (runs_readString2B (by simp at hcap ⊢; omega) (ha a (by simp)))
            (runs_setArgc _)))))
    refine h.congr (by simp [strs2]) ?_ (by simp [loopWrites, Nat.add_comm])
    funext c
    simp only [Function.comp, id, List.length_singleton]
    congr 1
    simp only [Nat.lt_irrefl, Nat.zero_lt_one, if_true, List.length_singleton] at hcap ⊢
    split <;> omega

/-- EVAL and EVAL_RO: the script `[4B len][script]` into `args[0]`, then the keys and the
argument. -/
theorem runs_eval {script : List UInt8} (hs : script.length < 2 ^ 32) (hk : Short2 keys)
    (ha : Short2 args) (hnk : keys.length < 2 ^ 16) (hna : args.length ≤ 1)
    (hcap : keys.length + args.length < respbMaxArgs) :
    Runs (parsePayload .eval)
      (str4 script ++ be16 keys.length ++ strs2 keys ++ be16 args.length ++ strs2 args) ()
      (fun c => { c with argc := keys.length + args.length + 1 })
      ((Writes.one 0 script).then ((loopWrites (fun i d => Writes.one (i + 1) d) 0 keys).then
        (loopWrites (fun i d => Writes.one (i + (keys.length + 1)) d) 0 args))) :=
  have h : Runs (parsePayload .eval) (str4 script ++ (be16 keys.length ++ strs2 keys ++
      be16 args.length ++ strs2 args)) () _ _ :=
    runs_bind (runs_readString4B (by decide) hs) (runs_readNumkeysFirstArg hk ha hnk hna hcap)
  h.congr (by simp) rfl rfl

/-- EVALSHA, EVALSHA_RO, FCALL and FCALL_RO: the sha or function name `[2B len][name]` into
`args[0]`, then the keys and the argument. -/
theorem runs_evalsha {name : List UInt8} (hs : name.length < 2 ^ 16) (hk : Short2 keys)
    (ha : Short2 args) (hnk : keys.length < 2 ^ 16) (hna : args.length ≤ 1)
    (hcap : keys.length + args.length < respbMaxArgs) :
    Runs (parsePayload .evalsha)
      (str2 name ++ be16 keys.length ++ strs2 keys ++ be16 args.length ++ strs2 args) ()
      (fun c => { c with argc := keys.length + args.length + 1 })
      ((Writes.one 0 name).then ((loopWrites (fun i d => Writes.one (i + 1) d) 0 keys).then
        (loopWrites (fun i d => Writes.one (i + (keys.length + 1)) d) 0 args))) :=
  have h : Runs (parsePayload .evalsha) (str2 name ++ (be16 keys.length ++ strs2 keys ++
      be16 args.length ++ strs2 args)) () _ _ :=
    runs_bind (runs_readString2B (by decide) hs) (runs_readNumkeysFirstArg hk ha hnk hna hcap)
  h.congr (by simp) rfl rfl

/-- The tail of EVAL and its siblings with its keys within the slots and at least one
argument: the keys, `[2B numargs]`, and the first argument only when a slot is left for it. -/
theorem runs_readNumkeysFirstArg_cut (hk : Short2 keys) (ha : Short2 args)
    (hnk : keys.length < respbMaxArgs) (hna : args.length < 2 ^ 16) (hpos : 0 < args.length) :
    ∃ g w, Runs readNumkeysFirstArg (be16 keys.length ++ strs2 keys ++ be16 args.length ++
      strs2 (args.take (if keys.length + 1 < respbMaxArgs then 1 else 0))) () g w := by
  obtain ⟨a, as, rfl⟩ := List.exists_cons_of_length_pos hpos
  have hkeys := @runs_readKeys 1 keys.length keys hk (by simp [respbMaxArgs] at hnk ⊢; omega)
  by_cases hroom : keys.length + 1 < respbMaxArgs
  · have h : Runs readNumkeysFirstArg (be16 keys.length ++ (strs2 keys ++
        (be16 (a :: as).length ++ (str2 a ++ [])))) () _ _ :=
      runs_bind (runs_readU16 (by simp [respbMaxArgs] at hnk; omega)) (runs_bind hkeys
        (runs_bind (runs_readU16 hna) (runs_ite_pos ⟨hpos, hroom⟩
          (runs_bind (runs_readString2B hroom (ha a (List.mem_cons_self _ _))) (runs_setArgc _)))))
    exact ⟨_, _, h.congr (by simp [hroom, strs2]) rfl rfl⟩
  · have h : Runs readNumkeysFirstArg (be16 keys.length ++ (strs2 keys ++
        (be16 (a :: as).length ++ ([] ++ [])))) () _ _ :=
      runs_bind (runs_readU16 (by simp [respbMaxArgs] at hnk; omega)) (runs_bind hkeys
        (runs_bind (runs_readU16 hna) (runs_ite_neg (fun h => hroom h.2)
          (runs_bind (runs_pure ()) (runs_setArgc _)))))
    exact ⟨_, _, h.congr (by simp [hroom, strs2]) rfl rfl⟩

end Cases

/-- HSET and HMSET: the key, then the loop over `min(npairs, 31)` field/value pairs into
`args[1..]`. -/
theorem runs_hset {key : List UInt8} {ps : List (List UInt8 × List UInt8)} {n : Nat}
    (hkey : key.length < 2 ^ 16) (hps : ShortPairs 32 ps) (hn : n < 2 ^ 16)
    (hlen : ps.length = min n 31) :
    Runs (parsePayload .hset) (str2 key ++ be16 n ++ pairs24 ps) ()
      (fun c => { c with
        argc := 1 + if n < (respbMaxArgs - 1) / 2 then n * 2 else respbMaxArgs - 1 })
      ((Writes.one 0 key).then
        (loopWrites (pairWrites (fun i => i * 2 + 1) (fun i => i * 2 + 2)) 0 ps)) := by
  have h : Runs (parsePayload .hset) (str2 key ++ (be16 n ++ (pairs24 ps ++ []))) () _ _ :=
    runs_bind (runs_readString2B (by decide) hkey) (runs_bind (runs_readU16 hn)
      (runs_bind (runs_pairs24 (fun i (hi : i * 2 + 2 < respbMaxArgs) => ⟨by omega, hi⟩) hps
        (fun i hi => show i * 2 + 2 < 64 by omega) (by omega)
        (fun h => show ¬(ps.length * 2 + 2 < 64) by omega)) (runs_setArgc _)))
  exact h.congr (by simp) rfl (by simp)

end ProtocolBench.Respb
