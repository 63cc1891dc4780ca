import ProtocolBench.Respb.ParseM

/-!
`respb_parse_command`: the 4-byte header, then one case of the `switch` per opcode, then
`raw_payload_len`. The cases are written in the order of the source and grouped as its case
labels fall through; cases that the source writes out twice with the same body (MSET and
MSETNX, INFO, REPLCONF and LOLWUT, …) share one arm.
-/

namespace ProtocolBench.Respb
open ParseM

/-- `cmd->argc = count < RESPB_MAX_ARGS ? count : RESPB_MAX_ARGS`. -/
def cappedArgc (count : Nat) : Nat := if count < respbMaxArgs then count else respbMaxArgs

/-- `cmd->argc = 1 + (count < RESPB_MAX_ARGS - 1 ? count : RESPB_MAX_ARGS - 1)`. -/
def keyedArgc (count : Nat) : Nat :=
  1 + if count < respbMaxArgs - 1 then count else respbMaxArgs - 1

/-- The tail shared by EVAL, EVALSHA, EVAL_RO, EVALSHA_RO, FCALL and FCALL_RO after their
first string: the keys, then only the first of the `numargs` arguments. -/
def readNumkeysFirstArg : ParseM Unit := do
  let numkeys ← readU16
  readKeys 1 numkeys
  let numargs ← readU16
  if 0 < numargs ∧ numkeys + 1 < respbMaxArgs then readString2B (numkeys + 1)
  setArgc (if numkeys + (if 0 < numargs then 1 else 0) + 1 < respbMaxArgs
    then numkeys + (if 0 < numargs then 1 else 0) + 1 else respbMaxArgs)

def parseModule : ParseM Unit := do
  let sub ← readU32
  let moduleId := ((sub >>> 16) &&& 0xFFFF).toUInt16
  let commandId := (sub &&& 0xFFFF).toUInt16
  setCmd fun c => { c with moduleSubcommand := sub, moduleId := moduleId, commandId := commandId }
  if moduleId = respbModuleJson then
    if commandId = 0x0000 then do
      readString2B 0
      readString2B 1
      readString4B 2
      skip 1
      setArgc 3
    else if commandId = 0x0001 then do
      readString2B 0
      let numpaths ← readU16
      readKeys 1 numpaths
      setArgc (keyedArgc numpaths)
    else do
      readString2B 0
      setArgc 1
  else if moduleId = respbModuleBf then
    if commandId = 0x0000 ∨ commandId = 0x0002 then do
      readString2B 0
      readString2B 1
      setArgc 2
    else do
      readString2B 0
      setArgc 1
  else if moduleId = respbModuleFt then
    if commandId = 0x0001 then do
      readString2B 0
      readString2B 1
      setArgc 2
    else do
      readString2B 0
      setArgc 1
  else do
    readString2B 0
    setArgc 1

def parsePassthrough : ParseM Unit := do
  let len ← readU32
  setCmd fun c => { c with respLength := len }
  checkAvail len.toNat
  let p ← getPos
  setCmd fun c => { c with respData := p }
  advance len.toNat
  setArgc 0

theorem parsePassthrough_apply (s : ParseState) :
    parsePassthrough s =
      if s.pos + 4 > s.bufferLen then .error .incomplete s
      else if s.pos + 4 + (s.u32 s.pos).toNat > s.bufferLen then
        .error .incomplete
          { s with pos := s.pos + 4, cmd := { s.cmd with respLength := s.u32 s.pos } }
      else .ok ()
        { s with
          pos := s.pos + 4 + (s.u32 s.pos).toNat
          cmd := { s.cmd with respLength := s.u32 s.pos, respData := s.pos + 4, argc := 0 } } := by
  simp only [parsePassthrough, bind_apply, readU32_apply, setCmd, checkAvail, getPos, advance,
    setArgc]
  by_cases h : s.pos + 4 > s.bufferLen
  · simp only [h, ite_true]
  · simp only [h, ite_false]
    split_ifs <;> rfl

def parsePayload : Op → ParseM Unit
  | .get | .decr | .getdel | .incr | .strlen => do
    readString2B 0
    setArgc 1
  | .set => do
    readString2B 0
    readString4B 1
    skip 9
    setArgc 2
  | .append | .setnx | .getset | .delifeq | .publish | .spublish => do
    readString2B 0
    readString4B 1
    setArgc 2
  | .incrby | .decrby | .incrbyfloat | .lindex | .psync | .getbit => do
    readString2B 0
    skip 8
    setArgc 1
  | .getex => do
    readString2B 0
    let flags ← readU8
    if flags &&& 0x01 ≠ 0 then skip 8
    setArgc 1
  | .getrange | .substr | .lrange | .ltrim | .zcount | .zremrangebyrank | .zremrangebyscore => do
    readString2B 0
    skip 16
    setArgc 1
  | .mset | .msetnx => do
    let count ← readU16
    forCount count (fun i => i * 2 + 1 < respbMaxArgs) fun i => do
      readString2B (i * 2)
      readString4B (i * 2 + 1)
    setArgc (if count < respbMaxArgs / 2 then count * 2 else respbMaxArgs)
  | .psetex | .setex | .setrange => do
    readString2B 0
    skip 8
    readString4B 1
    setArgc 2
  | .lcs | .zrank | .zrevrank => do
    readString2B 0
    readString2B 1
    skip 1
    setArgc 2
  | .expire | .expireat | .pexpire | .pexpireat | .setbit => do
    readString2B 0
    skip 9
    setArgc 1
  | .mget | .del | .«exists» | .unlink | .sinter | .sunion | .sdiff | .sintercard | .zintercard
  | .watch | .touch | .pfcount | .subscribe | .unsubscribe | .ssubscribe | .sunsubscribe
  | .psubscribe | .punsubscribe => do
    let count ← readU16
    readKeys 0 count
    setArgc (cappedArgc count)
  | .lpush | .rpush | .lpushx | .rpushx | .sadd | .srem | .sinterstore | .sunionstore
  | .sdiffstore | .smismember | .hmget | .hdel | .zrem | .zdiffstore | .zmscore | .pfadd
  | .pfmerge | .geohash | .geopos => do
    readString2B 0
    let count ← readU16
    readKeys 1 count
    setArgc (keyedArgc count)
  | .lpop | .rpop | .llen | .smembers | .scard | .spop | .srandmember | .hgetall | .hkeys
  | .hvals | .hlen | .hrandfield | .zrandmember | .zcard | .zpopmin | .zpopmax | .echo | .auth
  | .ttl | .persist | .pttl | .type | .expiretime | .pexpiretime | .keys | .dump | .sort
  | .sortRo | .bitcount | .bitfield | .bitfieldRo | .xlen => do
    readString2B 0
    setArgc 1
  | .lset | .lrem | .zincrby => do
    readString2B 0
    skip 8
    readString2B 1
    setArgc 2
  | .linsert => do
    readString2B 0
    skip 1
    readString2B 1
    readString2B 2
    setArgc 3
  | .rpoplpush | .lpos | .sismember | .hget | .hexists | .hstrlen | .zscore | .rename
  | .renamenx | .pfdebug | .xpending | .xsetid => do
    readString2B 0
    readString2B 1
    setArgc 2
  | .lmove => do
    readString2B 0
    readString2B 1
    skip 2
    setArgc 2
  | .brpoplpush | .hincrby | .hincrbyfloat => do
    readString2B 0
    readString2B 1
    skip 8
    setArgc 2
  | .blmove | .georadiusbymember | .georadiusbymemberRo => do
    readString2B 0
    readString2B 1
    skip 10
    setArgc 2
  | .blmpop | .bzmpop => do
    skip 8
    let count ← readU16
    readKeys 0 count
    skip 1
    setArgc (cappedArgc count)
  | .lmpop | .zdiff | .zinter | .zunion | .zmpop => do
    let count ← readU16
    readKeys 0 count
    skip 1
    setArgc (cappedArgc count)
  | .blpop | .brpop | .bzpopmin | .bzpopmax => do
    let count ← readU16
    readKeys 0 count
    skip 8
    setArgc (cappedArgc count)
  | .smove | .zrangebylex | .zrevrangebylex | .zremrangebylex | .zlexcount | .xrange
  | .xrevrange => do
    readString2B 0
    readString2B 1
    readString2B 2
    setArgc 3
  | .sscan | .hscan | .zscan => do
    readString2B 0
    skip 8
    setArgc 1
  | .hset | .hmset => do
    readString2B 0
    let npairs ← readU16
    forCount npairs (fun i => i * 2 + 2 < respbMaxArgs) fun i => do
      readString2B (i * 2 + 1)
      readString4B (i * 2 + 2)
    setArgc (1 + if npairs < (respbMaxArgs - 1) / 2 then npairs * 2 else respbMaxArgs - 1)
  | .hexpire | .hexpireat | .hpexpire | .hpexpireat => do
    readString2B 0
    skip 11
    if (← posBeforeEnd) then readString2B 1
    setArgc 2
  | .hexpiretime | .hpexpiretime | .hpttl | .httl | .hpersist => do
    readString2B 0
    let numfields ← readU16
    if 0 < numfields ∧ numfields < respbMaxArgs then readString2B 1
    setArgc (if 0 < numfields then 2 else 1)
  | .hgetex => do
    readString2B 0
    skip 1
    let numfields ← readU16
    if 0 < numfields ∧ numfields < respbMaxArgs then readString2B 1
    setArgc (if 0 < numfields then 2 else 1)
  | .hsetex => do
    readString2B 0
    skip 1
    let numfields ← readU16
    if 0 < numfields ∧ numfields < respbMaxArgs then do
      readString2B 1
      readString4B 2
    setArgc (if 0 < numfields then 3 else 1)
  | .hsetnx => do
    readString2B 0
    readString2B 1
    readString4B 2
    setArgc 3
  | .zadd | .geoadd => do
    readString2B 0
    skip 3
    setArgc 1
  | .zrange | .zrevrange | .zrangebyscore | .zrevrangebyscore => do
    readString2B 0
    skip 17
    setArgc 1
  | .zinterstore | .zunionstore => do
    readString2B 0
    let count ← readU16
    readKeys 1 count
    skip 1
    setArgc (keyedArgc count)
  | .zrangestore => do
    readString2B 0
    readString2B 1
    skip 17
    setArgc 2
  | .ping | .quit | .reset | .readonly | .readwrite | .asking | .dbsize | .save | .bgrewriteaof
  | .lastsave | .time | .role | .monitor | .sync | .multi | .exec | .discard | .unwatch
  | .randomkey | .pfselftest => setArgc 0
  | .select => do
    skip 2
    setArgc 0
  | .hello | .client | .cluster | .flushdb | .flushall | .bgsave | .shutdown | .config | .command
  | .debug | .slowlog | .latency | .memory | .moduleCmd | .acl | .commandlog | .failover
  | .script | .function | .pubsub => do
    skip 1
    setArgc 0
  | .info | .replconf | .lolwut => do
    let count ← readU16
    if 0 < count ∧ count < respbMaxArgs then readString2B 0
    setArgc (if 0 < count then 1 else 0)
  | .replicaof | .slaveof | .move => do
    readString2B 0
    skip 2
    setArgc 1
  | .swapdb => do
    skip 4
    setArgc 0
  | .restoreAsking | .restore => do
    readString2B 0
    skip 8
    readString4B 1
    skip 1
    setArgc 2
  | .eval | .evalRo => do
    readString4B 0
    readNumkeysFirstArg
  | .evalsha | .evalshaRo | .fcall | .fcallRo => do
    readString2B 0
    readNumkeysFirstArg
  | .scan => do
    skip 8
    setArgc 0
  | .migrate => do
    readString2B 0
    skip 2
    readString2B 1
    skip 2
    skip 9
    setArgc 2
  | .copy => do
    readString2B 0
    readString2B 1
    skip 3
    setArgc 2
  | .object | .xinfo | .xgroup => do
    skip 1
    readString2B 0
    setArgc 1
  | .wait => do
    skip 16
    setArgc 0
  | .waitaof => do
    skip 24
    setArgc 0
  | .bitpos | .geosearch => do
    readString2B 0
    skip 1
    setArgc 1
  | .bitop => do
    skip 1
    readString2B 0
    let count ← readU16
    readKeys 1 count
    setArgc (keyedArgc count)
  | .geodist => do
    readString2B 0
    readString2B 1
    readString2B 2
    skip 1
    setArgc 3
  | .georadius | .georadiusRo => do
    readString2B 0
    skip 18
    setArgc 1
  | .geosearchstore => do
    readString2B 0
    readString2B 1
    skip 1
    setArgc 2
  | .xadd => do
    readString2B 0
    readString2B 1
    let count ← readU16
    if 0 < count then readString2B 2
    setArgc (if 0 < count then 3 else 2)
  | .xread => do
    let numkeys ← readU16
    forCount numkeys (fun i => i * 2 + 1 < respbMaxArgs) fun i => do
      readString2B (i * 2)
      readString2B (i * 2 + 1)
    setArgc (if numkeys * 2 < respbMaxArgs then numkeys * 2 else respbMaxArgs)
  | .xreadgroup => do
    readString2B 0
    readString2B 1
    let numkeys ← readU16
    forCount numkeys (fun i => i * 2 + 2 < respbMaxArgs) fun i => do
      readString2B (i * 2 + 2)
      readString2B (i * 2 + 3)
    setArgc (2 + if numkeys * 2 < respbMaxArgs - 2 then numkeys * 2 else respbMaxArgs - 2)
  | .xdel => do
    readString2B 0
    let count ← readU16
    if 0 < count then readString2B 1
    setArgc (if 0 < count then 2 else 1)
  | .xtrim => do
    readString2B 0
    skip 10
    setArgc 1
  | .xack => do
    readString2B 0
    readString2B 1
    let count ← readU16
    if 0 < count then readString2B 2
    setArgc (if 0 < count then 3 else 2)
  | .xclaim => do
    readString2B 0
    readString2B 1
    readString2B 2
    skip 8
    let count ← readU16
    if 0 < count then readString2B 3
    skip 1
    setArgc (if 0 < count then 4 else 3)
  | .xautoclaim => do
    readString2B 0
    readString2B 1
    readString2B 2
    skip 8
    readString2B 3
    setArgc 4
  | .module => parseModule
  | .respPassthrough => parsePassthrough

/-- The header: `CHECK_AVAIL(parser, 4)`, opcode and mux id, `parser->pos += 4`. -/
def readHeader : ParseM UInt16 := do
  checkAvail 4
  let p ← getPos
  let opcode ← u16At p
  let muxId ← u16At (p + 2)
  setCmd fun c => { c with opcode := opcode, muxId := muxId }
  advance 4
  pure opcode

/-- The opcode field of a frame starting at the cursor. -/
def ParseState.frameOpcode (s : ParseState) : UInt16 := readU16Be (s.buffer s.pos) (s.buffer (s.pos + 1))

def ParseState.frameMuxId (s : ParseState) : UInt16 :=
  readU16Be (s.buffer (s.pos + 2)) (s.buffer (s.pos + 3))

theorem readHeader_apply (s : ParseState) :
    readHeader s =
      if s.pos + 4 > s.bufferLen then .error .incomplete s
      else .ok s.frameOpcode
        { s with
          pos := s.pos + 4
          cmd := { s.cmd with opcode := s.frameOpcode, muxId := s.frameMuxId } } := by
  simp only [readHeader, bind_apply, checkAvail, getPos, u16At, byteAt, setCmd, advance,
    pure_apply]
  by_cases h : s.pos + 4 > s.bufferLen
  · simp only [h, ite_true]
  · simp only [h, ite_false, show s.pos < s.bufferLen by omega,
      show s.pos + 1 < s.bufferLen by omega, show s.pos + 2 < s.bufferLen by omega,
      show s.pos + 2 + 1 < s.bufferLen by omega, ite_true]
    rfl

/-- The state in which the case of the `switch` starts: the cursor past the header, and the
record's `opcode`, `mux_id`, `argc = 0` and `raw_payload` set. -/
def ParseState.payloadState (s : ParseState) : ParseState :=
  { s with
    pos := s.pos + 4
    cmd := { s.cmd with
      opcode := s.frameOpcode
      muxId := s.frameMuxId
      argc := 0
      rawPayload := s.pos + 4 } }

def parseCommand : ParseM Unit := do
  let opcode ← readHeader
  let payloadStart ← getPos
  setCmd fun c => { c with argc := 0, rawPayload := payloadStart }
  match Op.ofCode opcode with
  | some op => parsePayload op
  | none => throw .unknownOpcode
  let p ← getPos
  setCmd fun c => { c with rawPayloadLen := p - payloadStart }

/-- `respb_parse_command` is its header, the case of its opcode from `payloadState`, and the
store of `raw_payload_len`. -/
theorem parseCommand_apply (s : ParseState) :
    parseCommand s =
      if s.pos + 4 > s.bufferLen then .error .incomplete s
      else match Op.ofCode s.frameOpcode with
        | none => .error .unknownOpcode s.payloadState
        | some op => match parsePayload op s.payloadState with
          | .ok _ t => .ok () { t with cmd := { t.cmd with rawPayloadLen := t.pos - (s.pos + 4) } }
          | .error e t => .error e t := by
  rw [parseCommand, bind_apply, readHeader_apply]
  split_ifs
  · rfl
  · simp only [bind_apply, getPos_apply, setCmd_apply]
    cases Op.ofCode s.frameOpcode with
    | none => rfl
    | some op =>
      simp only [bind_apply, getPos_apply, setCmd_apply, ParseState.payloadState]
      split <;> next heq => simp only [heq]

/-- A successful parse ran the case of its opcode from `payloadState`, then stored only
`raw_payload_len`. -/
theorem parseCommand_eq_ok {s t : ParseState} (h : parseCommand s = .ok () t) :
    ∃ op t', Op.ofCode s.frameOpcode = some op ∧ parsePayload op s.payloadState = .ok () t' ∧
      t = { t' with cmd := { t'.cmd with rawPayloadLen := t'.pos - (s.pos + 4) } } := by
  rw [parseCommand_apply] at h
  split_ifs at h
  cases hop : Op.ofCode s.frameOpcode with
  | none => simp only [hop] at h; cases h
  | some op =>
    simp only [hop] at h
    cases hp : parsePayload op s.payloadState with
    | ok _ t' => simp only [hp, EStateM.Result.ok.injEq] at h; exact ⟨op, t', rfl, hp, h.2.symm⟩
    | error e t' => simp only [hp] at h; cases h

/-- `respb_parse_command`: its return value with the parser and the record as it leaves them,
or `none` when the run read past `buffer_len` or stored past the end of `args`. -/
def respbParseCommand (parser : RespbParser) (cmd : RespbCommand) :
    Option (Int × RespbParser × RespbCommand) :=
  match parseCommand (.start parser cmd) with
  | .ok () s => some (1, { parser with pos := s.pos }, s.cmd)
  | .error .incomplete s => some (0, { parser with pos := s.pos }, s.cmd)
  | .error .unknownOpcode s => some (-1, { parser with pos := s.pos }, s.cmd)
  | .error .bufferOverread _ | .error .argsOverflow _ => none

theorem respbParseCommand_of_ok {parser : RespbParser} {cmd : RespbCommand} {t : ParseState}
    (h : parseCommand (.start parser cmd) = .ok () t) :
    respbParseCommand parser cmd = some (1, { parser with pos := t.pos }, t.cmd) := by
  rw [respbParseCommand, h]

theorem respbParseCommand_of_incomplete {parser : RespbParser} {cmd : RespbCommand}
    {u : ParseState} (h : parseCommand (.start parser cmd) = .error .incomplete u) :
    respbParseCommand parser cmd = some (0, { parser with pos := u.pos }, u.cmd) := by
  rw [respbParseCommand, h]

end ProtocolBench.Respb
