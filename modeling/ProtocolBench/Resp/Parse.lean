import ProtocolBench.Resp.Client

/-!
`parseMultibulk` and `valkey_parse_command`. The function is cut where the C leaves or goes on:
the multibulk header, the bulk length, the bulk argument (with the growth of `argv` and the
zero-copy capture of a big argument), the `while (c->multibulklen)` loop and the completion.
Each part returns how it ends: `break` out of the loop, `return` a flag, or go on.
-/

namespace ProtocolBench.Resp
open RespM

/-- How a part of `parseMultibulk` ends: `break` out of the loop, `return` a flag, or go on. -/
inductive Turn where
  | brk
  | ret (flag : Nat)
  | cont
  deriving DecidableEq, Repr

namespace ValkeyClient

/-- `c->read_flags & READ_FLAGS_REPLICATED`. -/
def isReplicated (c : ValkeyClient) : Bool := c.readFlags &&& readFlagsReplicated ≠ 0

/-- `c->read_flags & READ_FLAGS_AUTH_REQUIRED`. -/
def authRequired (c : ValkeyClient) : Bool := c.readFlags &&& readFlagsAuthRequired ≠ 0

@[simp] theorem isReplicated_init (buf : List UInt8) : (valkeyClientInit buf).isReplicated = false := by
  simp [isReplicated, valkeyClientInit]

@[simp] theorem authRequired_init (buf : List UInt8) : (valkeyClientInit buf).authRequired = false := by
  simp [authRequired, valkeyClientInit]

/-- `sdslen(c->querybuf) - c->qb_pos`. -/
def unread (c : ValkeyClient) : Nat := c.querybuf.length - c.qbPos

/-- `newline - (c->querybuf + c->qb_pos) > (ssize_t)(sdslen(c->querybuf) - c->qb_pos - 2)`: the
`'\r'` at `nl` is the last byte, so the `'\n'` has not arrived. -/
def lineIncomplete (c : ValkeyClient) (nl : Nat) : Prop :=
  (nl : Int) - c.qbPos > (c.unread : Int) - 2

instance (c : ValkeyClient) (nl : Nat) : Decidable (c.lineIncomplete nl) :=
  inferInstanceAs (Decidable ((nl : Int) - c.qbPos > (c.unread : Int) - 2))

/-- `!is_replicated && c->qb_pos == 0 && c->bulklen >= PROTO_MBULK_BIG_ARG &&
sdslen(c->querybuf) == (size_t)(c->bulklen + 2)`: the buffer holds just the big argument and its
CRLF. -/
def capturesBuffer (c : ValkeyClient) : Prop :=
  c.isReplicated = false ∧ c.qbPos = 0 ∧ (protoMbulkBigArg : Int) ≤ c.bulklen ∧
    c.querybuf.length = (c.bulklen + 2).toNat

instance (c : ValkeyClient) : Decidable c.capturesBuffer :=
  inferInstanceAs (Decidable (_ ∧ _ ∧ _ ∧ _))

end ValkeyClient

/-- The multibulk header `*<count>\r\n`, read when `multibulklen == 0`: it sets up `argv` for
`min(count, 1024)` arguments. -/
def readMultibulkLen : RespM Turn := fun c =>
  if c.argc ≠ 0 then .error .assertFailed c
  else match findCR c.querybuf c.qbPos with
  | none =>
    .ok (.ret (if c.unread > protoInlineMaxSize then readFlagsErrorBigMultibulk else 0)) c
  | some nl =>
    if c.lineIncomplete nl then .ok (.ret 0) c
    else if byteAt c.querybuf c.qbPos ≠ 42 then .error .assertFailed c
    else
      let slen := nl - (1 + c.qbPos)
      match string2ll (slice c.querybuf (1 + c.qbPos) slen) with
      | none => .ok (.ret readFlagsErrorInvalidMultibulkLen) c
      | some ll =>
        if ll > intMax then .ok (.ret readFlagsErrorInvalidMultibulkLen) c
        else if ll > 10 ∧ c.authRequired then .ok (.ret readFlagsErrorUnauthenticatedMultibulkLen) c
        else if ll ≤ 0 then .ok (.ret readFlagsParsingNegativeMbulkLen) { c with qbPos := nl + 2 }
        else .ok .cont
          { c with
            qbPos := nl + 2
            multibulklen := ll
            bulklen := -1
            argv := fun _ => []
            argvLen := min ll 1024
            argvLenSum := 0
            netInputBytesCurrCmd := c.netInputBytesCurrCmd + (slen + 3)
            declared := ll }

/-- The bulk length `$<len>\r\n`, read when `bulklen == -1`. For a big argument of a client that
is not a replica, when the buffer holds no more than the argument and its CRLF, the consumed
bytes are dropped (`sdsrange`) and the cursor goes back to 0. -/
def readBulkLen : RespM Turn := fun c =>
  match findCR c.querybuf c.qbPos with
  | none => .ok (if c.unread > protoInlineMaxSize then .ret readFlagsErrorBigBulkCount else .brk) c
  | some nl =>
    if c.lineIncomplete nl then .ok (.ret 0) c
    else if byteAt c.querybuf c.qbPos ≠ 36 then .ok (.ret readFlagsErrorMbulkUnexpectedCharacter) c
    else
      let slen := nl - (c.qbPos + 1)
      match string2ll (slice c.querybuf (c.qbPos + 1) slen) with
      | none => .ok (.ret readFlagsErrorMbulkInvalidBulkLen) c
      | some ll =>
        if ll < 0 ∨ (!c.isReplicated ∧ ll > 512 * 1024 * 1024) then
          .ok (.ret readFlagsErrorMbulkInvalidBulkLen) c
        else if ll > 16384 ∧ c.authRequired then .ok (.ret readFlagsErrorUnauthenticatedBulkLen) c
        else
          let c₁ := { c with qbPos := nl + 2 }
          let c₂ :=
            if !c.isReplicated ∧ protoMbulkBigArg ≤ ll ∧ c₁.unread ≤ ll.toNat + 2 then
              { c₁ with
                querybuf := c₁.querybuf.drop c₁.qbPos
                qbPos := 0
                querybufPeak :=
                  if c₁.querybufPeak < ll.toNat + 2 then ll.toNat + 2 else c₁.querybufPeak }
            else c₁
          .ok .cont
            { c₂ with
              bulklen := ll
              netInputBytesCurrCmd := c₂.netInputBytesCurrCmd + (slen + 3) }

/-- `if (*argc >= *argv_len)`: double `argv_len` (up to `INT_MAX`), and at least
`argc + multibulklen`. -/
def growArgv : RespM Unit := fun c =>
  if c.argc ≥ c.argvLen then
    match intAdd c.argc c.multibulklen c with
    | .ok sum c =>
      let len₁ := if c.argvLen < intMax / 2 then c.argvLen * 2 else intMax
      .ok () { c with argvLen := if len₁ < sum then sum else len₁ }
    | .error e c => .error e c
  else .ok () c

/-- The argument: the whole buffer when it holds just this big argument and its CRLF (zero copy,
and a fresh empty buffer), a copy of the slice at the cursor otherwise. -/
def takeBulk : RespM Unit := fun c =>
  if c.capturesBuffer then
    match storeArg (c.querybuf.take c.bulklen.toNat) c with
    | .ok () c => .ok () { c with argvLenSum := c.argvLenSum + c.bulklen.toNat, querybuf := [] }
    | .error e c => .error e c
  else
    match storeArg (slice c.querybuf c.qbPos c.bulklen.toNat) c with
    | .ok () c =>
      .ok ()
        { c with
          argvLenSum := c.argvLenSum + c.bulklen.toNat
          qbPos := c.qbPos + (c.bulklen.toNat + 2) }
    | .error e c => .error e c

/-- The bulk argument, when its bytes and CRLF have arrived. -/
def readBulkArg : RespM Turn := fun c =>
  if c.unread < (c.bulklen + 2).toNat then .ok .brk c
  else match (growArgv >>= fun _ => takeBulk) c with
  | .ok () c => .ok .cont { c with bulklen := -1, multibulklen := c.multibulklen - 1 }
  | .error e c => .error e c

/-- One turn of `while (c->multibulklen)`: the bulk length if it is not known, then the
argument. -/
def bulkTurn : RespM Turn := fun c =>
  if c.bulklen = -1 then
    match readBulkLen c with
    | .ok .cont c => readBulkArg c
    | r => r
  else readBulkArg c

/-- `while (c->multibulklen) { … }` with `n` turns left. A turn that goes on has stored one
argument and decremented `multibulklen`, so from `multibulklen = n` the loop ends within `n`
turns. -/
def bulkLoop : Nat → RespM Turn
  | 0 => pure .brk
  | n + 1 => fun c =>
    if c.multibulklen = 0 then .ok .brk c
    else match bulkTurn c with
    | .ok .cont c => bulkLoop n c
    | r => r

/-- After the loop: when every argument is in, count the command's bytes and return
`READ_FLAGS_PARSING_COMPLETED`. -/
def finishMultibulk : RespM Nat := fun c =>
  if c.multibulklen = 0 then
    match intMul c.argc 2 c with
    | .ok twice c =>
      .ok readFlagsParsingCompleted
        { c with
          netInputBytesCurrCmd := c.netInputBytesCurrCmd + (c.argvLenSum + twice.toNat)
          reqtype := 0 }
    | .error e c => .error e c
  else .ok 0 c

/-- `parseMultibulk(c, &c->argc, &c->argv, &c->argv_len, &c->argv_len_sum,
&c->net_input_bytes_curr_cmd)`: 0 while the command is incomplete, else a read flag. -/
def parseMultibulk : RespM Nat := fun c =>
  match (if c.multibulklen = 0 then readMultibulkLen c else .ok .cont c) with
  | .ok (.ret flag) c => .ok flag c
  | .ok _ c =>
    if c.multibulklen > 0 then
      match bulkLoop c.multibulklen.toNat c with
      | .ok (.ret flag) c => .ok flag c
      | .ok _ c => finishMultibulk c
      | .error e c => .error e c
    else .error .assertFailed c
  | .error e c => .error e c

/-- `c->read_flags |= flag` and what `valkey_parse_command` returns for the flag: 1 for a
command, -1 for an error, 0 otherwise. -/
def reportFlag (flag : Nat) : RespM Int := fun c =>
  let c := { c with readFlags := c.readFlags ||| flag }
  if flag &&& readFlagsParsingCompleted ≠ 0 then .ok 1 c
  else if flag &&& readFlagsErrors ≠ 0 then .ok (-1) c
  else .ok 0 c

/-- `valkey_parse_command(c)`: 1 for a command, 0 when more input is needed, -1 on an error
(and for an inline request, which the benchmark does not handle). -/
def valkeyParseCommand : RespM Int := fun c =>
  if c.reqtype = 0 ∧ c.qbPos ≥ c.querybuf.length then .ok 0 c
  else
    let c := if c.reqtype = 0 then
        { c with
          reqtype := if byteAt c.querybuf c.qbPos = 42 then protoReqMultibulk else protoReqInline }
      else c
    if c.reqtype = protoReqMultibulk then (parseMultibulk >>= reportFlag) c
    else .ok (-1) c

end ProtocolBench.Resp
