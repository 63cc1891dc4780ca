import Mathlib.Tactic

/-!
The client state of the RESP parser extracted from Valkey's `networking.c`, and the helpers that
`parseMultibulk` calls: `string2ll`, `memchr` for `'\r'`, `sdsrange`. The query buffer `sds` is
its contents; its allocation, the reference counts of the argument objects and the frees are left
out. The C `int` and `long` fields are integers, and the steps that compute with them check the
`int` range: an overflow is undefined behaviour, and the model stops there (`signedOverflow`),
as it stops at a failed `assert` and at a store past the end of `argv`.
-/

namespace ProtocolBench.Resp

/-- `INT_MAX`. -/
def intMax : Int := 2 ^ 31 - 1

/-- `PROTO_INLINE_MAX_SIZE`. -/
def protoInlineMaxSize : Nat := 1024 * 64

/-- `PROTO_MBULK_BIG_ARG`. -/
def protoMbulkBigArg : Nat := 1024 * 32

/-- `PROTO_REQ_MULTIBULK` and `PROTO_REQ_INLINE`. -/
def protoReqMultibulk : Int := 2

def protoReqInline : Int := 1

def readFlagsErrorBigMultibulk : Nat := 1 <<< 2

def readFlagsErrorInvalidMultibulkLen : Nat := 1 <<< 3

def readFlagsErrorUnauthenticatedMultibulkLen : Nat := 1 <<< 4

def readFlagsErrorUnauthenticatedBulkLen : Nat := 1 <<< 5

def readFlagsErrorBigBulkCount : Nat := 1 <<< 6

def readFlagsErrorMbulkUnexpectedCharacter : Nat := 1 <<< 7

def readFlagsErrorMbulkInvalidBulkLen : Nat := 1 <<< 8

def readFlagsParsingNegativeMbulkLen : Nat := 1 <<< 12

def readFlagsParsingCompleted : Nat := 1 <<< 13

def readFlagsReplicated : Nat := 1 <<< 14

def readFlagsAuthRequired : Nat := 1 <<< 16

/-- The errors that `valkey_parse_command` reports as -1. -/
def readFlagsErrors : Nat :=
  readFlagsErrorBigMultibulk ||| readFlagsErrorInvalidMultibulkLen |||
    readFlagsErrorBigBulkCount ||| readFlagsErrorMbulkUnexpectedCharacter |||
    readFlagsErrorMbulkInvalidBulkLen

/-- `valkey_client`. `declared` is not a field of the C structure: it records the multibulk count
of the command in progress, which the invariant of the parser is stated against. -/
structure ValkeyClient where
  querybuf : List UInt8
  qbPos : Nat
  multibulklen : Int
  bulklen : Int
  reqtype : Int
  readFlags : Nat
  argv : Nat → List UInt8
  argc : Int
  argvLen : Int
  argvLenSum : Nat
  querybufPeak : Nat
  netInputBytesCurrCmd : Nat
  declared : Int

/-- `valkey_client_init(c, buf, len)`. -/
def valkeyClientInit (buf : List UInt8) : ValkeyClient where
  querybuf := buf
  qbPos := 0
  multibulklen := 0
  bulklen := -1
  reqtype := 0
  readFlags := 0
  argv := fun _ => []
  argc := 0
  argvLen := 0
  argvLenSum := 0
  querybufPeak := buf.length
  netInputBytesCurrCmd := 0
  declared := 0

/-- `s[i]`; the terminating NUL of an `sds` at `i = sdslen(s)`. -/
def byteAt (s : List UInt8) (i : Nat) : UInt8 := s.getD i 0

/-- `s[pos .. pos + n)`. -/
def slice (s : List UInt8) (pos n : Nat) : List UInt8 := (s.drop pos).take n

/-- `memchr(s + pos, '\r', sdslen(s) - pos)`: the index of the first `'\r'` at or after `pos`. -/
def findCR (s : List UInt8) (pos : Nat) : Option Nat :=
  ((s.drop pos).findIdx? (· = 13)).map (· + pos)

/-- `ULLONG_MAX`. -/
def ullongMax : Nat := 2 ^ 64 - 1

/-- The digit loop of `string2ll`: while the next byte is a digit, `v = v * 10 + digit`, failing
when the `unsigned long long` would overflow; the value and the bytes after the digits. -/
def string2llDigits : Nat → List UInt8 → Option (Nat × List UInt8)
  | v, [] => some (v, [])
  | v, d :: ds =>
    if 48 ≤ d ∧ d ≤ 57 then
      if v > ullongMax / 10 then none
      else if v * 10 > ullongMax - (d.toNat - 48) then none
      else string2llDigits (v * 10 + (d.toNat - 48)) ds
    else some (v, d :: ds)

/-- `string2ll(s, slen, &value)` of `util.c`: the `long long` that `s` spells, or `none`. -/
def string2ll (s : List UInt8) : Option Int :=
  match s with
  | [] => none
  | [48] => some 0
  | c :: rest =>
    let negative := c = 45
    match (if negative then rest else c :: rest) with
    | [] => none
    | d :: ds =>
      if 49 ≤ d ∧ d ≤ 57 then
        match string2llDigits (d.toNat - 48) ds with
        | some (v, []) =>
          if negative then (if v > 2 ^ 63 then none else some (-(v : Int)))
          else if v > 2 ^ 63 - 1 then none else some (v : Int)
        | _ => none
      else if d = 48 ∧ s.length = 1 then some 0
      else none

/-- Why a call of the parser does not return: a failed `assert`, an `int` overflow (undefined
behaviour), or a store past the end of `argv`. -/
inductive RespStop where
  | assertFailed
  | signedOverflow
  | argvOverflow
  deriving DecidableEq, Repr

/-- A step of the parser over the client state. -/
abbrev RespM := EStateM RespStop ValkeyClient

namespace RespM

/-- The sum of two `int`s. -/
def intAdd (a b : Int) : RespM Int := fun c =>
  if a + b > intMax ∨ a + b < -intMax - 1 then .error .signedOverflow c else .ok (a + b) c

/-- The product of two `int`s. -/
def intMul (a b : Int) : RespM Int := fun c =>
  if a * b > intMax ∨ a * b < -intMax - 1 then .error .signedOverflow c else .ok (a * b) c

/-- `assert(cond)`. -/
def assert (cond : Prop) [Decidable cond] : RespM Unit := fun c =>
  if cond then .ok () c else .error .assertFailed c

/-- `(*argv)[(*argc)++] = obj`: the store below `argv_len`, then the increment. -/
def storeArg (obj : List UInt8) : RespM Unit := fun c =>
  if c.argc < c.argvLen ∧ 0 ≤ c.argc then
    .ok () { c with argv := Function.update c.argv c.argc.toNat obj, argc := c.argc + 1 }
  else .error .argvOverflow c

theorem bind_of_ok {α β : Type} {x : RespM α} {f : α → RespM β} {c c' : ValkeyClient} {a : α}
    (h : x c = .ok a c') : (x >>= f) c = f a c' := by
  show EStateM.bind x f c = _
  unfold EStateM.bind
  rw [h]

end RespM

end ProtocolBench.Resp
