import ProtocolBench.Respb.Wire
import ProtocolBench.Respb.Opcode

/-!
The records of `respb.h` and the reading steps of `respb_parser.c`.

A pointer into the parser's buffer is an offset from the buffer's start, so an argument
slice is an offset and a length. `ParseM` carries the cursor and the command record being
filled, and its early exit keeps the state as it stands, as the C `return` does. Its steps are
the macros `CHECK_AVAIL`, `READ_STRING_2B` and `READ_STRING_4B` and the statements the parser
repeats ("read a 2-byte count", "skip `n` bytes", a counted `for` loop). A read at or past
`buffer_len` and a store at or past `args[RESPB_MAX_ARGS]` stop the run in a state of their own,
so that the bounds theorems can say that neither happens.
-/

namespace ProtocolBench.Respb

def respbMaxArgs : Nat := 64

structure RespbArg where
  data : Nat
  len : Nat
  deriving DecidableEq, Repr, Inhabited

structure RespbCommand where
  opcode : UInt16
  muxId : UInt16
  argc : Nat
  args : Fin respbMaxArgs → RespbArg
  rawPayload : Nat
  rawPayloadLen : Nat
  moduleSubcommand : UInt32
  moduleId : UInt16
  commandId : UInt16
  respLength : UInt32
  respData : Nat
  deriving Inhabited

structure RespbParser where
  buffer : Nat → UInt8
  bufferLen : Nat
  pos : Nat

def respbParserInit (buf : Nat → UInt8) (len : Nat) : RespbParser := ⟨buf, len, 0⟩

/-- The parser's cursor together with the record it fills. `assigned` is ghost state, not in the
C: the slots of `args` that this call of the parser has stored to. -/
structure ParseState where
  buffer : Nat → UInt8
  bufferLen : Nat
  pos : Nat
  cmd : RespbCommand
  assigned : Fin respbMaxArgs → Bool

/-- The state `respb_parse_command` starts from: the caller's parser and record, with no slot
assigned yet. -/
def ParseState.start (parser : RespbParser) (cmd : RespbCommand) : ParseState :=
  ⟨parser.buffer, parser.bufferLen, parser.pos, cmd, fun _ => false⟩

/-- The big-endian 2-byte value at offset `i` of the buffer. -/
def ParseState.u16 (s : ParseState) (i : Nat) : Nat :=
  (readU16Be (s.buffer i) (s.buffer (i + 1))).toNat

def ParseState.u32 (s : ParseState) (i : Nat) : UInt32 :=
  readU32Be (s.buffer i) (s.buffer (i + 1)) (s.buffer (i + 2)) (s.buffer (i + 3))

/-- `args[k] = a`, recorded in the ghost set of assigned slots. -/
def ParseState.storeArg (s : ParseState) (k : Fin respbMaxArgs) (a : RespbArg) : ParseState :=
  { s with cmd := { s.cmd with args := Function.update s.cmd.args k a }
           assigned := Function.update s.assigned k true }

@[simp] theorem ParseState.storeArg_buffer (s : ParseState) (k : Fin respbMaxArgs) (a : RespbArg) :
    (s.storeArg k a).buffer = s.buffer := rfl

@[simp] theorem ParseState.storeArg_bufferLen (s : ParseState) (k : Fin respbMaxArgs)
    (a : RespbArg) : (s.storeArg k a).bufferLen = s.bufferLen := rfl

@[simp] theorem ParseState.storeArg_pos (s : ParseState) (k : Fin respbMaxArgs) (a : RespbArg) :
    (s.storeArg k a).pos = s.pos := rfl

@[simp] theorem ParseState.storeArg_args (s : ParseState) (k : Fin respbMaxArgs) (a : RespbArg) :
    (s.storeArg k a).cmd.args = Function.update s.cmd.args k a := rfl

@[simp] theorem ParseState.storeArg_assigned (s : ParseState) (k : Fin respbMaxArgs)
    (a : RespbArg) : (s.storeArg k a).assigned = Function.update s.assigned k true := rfl

/-- Why a parse stopped early: `return 0`, `return -1`, or an access out of bounds. -/
inductive ParseStop
  | incomplete
  | unknownOpcode
  | bufferOverread
  | argsOverflow
  deriving DecidableEq, Repr

abbrev ParseM := EStateM ParseStop ParseState

namespace ParseM

def checkAvail (n : Nat) : ParseM Unit := fun s =>
  if s.pos + n > s.bufferLen then .error .incomplete s else .ok () s

def getPos : ParseM Nat := fun s => .ok s.pos s

def advance (n : Nat) : ParseM Unit := fun s => .ok () { s with pos := s.pos + n }

/-- `parser->pos < parser->buffer_len`, which the HEXPIRE cases test. -/
def posBeforeEnd : ParseM Bool := fun s => .ok (decide (s.pos < s.bufferLen)) s

def byteAt (i : Nat) : ParseM UInt8 := fun s =>
  if i < s.bufferLen then .ok (s.buffer i) s else .error .bufferOverread s

def setCmd (f : RespbCommand → RespbCommand) : ParseM Unit := fun s =>
  .ok () { s with cmd := f s.cmd }

def storeArg (k : Nat) (a : RespbArg) : ParseM Unit := fun s =>
  if h : k < respbMaxArgs then .ok () (s.storeArg ⟨k, h⟩ a) else .error .argsOverflow s

def setArgc (n : Nat) : ParseM Unit := setCmd fun c => { c with argc := n }

def u16At (i : Nat) : ParseM UInt16 := do
  let b0 ← byteAt i
  let b1 ← byteAt (i + 1)
  pure (readU16Be b0 b1)

def u32At (i : Nat) : ParseM UInt32 := do
  let b0 ← byteAt i
  let b1 ← byteAt (i + 1)
  let b2 ← byteAt (i + 2)
  let b3 ← byteAt (i + 3)
  pure (readU32Be b0 b1 b2 b3)

/-- `CHECK_AVAIL(parser, n); parser->pos += n;` -/
def skip (n : Nat) : ParseM Unit := do
  checkAvail n
  advance n

/-- `CHECK_AVAIL(parser, 1); v = parser->buffer[parser->pos]; parser->pos += 1;` -/
def readU8 : ParseM UInt8 := do
  checkAvail 1
  let p ← getPos
  let v ← byteAt p
  advance 1
  pure v

/-- `CHECK_AVAIL(parser, 2); v = read_u16_be(parser->buffer + parser->pos); parser->pos += 2;`,
returning the `uint16_t` as the number the C expressions compute with. -/
def readU16 : ParseM Nat := do
  checkAvail 2
  let p ← getPos
  let v ← u16At p
  advance 2
  pure v.toNat

def readU32 : ParseM UInt32 := do
  checkAvail 4
  let p ← getPos
  let v ← u32At p
  advance 4
  pure v

/-- `READ_STRING_2B(parser, &cmd->args[k])`. -/
def readString2B (k : Nat) : ParseM Unit := do
  checkAvail 2
  let p ← getPos
  let len ← u16At p
  advance 2
  checkAvail len.toNat
  let p ← getPos
  storeArg k ⟨p, len.toNat⟩
  advance len.toNat

/-- `READ_STRING_4B(parser, &cmd->args[k])`. -/
def readString4B (k : Nat) : ParseM Unit := do
  checkAvail 4
  let p ← getPos
  let len ← u32At p
  advance 4
  checkAvail len.toNat
  let p ← getPos
  storeArg k ⟨p, len.toNat⟩
  advance len.toNat

/-- Iterations `i, i + 1, …` of `for (…; i < count && guard; i++) body`, with `n` of the
`count` iterations left. -/
def forCountFrom (guard : Nat → Prop) [DecidablePred guard] (body : Nat → ParseM Unit) :
    Nat → Nat → ParseM Unit
  | _, 0 => pure ()
  | i, n + 1 => if guard i then do body i; forCountFrom guard body (i + 1) n else pure ()

/-- `for (uint16_t i = 0; i < count && guard; i++) body`. -/
def forCount (count : Nat) (guard : Nat → Prop) [DecidablePred guard]
    (body : Nat → ParseM Unit) : ParseM Unit :=
  forCountFrom guard body 0 count

/-- The loop over `count` strings `[2B len][s]` into `args[first + i]`, as far as
`i + first < RESPB_MAX_ARGS` (`first` is 0 or 1 in the parser). -/
def readKeys (first count : Nat) : ParseM Unit :=
  forCount count (fun i => i + first < respbMaxArgs) fun i => readString2B (i + first)

theorem bind_of_ok {α β : Type} {x : ParseM α} {f : α → ParseM β} {s t : ParseState} {a : α}
    (h : x s = .ok a t) : (x >>= f) s = f a t := by
  show EStateM.bind x f s = _
  unfold EStateM.bind
  rw [h]

theorem bind_of_error {α β : Type} {x : ParseM α} {f : α → ParseM β} {s t : ParseState}
    {e : ParseStop} (h : x s = .error e t) : (x >>= f) s = .error e t := by
  show EStateM.bind x f s = _
  unfold EStateM.bind
  rw [h]

theorem bind_apply {α β : Type} (x : ParseM α) (f : α → ParseM β) (s : ParseState) :
    (x >>= f) s = match x s with
      | .ok a t => f a t
      | .error e t => .error e t := by
  show EStateM.bind x f s = _
  unfold EStateM.bind
  cases x s <;> rfl

theorem bind_eq_ok {α β : Type} {x : ParseM α} {f : α → ParseM β} {s t : ParseState} {b : β}
    (h : (x >>= f) s = .ok b t) : ∃ a u, x s = .ok a u ∧ f a u = .ok b t := by
  rw [bind_apply] at h
  cases hx : x s with
  | ok a u => rw [hx] at h; exact ⟨a, u, rfl, h⟩
  | error e u => rw [hx] at h; cases h

theorem pure_apply {α : Type} (a : α) (s : ParseState) : (pure a : ParseM α) s = .ok a s := rfl

theorem throw_apply {α : Type} (e : ParseStop) (s : ParseState) :
    (throw e : ParseM α) s = .error e s := rfl

theorem setCmd_apply (f : RespbCommand → RespbCommand) (s : ParseState) :
    setCmd f s = .ok () { s with cmd := f s.cmd } := rfl

theorem getPos_apply (s : ParseState) : getPos s = .ok s.pos s := rfl

theorem posBeforeEnd_apply (s : ParseState) :
    posBeforeEnd s = .ok (decide (s.pos < s.bufferLen)) s := rfl

theorem skip_apply (n : Nat) (s : ParseState) :
    skip n s = if s.pos + n > s.bufferLen then .error .incomplete s
      else .ok () { s with pos := s.pos + n } := by
  simp only [skip, bind_apply, checkAvail, advance]
  split_ifs <;> rfl

theorem readU8_apply (s : ParseState) :
    readU8 s = if s.pos + 1 > s.bufferLen then .error .incomplete s
      else .ok (s.buffer s.pos) { s with pos := s.pos + 1 } := by
  simp only [readU8, bind_apply, checkAvail, getPos, byteAt, advance, pure_apply]
  by_cases h : s.pos + 1 > s.bufferLen
  · simp only [h, ite_true]
  · simp only [h, ite_false, show s.pos < s.bufferLen by omega, ite_true]

theorem readU16_apply (s : ParseState) :
    readU16 s = if s.pos + 2 > s.bufferLen then .error .incomplete s
      else .ok (s.u16 s.pos) { s with pos := s.pos + 2 } := by
  simp only [readU16, bind_apply, checkAvail, getPos, u16At, byteAt, advance, pure_apply]
  by_cases h : s.pos + 2 > s.bufferLen
  · simp only [h, ite_true]
  · simp only [h, ite_false, show s.pos < s.bufferLen by omega,
      show s.pos + 1 < s.bufferLen by omega, ite_true]
    rfl

theorem u32At_of_lt {i : Nat} {s : ParseState} (h : i + 4 ≤ s.bufferLen) :
    u32At i s = .ok (s.u32 i) s := by
  simp only [u32At, bind_apply, byteAt, pure_apply, show i < s.bufferLen by omega,
    show i + 1 < s.bufferLen by omega, show i + 2 < s.bufferLen by omega,
    show i + 3 < s.bufferLen by omega, ite_true]
  rfl

theorem readU32_apply (s : ParseState) :
    readU32 s = if s.pos + 4 > s.bufferLen then .error .incomplete s
      else .ok (s.u32 s.pos) { s with pos := s.pos + 4 } := by
  simp only [readU32, bind_apply, checkAvail, getPos, advance, pure_apply]
  by_cases h : s.pos + 4 > s.bufferLen
  · simp only [h, ite_true]
  · simp only [h, ite_false, u32At_of_lt (show s.pos + 4 ≤ s.bufferLen by omega)]

theorem readString2B_apply (k : Nat) (s : ParseState) :
    readString2B k s =
      if s.pos + 2 > s.bufferLen then .error .incomplete s
      else if s.pos + 2 + s.u16 s.pos > s.bufferLen then
        .error .incomplete { s with pos := s.pos + 2 }
      else if h : k < respbMaxArgs then
        .ok () ({ s with pos := s.pos + 2 + s.u16 s.pos }.storeArg ⟨k, h⟩
          ⟨s.pos + 2, s.u16 s.pos⟩)
      else .error .argsOverflow { s with pos := s.pos + 2 } := by
  simp only [readString2B, bind_apply, checkAvail, getPos, u16At, byteAt, advance, storeArg,
    pure_apply, ParseState.u16]
  by_cases h : s.pos + 2 > s.bufferLen
  · simp only [h, ite_true]
  · simp only [h, ite_false, show s.pos < s.bufferLen by omega,
      show s.pos + 1 < s.bufferLen by omega, ite_true]
    split_ifs <;> rfl

theorem readString4B_apply (k : Nat) (s : ParseState) :
    readString4B k s =
      if s.pos + 4 > s.bufferLen then .error .incomplete s
      else if s.pos + 4 + (s.u32 s.pos).toNat > s.bufferLen then
        .error .incomplete { s with pos := s.pos + 4 }
      else if h : k < respbMaxArgs then
        .ok () ({ s with pos := s.pos + 4 + (s.u32 s.pos).toNat }.storeArg ⟨k, h⟩
          ⟨s.pos + 4, (s.u32 s.pos).toNat⟩)
      else .error .argsOverflow { s with pos := s.pos + 4 } := by
  simp only [readString4B, bind_apply, checkAvail, getPos, advance, storeArg, pure_apply]
  by_cases h : s.pos + 4 > s.bufferLen
  · simp only [h, ite_true]
  · simp only [h, ite_false, u32At_of_lt (show s.pos + 4 ≤ s.bufferLen by omega)]
    split_ifs <;> rfl

theorem forCountFrom_succ (guard : Nat → Prop) [DecidablePred guard] (body : Nat → ParseM Unit)
    (i n : Nat) :
    forCountFrom guard body i (n + 1) =
      if guard i then body i >>= fun _ => forCountFrom guard body (i + 1) n else pure () := rfl

end ParseM

end ProtocolBench.Respb
