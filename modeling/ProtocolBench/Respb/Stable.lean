import ProtocolBench.Respb.Safety
import ProtocolBench.Respb.Frames

/-!
What a successful parse depends on. Run over another buffer that agrees with the first below
the cursor where it stopped, a step returns the same result if that cursor fits the new
`buffer_len` and reports incomplete if the new buffer ends before it. Every reading step of the
parser has this property (`Stable`), and it is closed under `>>=`, `if` and the counted loops.
The one step that has not is `posBeforeEnd`, the test `parser->pos < parser->buffer_len` of the
HEXPIRE cases: bytes appended after the frame change its result.
-/

namespace ProtocolBench.Respb
open ParseM

/-- The state `s` over the buffer `buf` of length `len`. -/
def ParseState.withBuffer (s : ParseState) (buf : Nat → UInt8) (len : Nat) : ParseState :=
  { s with buffer := buf, bufferLen := len }

section WithBuffer

variable {s : ParseState} {buf : Nat → UInt8} {len : Nat}

@[simp] theorem ParseState.withBuffer_pos : (s.withBuffer buf len).pos = s.pos := rfl

@[simp] theorem ParseState.withBuffer_buffer : (s.withBuffer buf len).buffer = buf := rfl

@[simp] theorem ParseState.withBuffer_bufferLen : (s.withBuffer buf len).bufferLen = len := rfl

@[simp] theorem ParseState.withBuffer_cmd : (s.withBuffer buf len).cmd = s.cmd := rfl

end WithBuffer

/-- The buffers `b₁` and `b₂` agree below `n`. -/
def AgreeBelow (n : Nat) (b₁ b₂ : Nat → UInt8) : Prop := ∀ i < n, b₁ i = b₂ i

theorem AgreeBelow.mono {m n : Nat} {b₁ b₂ : Nat → UInt8} (h : AgreeBelow n b₁ b₂) (hmn : m ≤ n) :
    AgreeBelow m b₁ b₂ := fun i hi => h i (by omega)

/-- `m` has read only below the cursor where it stops: over a buffer that agrees there, it
returns the same if that cursor fits the new length and reports incomplete otherwise. -/
structure Stable {α : Type} (m : ParseM α) : Prop where
  mono : ∀ {s a t}, m s = .ok a t → s.pos ≤ t.pos ∧ t.buffer = s.buffer ∧ t.bufferLen = s.bufferLen
  extend : ∀ {s a t buf len}, m s = .ok a t → t.pos ≤ len → AgreeBelow t.pos buf s.buffer →
    m (s.withBuffer buf len) = .ok a (t.withBuffer buf len)
  truncate : ∀ {s a t buf len}, m s = .ok a t → s.pos ≤ len → len < t.pos →
    AgreeBelow len buf s.buffer → ∃ u, m (s.withBuffer buf len) = .error .incomplete u

section Closure

variable {α β : Type}

theorem stable_pure (a : α) : Stable (pure a : ParseM α) := by
  refine ⟨fun h => ?_, fun h _ _ => ?_, fun h hs hlen _ => ?_⟩ <;> cases h
  · exact ⟨le_rfl, rfl, rfl⟩
  · rfl
  · omega

theorem stable_bind {x : ParseM α} {f : α → ParseM β} (hx : Stable x) (hf : ∀ a, Stable (f a)) :
    Stable (x >>= f) := by
  refine ⟨fun h => ?_, fun h hlen hag => ?_, fun {s _ _ _ len} h hs hlen hag => ?_⟩ <;>
    obtain ⟨a, u, hu, ht⟩ := bind_eq_ok h
  · obtain ⟨h₁, h₂, h₃⟩ := hx.mono hu
    obtain ⟨h₄, h₅, h₆⟩ := (hf a).mono ht
    exact ⟨h₁.trans h₄, h₅.trans h₂, h₆.trans h₃⟩
  · obtain ⟨-, hbu, -⟩ := hx.mono hu
    have hpt := ((hf a).mono ht).1
    rw [bind_of_ok (hx.extend hu (hpt.trans hlen) (hag.mono hpt))]
    exact (hf a).extend ht hlen (hbu ▸ hag)
  · obtain ⟨-, hbu, -⟩ := hx.mono hu
    by_cases hle : u.pos ≤ len
    · rw [bind_of_ok (hx.extend hu hle (hag.mono hle))]
      exact (hf a).truncate ht hle hlen (hbu ▸ hag)
    · obtain ⟨v, hv⟩ := hx.truncate hu hs (by omega) hag
      exact ⟨v, bind_of_error hv⟩

theorem stable_ite {c : Prop} [Decidable c] {m₁ m₂ : ParseM α} (h₁ : c → Stable m₁)
    (h₂ : ¬c → Stable m₂) : Stable (if c then m₁ else m₂) := by
  split
  · next hc => exact h₁ hc
  · next hc => exact h₂ hc

theorem stable_setCmd (f : RespbCommand → RespbCommand) : Stable (setCmd f) := by
  refine ⟨fun h => ?_, fun h _ _ => ?_, fun h hs hlen _ => ?_⟩ <;> cases h
  · exact ⟨le_rfl, rfl, rfl⟩
  · rfl
  · exact absurd hlen (by simpa using hs)

theorem stable_setArgc (n : Nat) : Stable (setArgc n) := stable_setCmd _

/-- A step that reads `w` bytes at the cursor into a value and moves past them. -/
theorem stable_of_fixed {m : ParseM α} {w : Nat} {v : ParseState → α}
    (hm : ∀ s, m s = if s.pos + w > s.bufferLen then .error .incomplete s
      else .ok (v s) { s with pos := s.pos + w })
    (hv : ∀ s buf len, AgreeBelow (s.pos + w) buf s.buffer → v (s.withBuffer buf len) = v s) :
    Stable m := by
  refine ⟨fun {s _ _} h => ?_, fun {s _ _ buf len} h hlen hag => ?_,
    fun {s _ _ buf len} h hs hlen _ => ?_⟩ <;> rw [hm] at h <;> split_ifs at h <;> cases h
  · exact ⟨Nat.le_add_right _ _, rfl, rfl⟩
  · rw [hm, if_neg (by simpa using hlen), hv s buf len hag]
    rfl
  · exact ⟨_, by rw [hm, if_pos (by simpa using hlen)]⟩

/-- A string `[w-byte len][bytes]` into slot `k`, the length read by `L`. -/
theorem stable_of_string {k w : Nat} {m : ParseM Unit} {L : ParseState → Nat}
    (hm : ∀ s, m s = if s.pos + w > s.bufferLen then .error .incomplete s
      else if s.pos + w + L s > s.bufferLen then .error .incomplete { s with pos := s.pos + w }
      else if h : k < respbMaxArgs then
        .ok () ({ s with pos := s.pos + w + L s }.storeArg ⟨k, h⟩ ⟨s.pos + w, L s⟩)
      else .error .argsOverflow { s with pos := s.pos + w })
    (hL : ∀ s buf len, AgreeBelow (s.pos + w) buf s.buffer → L (s.withBuffer buf len) = L s) :
    Stable m := by
  refine ⟨fun {s _ _} h => ?_, fun {s _ _ buf len} h hlen hag => ?_,
    fun {s _ _ buf len} h hs hlen hag => ?_⟩ <;> rw [hm] at h <;>
    split_ifs at h with h₁ h₂ hk <;> cases h
  · exact ⟨by simp only [ParseState.storeArg_pos]; omega, rfl, rfl⟩
  · simp only [ParseState.storeArg_pos] at hlen hag
    rw [hm, hL s buf len (hag.mono (by omega)), if_neg (by simp; omega),
      if_neg (by simp; omega), dif_pos hk]
    rfl
  · simp only [ParseState.storeArg_pos] at hlen
    by_cases hw : len < s.pos + w
    · exact ⟨_, by rw [hm, if_pos (by simpa using hw)]⟩
    · exact ⟨_, by rw [hm, hL s buf len (hag.mono (by omega)), if_neg (by simpa using hw),
        if_pos (by simpa using hlen)]⟩

theorem stable_skip (n : Nat) : Stable (skip n) :=
  @stable_of_fixed Unit (skip n) n (fun _ => ()) (skip_apply n) fun _ _ _ _ => rfl

theorem stable_readU8 : Stable readU8 :=
  stable_of_fixed readU8_apply fun s _ _ hag => hag s.pos (by omega)

theorem stable_readU16 : Stable readU16 :=
  stable_of_fixed readU16_apply fun s _ _ hag => by
    simp only [ParseState.u16, ParseState.withBuffer_buffer, ParseState.withBuffer_pos,
      hag s.pos (by omega), hag (s.pos + 1) (by omega)]

theorem stable_readU32 : Stable readU32 :=
  stable_of_fixed readU32_apply fun s _ _ hag => by
    simp only [ParseState.u32, ParseState.withBuffer_buffer, ParseState.withBuffer_pos,
      hag s.pos (by omega), hag (s.pos + 1) (by omega), hag (s.pos + 2) (by omega),
      hag (s.pos + 3) (by omega)]

theorem stable_readString2B (k : Nat) : Stable (readString2B k) :=
  stable_of_string (readString2B_apply k) fun s _ _ hag => by
    simp only [ParseState.u16, ParseState.withBuffer_buffer, ParseState.withBuffer_pos,
      hag s.pos (by omega), hag (s.pos + 1) (by omega)]

theorem stable_readString4B (k : Nat) : Stable (readString4B k) :=
  stable_of_string (readString4B_apply k) fun s _ _ hag => by
    simp only [ParseState.u32, ParseState.withBuffer_buffer, ParseState.withBuffer_pos,
      hag s.pos (by omega), hag (s.pos + 1) (by omega), hag (s.pos + 2) (by omega),
      hag (s.pos + 3) (by omega)]

theorem stable_forCountFrom {guard : Nat → Prop} [DecidablePred guard]
    {body : Nat → ParseM Unit} (hbody : ∀ i, Stable (body i)) (i n : Nat) :
    Stable (forCountFrom guard body i n) := by
  induction n generalizing i with
  | zero => exact stable_pure ()
  | succ n ih =>
    rw [forCountFrom_succ]
    exact stable_ite (fun _ => stable_bind (hbody i) fun _ => ih (i + 1)) fun _ => stable_pure ()

theorem stable_forCount {count : Nat} {guard : Nat → Prop} [DecidablePred guard]
    {body : Nat → ParseM Unit} (hbody : ∀ i, Stable (body i)) :
    Stable (forCount count guard body) :=
  stable_forCountFrom hbody 0 count

theorem stable_readKeys (first count : Nat) : Stable (readKeys first count) :=
  stable_forCount fun _ => stable_readString2B _

end Closure

section Cases

theorem stable_readNumkeysFirstArg : Stable readNumkeysFirstArg := by
  unfold readNumkeysFirstArg
  dsimp only
  repeat' first
    | with_reducible apply stable_readString2B | with_reducible apply stable_readKeys
    | with_reducible apply stable_readU16 | with_reducible apply stable_setArgc
    | with_reducible apply stable_pure
    | with_reducible apply stable_ite | with_reducible apply stable_bind | (intro _)

theorem stable_parseModule : Stable parseModule := by
  unfold parseModule
  dsimp only
  repeat' first
    | with_reducible apply stable_readString2B | with_reducible apply stable_readString4B
    | with_reducible apply stable_readKeys | with_reducible apply stable_readU32
    | with_reducible apply stable_readU16 | with_reducible apply stable_skip
    | with_reducible apply stable_setArgc | with_reducible apply stable_setCmd
    | with_reducible apply stable_ite | with_reducible apply stable_bind | (intro _)

theorem stable_parsePassthrough : Stable parsePassthrough := by
  refine ⟨fun {s _ _} h => ?_, fun {s _ _ buf len} h hlen hag => ?_,
    fun {s _ _ buf len} h hs hlen hag => ?_⟩ <;> rw [parsePassthrough_apply] at h <;>
    split_ifs at h with h₁ h₂ <;> cases h
  · exact ⟨by simp only; omega, rfl, rfl⟩
  · have hu : (s.withBuffer buf len).u32 s.pos = s.u32 s.pos := by
      simp only [ParseState.u32, ParseState.withBuffer_buffer, hag s.pos (by simp; omega),
        hag (s.pos + 1) (by simp; omega), hag (s.pos + 2) (by simp; omega),
        hag (s.pos + 3) (by simp; omega)]
    simp only at hlen
    rw [parsePassthrough_apply, if_neg (by simp; omega)]
    simp only [ParseState.withBuffer_pos, hu, ParseState.withBuffer_bufferLen]
    rw [if_neg (by omega)]
    rfl
  · simp only at hlen
    by_cases hw : len < s.pos + 4
    · exact ⟨_, by rw [parsePassthrough_apply, if_pos (by simpa using hw)]⟩
    · have hu : (s.withBuffer buf len).u32 s.pos = s.u32 s.pos := by
        simp only [ParseState.u32, ParseState.withBuffer_buffer, hag s.pos (by omega),
          hag (s.pos + 1) (by omega), hag (s.pos + 2) (by omega), hag (s.pos + 3) (by omega)]
      exact ⟨_, by
        rw [parsePassthrough_apply, if_neg (by simpa using hw)]
        simp only [ParseState.withBuffer_pos, hu, ParseState.withBuffer_bufferLen]
        rw [if_pos (by omega)]⟩

/-- The cases that test `parser->pos < parser->buffer_len`: HEXPIRE, HEXPIREAT, HPEXPIRE and
HPEXPIREAT read their first field only when a byte follows the fixed fields. -/
def Op.testsBufferEnd : Op → Bool
  | .hexpire | .hexpireat | .hpexpire | .hpexpireat => true
  | _ => false

/-- Every other case of the `switch` is `Stable`. -/
theorem stable_parsePayload {op : Op} (hop : op.testsBufferEnd = false) :
    Stable (parsePayload op) := by
  cases op
  case hexpire | hexpireat | hpexpire | hpexpireat => cases hop
  case module => exact stable_parseModule
  case respPassthrough => exact stable_parsePassthrough
  all_goals
    first | apply stable_bind | exact stable_setArgc _
    repeat' first
      | with_reducible apply stable_bind | with_reducible apply stable_readString2B
      | with_reducible apply stable_setArgc | with_reducible apply stable_skip
      | with_reducible apply stable_readU16 | with_reducible intro _
      | with_reducible apply stable_readString4B | with_reducible apply stable_forCount
      | with_reducible apply stable_ite | with_reducible apply stable_readKeys
      | with_reducible apply stable_readU8 | with_reducible apply stable_readU32
      | with_reducible apply stable_pure | with_reducible apply stable_readNumkeysFirstArg

end Cases

section Command

/-- The header over a buffer that agrees on its four bytes. -/
theorem header_withBuffer {s : ParseState} (buf : Nat → UInt8) (len : Nat)
    (hag : AgreeBelow (s.pos + 4) buf s.buffer) :
    (s.withBuffer buf len).frameOpcode = s.frameOpcode ∧
      (s.withBuffer buf len).payloadState = s.payloadState.withBuffer buf len := by
  have hfo : (s.withBuffer buf len).frameOpcode = s.frameOpcode := by
    simp only [ParseState.frameOpcode, ParseState.withBuffer_buffer, ParseState.withBuffer_pos,
      hag s.pos (by omega), hag (s.pos + 1) (by omega)]
  have hmux : (s.withBuffer buf len).frameMuxId = s.frameMuxId := by
    simp only [ParseState.frameMuxId, ParseState.withBuffer_buffer, ParseState.withBuffer_pos,
      hag (s.pos + 2) (by omega), hag (s.pos + 3) (by omega)]
  refine ⟨hfo, ?_⟩
  simp only [ParseState.payloadState, hfo, hmux]
  rfl

/-- `respb_parse_command`, when the case of its opcode does not test `buffer_len`: over a buffer
that agrees below the cursor where a successful run stopped, it returns 1 with the same record if
that cursor fits, and 0 if the buffer ends before it. -/
theorem parseCommand_stable {s t : ParseState} (h : parseCommand s = .ok () t)
    (hop : ∀ op, Op.ofCode s.frameOpcode = some op → op.testsBufferEnd = false)
    (buf : Nat → UInt8) (len : Nat) :
    (t.pos ≤ len → AgreeBelow t.pos buf s.buffer →
      parseCommand (s.withBuffer buf len) = .ok () (t.withBuffer buf len)) ∧
    (s.pos ≤ len → len < t.pos → AgreeBelow len buf s.buffer →
      ∃ u, parseCommand (s.withBuffer buf len) = .error .incomplete u) := by
  obtain ⟨op, t', hop', hpay, rfl⟩ := parseCommand_eq_ok h
  have hst := stable_parsePayload (hop op hop')
  have h4 : s.pos + 4 ≤ t'.pos := (hst.mono hpay).1
  constructor
  · intro hlen hag
    simp only at hlen
    obtain ⟨hfo, hps⟩ := header_withBuffer buf len (hag.mono h4)
    rw [parseCommand_apply, if_neg (by simp only [ParseState.withBuffer_pos,
      ParseState.withBuffer_bufferLen]; omega), hfo, hop']
    simp only [hps, hst.extend hpay hlen hag]
    rfl
  · intro hs hlen hag
    by_cases h4' : len < s.pos + 4
    · exact ⟨_, by rw [parseCommand_apply, if_pos (by simpa using h4')]⟩
    · obtain ⟨hfo, hps⟩ := header_withBuffer buf len (hag.mono (by omega))
      obtain ⟨u, hu⟩ := hst.truncate hpay (by simp only [ParseState.payloadState]; omega) hlen hag
      exact ⟨u, by
        rw [parseCommand_apply, if_neg (by simpa using h4'), hfo, hop']
        simp only [hps, hu]⟩

theorem bufOf_take {B : List UInt8} {n i : Nat} (hi : i < n) : bufOf (B.take n) i = bufOf B i := by
  simp only [bufOf, List.getD_eq_getElem?_getD, List.getElem?_take, hi, ite_true]

theorem bufOf_append_left {xs S : List UInt8} {i : Nat} (hi : i < xs.length) :
    bufOf (xs ++ S) i = bufOf xs i := by
  simp only [bufOf, List.getD_eq_getElem?_getD, List.getElem?_append_left hi]

/-- A return of 1 comes from a successful run, whose cursor and record it reports. -/
theorem respbParseCommand_eq_one {parser : RespbParser} {cmd : RespbCommand} {p : RespbParser}
    {C : RespbCommand} (h : respbParseCommand parser cmd = some (1, p, C)) :
    ∃ t, parseCommand (.start parser cmd) = .ok () t ∧ p = { parser with pos := t.pos } ∧
      C = t.cmd := by
  unfold respbParseCommand at h
  cases hp : parseCommand (.start parser cmd) with
  | ok _ t =>
    rw [hp] at h
    cases h
    exact ⟨t, rfl, rfl, rfl⟩
  | error e t => rw [hp] at h; cases e <;> simp at h

/-- A frame that `respb_parse_command` accepts from offset 0, unless its case tests
`buffer_len`, is parsed alike whatever follows the `n` bytes it consumed, and every shorter
prefix of it is reported incomplete. -/
theorem respbParseCommand_prefixStable (B : List UInt8) (cmd : RespbCommand) (p : RespbParser)
    (C : RespbCommand)
    (hop : (Op.ofCode (readU16Be (bufOf B 0) (bufOf B 1))).map Op.testsBufferEnd ≠ some true)
    (h : respbParseCommand (respbParserInit (bufOf B) B.length) cmd = some (1, p, C)) :
    (∀ S : List UInt8,
      respbParseCommand (respbParserInit (bufOf (B.take p.pos ++ S)) (B.take p.pos ++ S).length)
        cmd = some (1, { respbParserInit (bufOf (B.take p.pos ++ S))
          (B.take p.pos ++ S).length with pos := p.pos }, C)) ∧
    ∀ k < p.pos, ∃ q c,
      respbParseCommand (respbParserInit (bufOf (B.take k)) (B.take k).length) cmd =
        some (0, q, c) := by
  obtain ⟨t, ht, rfl, rfl⟩ := respbParseCommand_eq_one h
  have hle : t.pos ≤ B.length := by
    have hsafe := parseCommand_safe (.start (respbParserInit (bufOf B) B.length) cmd)
    rw [ht] at hsafe
    exact hsafe.pos_le_len.trans_eq hsafe.bufferLen_eq
  have hop' : ∀ op, Op.ofCode (ParseState.start (respbParserInit (bufOf B) B.length) cmd).frameOpcode
      = some op → op.testsBufferEnd = false := fun op hop₂ => by
    have e : (ParseState.start (respbParserInit (bufOf B) B.length) cmd).frameOpcode =
      readU16Be (bufOf B 0) (bufOf B 1) := rfl
    rw [e] at hop₂
    rw [hop₂] at hop
    simpa using hop
  refine ⟨fun S => ?_, fun k hk => ?_⟩
  · have hrun := (parseCommand_stable ht hop' (bufOf (B.take t.pos ++ S))
      (B.take t.pos ++ S).length).1 (by simp; omega)
      fun i hi => (bufOf_append_left (by simp; omega)).trans (bufOf_take hi)
    have e : (ParseState.start (respbParserInit (bufOf B) B.length) cmd).withBuffer
        (bufOf (B.take t.pos ++ S)) (B.take t.pos ++ S).length =
        .start (respbParserInit (bufOf (B.take t.pos ++ S)) (B.take t.pos ++ S).length) cmd := rfl
    rw [e] at hrun
    exact (respbParseCommand_of_ok hrun :)
  · simp only at hk
    have hk' : (B.take k).length = k := by simp; omega
    obtain ⟨u, hu⟩ := (parseCommand_stable ht hop' (bufOf (B.take k)) (B.take k).length).2
      (Nat.zero_le _) (by simpa [hk'] using hk) fun i hi => bufOf_take (by omega)
    exact ⟨_, _, respbParseCommand_of_incomplete hu⟩

theorem respbParseCommand_prefixStable_get :
    let B := respbHeader .get 0 ++ str2 [97]
    (Op.ofCode (readU16Be (bufOf B 0) (bufOf B 1))).map Op.testsBufferEnd ≠ some true ∧
    ∃ p C, respbParseCommand (respbParserInit (bufOf B) B.length) default = some (1, p, C) ∧
      (∀ S : List UInt8,
        respbParseCommand (respbParserInit (bufOf (B.take p.pos ++ S)) (B.take p.pos ++ S).length)
          default = some (1, { respbParserInit (bufOf (B.take p.pos ++ S))
            (B.take p.pos ++ S).length with pos := p.pos }, C)) ∧
      ∀ k < p.pos, ∃ q c,
        respbParseCommand (respbParserInit (bufOf (B.take k)) (B.take k).length) default =
          some (0, q, c) := by
  intro B
  have hop : (Op.ofCode (readU16Be (bufOf B 0) (bufOf B 1))).map Op.testsBufferEnd ≠ some true := by
    decide
  have hrun : Runs (parsePayload .get) (str2 [97] ++ []) () _ _ :=
    runs_bind (runs_readString2B (by decide) (by decide)) (runs_setArgc 1)
  obtain ⟨C, hC⟩ := @respbParseCommand_of_runs (respbParserInit (bufOf B) B.length) default _ 0 _
    _ _ hrun (by simpa using bytesAt_bufOf B) (by decide)
  exact ⟨hop, _, C, hC, respbParseCommand_prefixStable B default _ C hop hC⟩

/-- HEXPIRE reads its first field whenever a byte follows the fixed fields, whatever `numfields`
says. The 17-byte frame of an empty key with `numfields = 0` parses with 17 bytes consumed, and the
same frame followed by two zero bytes parses with 19: the appended bytes are read as a field. -/
theorem hexpire_appendedBytesRead :
    (respbParseCommand (respbParserInit
        (bufOf (respbHeader .hexpire 0 ++ str2 [] ++ List.replicate 11 0)) 17) default).map
        (fun r => (r.1, r.2.1.pos)) = some (1, 17) ∧
      (respbParseCommand (respbParserInit
        (bufOf (respbHeader .hexpire 0 ++ str2 [] ++ List.replicate 11 0 ++ [0, 0])) 19) default).map
        (fun r => (r.1, r.2.1.pos)) = some (1, 19) := by
  decide

end Command

end ProtocolBench.Respb
