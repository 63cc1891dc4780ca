import ProtocolBench.Respb.Parser

/-!
Bounds safety of `respb_parse_command`. From any cursor at or before `buffer_len`, every case of
the `switch` reads only below `buffer_len` and stores only below `args[RESPB_MAX_ARGS]`; when it
returns 1 the cursor has moved past the header and stayed inside the buffer, and every slot the
call assigned (and `resp_data` of a passthrough frame) is a slice of the bytes it consumed.

Each reading step is shown `Safe` once; `Safe` is closed under `>>=`, `if` and the counted loops,
and every opcode's case is assembled from those lemmas.
-/

namespace ProtocolBench.Respb
open ParseM

/-- `[a.data, a.data + a.len)` lies inside `[lo, hi)`. -/
def SliceWithin (lo hi : Nat) (a : RespbArg) : Prop := lo ≤ a.data ∧ a.data + a.len ≤ hi

/-- The stops of the bounds monitors: a read at or past `buffer_len`, a store past `args`. -/
def ParseStop.IsFault : ParseStop → Prop
  | .bufferOverread | .argsOverflow => True
  | .incomplete | .unknownOpcode => False

/-- What a successful run of part of a case does to the state: the buffer and the header fields
are left alone, the cursor moves forward inside the buffer, and a slot is either left as it was
or assigned a slice of the bytes consumed. -/
structure Advanced (s t : ParseState) : Prop where
  buffer_eq : t.buffer = s.buffer
  bufferLen_eq : t.bufferLen = s.bufferLen
  opcode_eq : t.cmd.opcode = s.cmd.opcode
  pos_le : s.pos ≤ t.pos
  pos_le_len : t.pos ≤ t.bufferLen
  slot : ∀ k, (t.assigned k = s.assigned k ∧ t.cmd.args k = s.cmd.args k) ∨
    (t.assigned k = true ∧ SliceWithin s.pos t.pos (t.cmd.args k))

/-- From any in-bounds cursor, `m` trips no monitor and never moves the cursor back, also when it
returns early; on success it has `Advanced`. -/
structure Safe {α : Type} (m : ParseM α) : Prop where
  run : ∀ s : ParseState, s.pos ≤ s.bufferLen →
    match m s with
    | .ok _ t => Advanced s t
    | .error e t => ¬ e.IsFault ∧ s.pos ≤ t.pos

section Advanced

variable {s t u : ParseState}

theorem Advanced.refl (h : s.pos ≤ s.bufferLen) : Advanced s s :=
  ⟨rfl, rfl, rfl, le_rfl, h, fun _ => .inl ⟨rfl, rfl⟩⟩

theorem Advanced.trans (h₁ : Advanced s t) (h₂ : Advanced t u) : Advanced s u := by
  refine ⟨h₂.buffer_eq.trans h₁.buffer_eq, h₂.bufferLen_eq.trans h₁.bufferLen_eq,
    h₂.opcode_eq.trans h₁.opcode_eq, h₁.pos_le.trans h₂.pos_le, h₂.pos_le_len, fun k => ?_⟩
  rcases h₂.slot k with ⟨ha₂, hk₂⟩ | ⟨ha₂, lo₂, hi₂⟩
  · rcases h₁.slot k with ⟨ha₁, hk₁⟩ | ⟨ha₁, lo₁, hi₁⟩
    · exact .inl ⟨ha₂.trans ha₁, hk₂.trans hk₁⟩
    · exact .inr ⟨ha₂.trans ha₁, hk₂ ▸ lo₁, by rw [hk₂]; exact hi₁.trans h₂.pos_le⟩
  · exact .inr ⟨ha₂, h₁.pos_le.trans lo₂, hi₂⟩

theorem advanced_pos {n : Nat} (h : s.pos + n ≤ s.bufferLen) :
    Advanced s { s with pos := s.pos + n } :=
  ⟨rfl, rfl, rfl, Nat.le_add_right _ _, h, fun _ => .inl ⟨rfl, rfl⟩⟩

theorem advanced_cmd {c : RespbCommand} (h : s.pos ≤ s.bufferLen) (hargs : c.args = s.cmd.args)
    (hop : c.opcode = s.cmd.opcode) : Advanced s { s with cmd := c } :=
  ⟨rfl, rfl, hop, le_rfl, h, fun k => .inl ⟨rfl, congrFun hargs k⟩⟩

/-- A read of a length prefix of `m` bytes and a string of `len` bytes into slot `k`. -/
theorem advanced_storeArg {m len : Nat} (k : Fin respbMaxArgs)
    (h : s.pos + m + len ≤ s.bufferLen) :
    Advanced s ({ s with pos := s.pos + m + len }.storeArg k ⟨s.pos + m, len⟩) := by
  refine ⟨rfl, rfl, rfl, by simp only [ParseState.storeArg_pos]; omega, h, fun j => ?_⟩
  by_cases hj : j = k
  · subst hj
    exact .inr ⟨by simp, by simp [SliceWithin]⟩
  · exact .inl ⟨by simp [hj], by simp [hj]⟩

end Advanced

section Closure

variable {α β : Type}

theorem safe_pure (a : α) : Safe (pure a : ParseM α) := ⟨fun _ hs => Advanced.refl hs⟩

theorem safe_bind {x : ParseM α} {f : α → ParseM β} (hx : Safe x) (hf : ∀ a, Safe (f a)) :
    Safe (x >>= f) := by
  refine ⟨fun s hs => ?_⟩
  have hxs := hx.run s hs
  rw [bind_apply]
  cases hr : x s with
  | ok a u =>
    rw [hr] at hxs
    dsimp only
    have hfu := (hf a).run u hxs.pos_le_len
    cases hr' : f a u with
    | ok b t => rw [hr'] at hfu; exact hxs.trans hfu
    | error e t => rw [hr'] at hfu; exact ⟨hfu.1, hxs.pos_le.trans hfu.2⟩
  | error e u => rw [hr] at hxs; exact hxs

theorem safe_ite {c : Prop} [Decidable c] {m₁ m₂ : ParseM α} (h₁ : c → Safe m₁)
    (h₂ : ¬c → Safe m₂) : Safe (if c then m₁ else m₂) := by
  split
  · next hc => exact h₁ hc
  · next hc => exact h₂ hc

theorem safe_setCmd {f : RespbCommand → RespbCommand} (hargs : ∀ c, (f c).args = c.args)
    (hop : ∀ c, (f c).opcode = c.opcode) : Safe (setCmd f) :=
  ⟨fun _ hs => advanced_cmd hs (hargs _) (hop _)⟩

theorem safe_setArgc (n : Nat) : Safe (setArgc n) :=
  safe_setCmd (fun _ => rfl) (fun _ => rfl)

theorem safe_getPos : Safe getPos := ⟨fun _ hs => Advanced.refl hs⟩

theorem safe_posBeforeEnd : Safe posBeforeEnd := ⟨fun _ hs => Advanced.refl hs⟩

theorem safe_skip (n : Nat) : Safe (skip n) := by
  refine ⟨fun s _ => ?_⟩
  rw [skip_apply]
  split_ifs with h
  · exact ⟨id, le_rfl⟩
  · exact advanced_pos (by omega)

theorem safe_readU8 : Safe readU8 := by
  refine ⟨fun s _ => ?_⟩
  rw [readU8_apply]
  split_ifs with h
  · exact ⟨id, le_rfl⟩
  · exact advanced_pos (by omega)

theorem safe_readU16 : Safe readU16 := by
  refine ⟨fun s _ => ?_⟩
  rw [readU16_apply]
  split_ifs with h
  · exact ⟨id, le_rfl⟩
  · exact advanced_pos (by omega)

theorem safe_readU32 : Safe readU32 := by
  refine ⟨fun s _ => ?_⟩
  rw [readU32_apply]
  split_ifs with h
  · exact ⟨id, le_rfl⟩
  · exact advanced_pos (by omega)

theorem safe_readString2B {k : Nat} (hk : k < respbMaxArgs) : Safe (readString2B k) := by
  refine ⟨fun s _ => ?_⟩
  rw [readString2B_apply]
  split_ifs with h₁ h₂
  · exact ⟨id, le_rfl⟩
  · exact ⟨id, Nat.le_add_right _ _⟩
  · exact advanced_storeArg _ (by omega)

theorem safe_readString4B {k : Nat} (hk : k < respbMaxArgs) : Safe (readString4B k) := by
  refine ⟨fun s _ => ?_⟩
  rw [readString4B_apply]
  split_ifs with h₁ h₂
  · exact ⟨id, le_rfl⟩
  · exact ⟨id, Nat.le_add_right _ _⟩
  · exact advanced_storeArg _ (by omega)

theorem safe_forCountFrom {guard : Nat → Prop} [DecidablePred guard] {body : Nat → ParseM Unit}
    (hbody : ∀ i, guard i → Safe (body i)) (i n : Nat) : Safe (forCountFrom guard body i n) := by
  induction n generalizing i with
  | zero => exact safe_pure ()
  | succ n ih =>
    rw [forCountFrom_succ]
    exact safe_ite (fun hg => safe_bind (hbody i hg) fun _ => ih (i + 1)) fun _ => safe_pure ()

theorem safe_forCount {count : Nat} {guard : Nat → Prop} [DecidablePred guard]
    {body : Nat → ParseM Unit} (hbody : ∀ i, guard i → Safe (body i)) :
    Safe (forCount count guard body) :=
  safe_forCountFrom hbody 0 count

theorem safe_readKeys (first count : Nat) : Safe (readKeys first count) :=
  safe_forCount fun _ hi => safe_readString2B hi

end Closure

section Cases

theorem safe_readNumkeysFirstArg : Safe readNumkeysFirstArg := by
  unfold readNumkeysFirstArg
  dsimp only
  repeat' first
    | with_reducible apply safe_readString2B | with_reducible apply safe_readKeys
    | with_reducible apply safe_readU16 | with_reducible apply safe_setArgc
    | with_reducible apply safe_pure
    | with_reducible apply safe_ite | with_reducible apply safe_bind | (intro _)
    | omega

theorem safe_parseModule : Safe parseModule := by
  unfold parseModule
  dsimp only
  repeat' first
    | with_reducible apply safe_readString2B | with_reducible apply safe_readString4B
    | with_reducible apply safe_readKeys | with_reducible apply safe_readU32
    | with_reducible apply safe_readU16 | with_reducible apply safe_skip
    | with_reducible apply safe_setArgc | with_reducible apply safe_setCmd
    | with_reducible apply safe_ite | with_reducible apply safe_bind | (intro _)
    | rfl | decide

theorem safe_parsePassthrough : Safe parsePassthrough := by
  refine ⟨fun s _ => ?_⟩
  rw [parsePassthrough_apply]
  split_ifs with h₁ h₂
  · exact ⟨id, le_rfl⟩
  · exact ⟨id, Nat.le_add_right _ _⟩
  · exact ⟨rfl, rfl, rfl, by simp only; omega, by simp only; omega, fun _ => .inl ⟨rfl, rfl⟩⟩

/-- Every case of the `switch`. The loop guards keep every slot below `RESPB_MAX_ARGS`; for
XREADGROUP's `args[i * 2 + 3]` under `i * 2 + 2 < RESPB_MAX_ARGS` this rests on the bound being
even. -/
theorem safe_parsePayload (op : Op) : Safe (parsePayload op) := by
  cases op
  case module => exact safe_parseModule
  case respPassthrough => exact safe_parsePassthrough
  all_goals
    first | apply safe_bind | exact safe_setArgc _
    repeat' first
      | with_reducible apply safe_bind | with_reducible apply safe_readString2B
      | with_reducible apply safe_setArgc | with_reducible apply safe_skip
      | with_reducible apply safe_readU16 | with_reducible intro _
      | with_reducible apply safe_readString4B | with_reducible apply safe_forCount
      | with_reducible apply safe_ite | with_reducible apply safe_readKeys
      | with_reducible apply safe_readU8 | with_reducible apply safe_readU32
      | with_reducible apply safe_posBeforeEnd | with_reducible apply safe_pure
      | with_reducible apply safe_readNumkeysFirstArg
      | (simp only [respbMaxArgs] at *; omega)

theorem parsePassthrough_resp {s t : ParseState} (h : parsePassthrough s = .ok () t) :
    SliceWithin s.pos t.pos ⟨t.cmd.respData, t.cmd.respLength.toNat⟩ := by
  rw [parsePassthrough_apply] at h
  split_ifs at h
  cases h
  exact ⟨by simp only; omega, le_rfl⟩

end Cases

/-- `respb_parse_command` trips no monitor, and on success its state is `Advanced` from the one in
which the case began. No bound on the starting cursor is needed: the header's `CHECK_AVAIL`
returns 0 from a cursor past `buffer_len`. -/
theorem parseCommand_safe (s : ParseState) :
    match parseCommand s with
    | .ok _ t => Advanced s.payloadState t
    | .error e _ => ¬ e.IsFault := by
  rw [parseCommand_apply]
  split_ifs with h
  · exact id
  · have hp : s.payloadState.pos ≤ s.payloadState.bufferLen := by
      simp only [ParseState.payloadState]; omega
    cases Op.ofCode s.frameOpcode with
    | none => exact id
    | some op =>
      dsimp only
      have hrun := (safe_parsePayload op).run _ hp
      revert hrun
      cases parsePayload op s.payloadState with
      | ok _ t => exact fun ht => ht.trans (advanced_cmd ht.pos_le_len rfl rfl)
      | error e t => exact fun ht => ht.1

theorem respbParseCommand_inBounds (parser : RespbParser) (cmd : RespbCommand) :
    respbParseCommand parser cmd ≠ none ∧
    ∀ t, parseCommand (.start parser cmd) = .ok () t →
      parser.pos + 4 ≤ t.pos ∧ t.pos ≤ parser.bufferLen ∧
      (∀ k, t.assigned k = true → SliceWithin (parser.pos + 4) t.pos (t.cmd.args k)) ∧
      (t.cmd.opcode = Op.respPassthrough.code →
        SliceWithin (parser.pos + 4) t.pos ⟨t.cmd.respData, t.cmd.respLength.toNat⟩) := by
  have hspec := parseCommand_safe (.start parser cmd)
  constructor
  · unfold respbParseCommand
    revert hspec
    cases parseCommand (.start parser cmd) with
    | ok _ t => exact fun _ => Option.some_ne_none _
    | error e t => cases e <;> simp [ParseStop.IsFault]
  · intro t ht
    rw [ht] at hspec
    refine ⟨hspec.pos_le, hspec.pos_le_len.trans_eq hspec.bufferLen_eq, fun k hk => ?_,
      fun hop => ?_⟩
    · rcases hspec.slot k with ⟨ha, _⟩ | ⟨_, hw⟩
      · rw [hk] at ha; cases ha
      · exact hw
    · have hf : (ParseState.start parser cmd).frameOpcode = Op.respPassthrough.code :=
        hspec.opcode_eq.symm.trans hop
      obtain ⟨op, t', hcode, hrun, rfl⟩ := parseCommand_eq_ok ht
      rw [hf, Op.ofCode_code, Option.some.injEq] at hcode
      subst hcode
      exact parsePassthrough_resp hrun

end ProtocolBench.Respb
