import ProtocolBench.Resp.Driver

/-!
The invariant of the RESP client over every state the benchmark can bring it to: from
`valkey_client_init`, any sequence of `valkey_parse_command` calls, the driver's resets between
commands and between iterations, and appends to `querybuf`. The cursor stays within the buffer,
and while a command is in progress the arguments stored and those still to come add up to its
multibulk count, with room for the stored ones in `argv`. From such a state a call never stores
past the end of `argv` and never overflows while it grows `argv`: the one undefined behaviour
left is the `argc * 2` of the completion.

Each part of the parser gets one lemma, `Safe` of its run from a state of the invariant, and the
lemmas are assembled in the order `parseMultibulk` calls the parts. The statement over every
reachable state, `reachable_clientInvAndSafeCall`, closes `Resp/Stop.lean`, after the cut frames
that bring the client into the middle of a command.
-/

namespace ProtocolBench.Resp
open RespM

/-- The client facts that the parser relies on. `declared` is the multibulk count of the command
in progress. -/
structure ClientInv (c : ValkeyClient) : Prop where
  qbPos_le : c.qbPos ≤ c.querybuf.length
  multibulklen_nonneg : 0 ≤ c.multibulklen
  bulklen_ge : -1 ≤ c.bulklen
  argc_nonneg : 0 ≤ c.argc
  declared_le : c.declared ≤ intMax
  inProgress : 0 < c.multibulklen →
    c.argc + c.multibulklen = c.declared ∧ c.argc ≤ c.argvLen ∧ c.argvLen ≤ intMax

/-- Where a call may stop from a state of the invariant: a failed `assert`, or the `argc * 2` of a
completed command overflowing an `int`. Never a store past the end of `argv`. -/
def StopAllowed : RespStop → ValkeyClient → Prop
  | .assertFailed, _ => True
  | .signedOverflow, c => c.multibulklen = 0 ∧ intMax < c.argc * 2
  | .argvOverflow, _ => False

/-- The result of a step: it returns `a` in a state where `post a` holds, or it stops where
`StopAllowed` lets it. -/
def Safe {α : Type} (post : α → ValkeyClient → Prop) :
    EStateM.Result RespStop ValkeyClient α → Prop
  | .ok a c => post a c
  | .error e c => StopAllowed e c

/-- A part of the parser that returns a flag from inside never returns
`READ_FLAGS_PARSING_COMPLETED`: only the completion does. -/
def NotCompleted : Turn → Prop
  | .ret flag => flag &&& readFlagsParsingCompleted = 0
  | _ => True

variable {c : ValkeyClient}

/-- A complete line at the cursor ends within the buffer. -/
theorem add_two_le_of_not_lineIncomplete {nl : Nat} (hq : c.qbPos ≤ c.querybuf.length)
    (h : ¬ c.lineIncomplete nl) : nl + 2 ≤ c.querybuf.length := by
  simp only [ValkeyClient.lineIncomplete, ValkeyClient.unread, gt_iff_lt, not_lt] at h
  omega

section Steps

theorem notCompleted_ret {flag : Nat} (h : flag &&& readFlagsParsingCompleted = 0) :
    NotCompleted (.ret flag) := h

theorem readMultibulkLen_safe (hi : ClientInv c) :
    Safe (fun t c' => ClientInv c' ∧ NotCompleted t) (readMultibulkLen c) := by
  unfold readMultibulkLen
  split
  · trivial
  split
  · exact ⟨hi, notCompleted_ret (by split <;> decide)⟩
  · next nl _ =>
    split
    · exact ⟨hi, notCompleted_ret (by decide)⟩
    split
    · trivial
    have hnl := add_two_le_of_not_lineIncomplete hi.qbPos_le ‹_›
    dsimp only
    split
    · exact ⟨hi, notCompleted_ret (by decide)⟩
    next ll _ =>
    split
    · exact ⟨hi, notCompleted_ret (by decide)⟩
    split
    · exact ⟨hi, notCompleted_ret (by decide)⟩
    split
    · exact ⟨{ hi with qbPos_le := hnl }, notCompleted_ret (by decide)⟩
    have hargc : c.argc = 0 := by simpa using ‹¬c.argc ≠ 0›
    refine ⟨⟨hnl, by dsimp only; omega, le_refl _, by simp [hargc], by dsimp only; omega,
      fun _ => ⟨by simp [hargc], ?_, ?_⟩⟩, trivial⟩ <;>
    · dsimp only
      unfold intMax at *
      omega

theorem readBulkLen_safe (hi : ClientInv c) :
    Safe (fun t c' => ClientInv c' ∧ NotCompleted t ∧ c'.multibulklen = c.multibulklen ∧
      (t = .cont → 0 ≤ c'.bulklen)) (readBulkLen c) := by
  unfold readBulkLen
  split
  · refine ⟨hi, ?_, rfl, by split <;> simp⟩
    split
    · exact notCompleted_ret (by decide)
    · trivial
  next nl _ =>
  split
  · exact ⟨hi, notCompleted_ret (by decide), rfl, by simp⟩
  split
  · exact ⟨hi, notCompleted_ret (by decide), rfl, by simp⟩
  have hnl := add_two_le_of_not_lineIncomplete hi.qbPos_le ‹_›
  dsimp only
  split
  · exact ⟨hi, notCompleted_ret (by decide), rfl, by simp⟩
  next ll _ =>
  split
  · exact ⟨hi, notCompleted_ret (by decide), rfl, by simp⟩
  split
  · exact ⟨hi, notCompleted_ret (by decide), rfl, by simp⟩
  have hll : 0 ≤ ll := by omega
  split
  · exact ⟨⟨Nat.zero_le _, hi.multibulklen_nonneg, by dsimp only; omega, hi.argc_nonneg, hi.declared_le,
      hi.inProgress⟩, trivial, rfl, fun _ => hll⟩
  · exact ⟨⟨hnl, hi.multibulklen_nonneg, by dsimp only; omega, hi.argc_nonneg, hi.declared_le,
      hi.inProgress⟩, trivial, rfl, fun _ => hll⟩

theorem Safe.weaken {α : Type} {post post' : α → ValkeyClient → Prop}
    {r : EStateM.Result RespStop ValkeyClient α} (hpost : ∀ a c, post a c → post' a c)
    (h : Safe post r) : Safe post' r := by
  cases r with
  | ok a c => exact hpost a c h
  | error e c => exact h

/-- The state after a stored argument keeps the invariant. -/
theorem ClientInv.of_stored {c' : ValkeyClient} {a : List UInt8} (hi : ClientInv c)
    (hm : 0 < c.multibulklen) (hst : Stored c c' a) (hq : c'.qbPos ≤ c'.querybuf.length) :
    ClientInv c' := by
  obtain ⟨hsum, -, -⟩ := hi.inProgress hm
  have h0 := hi.argc_nonneg
  have hlt := hst.argc_lt
  refine ⟨hq, ?_, ?_, ?_, ?_, fun _ => ⟨?_, ?_, hst.argvLen_le⟩⟩ <;>
    simp only [hst.multibulklen, hst.bulklen, hst.argc, hst.declared] <;>
    first | omega | exact hi.declared_le

theorem readBulkArg_safe (hi : ClientInv c) (hm : 0 < c.multibulklen) (hb : 0 ≤ c.bulklen) :
    Safe (fun t c' => ClientInv c' ∧ NotCompleted t) (readBulkArg c) := by
  by_cases hroom : c.unread < (c.bulklen + 2).toNat
  · rw [readBulkArg, if_pos hroom]
    exact ⟨hi, trivial⟩
  obtain ⟨hsum, -, hlen⟩ := hi.inProgress hm
  obtain ⟨c', hrun, hst, hcons, -⟩ := readBulkArg_spec hi.argc_nonneg hm
    (by rw [hsum]; exact hi.declared_le) hlen hb (by omega)
  rw [hrun]
  exact ⟨hi.of_stored hm hst hcons.qbPos_le, trivial⟩

theorem bulkTurn_safe (hi : ClientInv c) (hm : 0 < c.multibulklen) :
    Safe (fun t c' => ClientInv c' ∧ NotCompleted t) (bulkTurn c) := by
  unfold bulkTurn
  split
  · have h := readBulkLen_safe hi
    split
    · next c₁ heq =>
      rw [heq] at h
      obtain ⟨hi₁, -, hm₁, hb₁⟩ := h
      exact readBulkArg_safe hi₁ (hm₁ ▸ hm) (hb₁ rfl)
    · exact h.weaken fun _ _ h => ⟨h.1, h.2.1⟩
  · exact readBulkArg_safe hi hm (by have := hi.bulklen_ge; omega)

theorem bulkLoop_safe (n : Nat) (hi : ClientInv c) :
    Safe (fun t c' => ClientInv c' ∧ NotCompleted t) (bulkLoop n c) := by
  induction n generalizing c with
  | zero => exact ⟨hi, trivial⟩
  | succ n ih =>
    rw [bulkLoop]
    dsimp only
    split
    · exact ⟨hi, trivial⟩
    · have h := bulkTurn_safe hi (lt_of_le_of_ne hi.multibulklen_nonneg (Ne.symm ‹_›))
      split
      · next c₁ heq =>
        rw [heq] at h
        exact ih h.1
      · exact h

/-- What `valkey_parse_command` makes of the flag: 1 only for a completed command. -/
def Reported (flag : Nat) (c : ValkeyClient) : Prop :=
  flag &&& readFlagsParsingCompleted ≠ 0 → c.multibulklen = 0

theorem finishMultibulk_safe (hi : ClientInv c) :
    Safe (fun flag c' => ClientInv c' ∧ Reported flag c') (finishMultibulk c) := by
  by_cases hm : c.multibulklen = 0
  · by_cases hover : intMax < c.argc * 2
    · rw [finishMultibulk_of_overflow hm hover]
      exact ⟨hm, hover⟩
    · rw [finishMultibulk_of_fits hm hi.argc_nonneg (by omega)]
      exact ⟨⟨hi.1, hi.2, hi.3, hi.4, hi.5, hi.6⟩, fun _ => hm⟩
  · rw [finishMultibulk, if_neg hm]
    exact ⟨hi, fun h => absurd (by decide) h⟩

theorem parseMultibulk_safe (hi : ClientInv c) :
    Safe (fun flag c' => ClientInv c' ∧ Reported flag c') (parseMultibulk c) := by
  have h₁ : Safe (fun t c' => ClientInv c' ∧ NotCompleted t)
      (if c.multibulklen = 0 then readMultibulkLen c else .ok .cont c) := by
    split
    · exact readMultibulkLen_safe hi
    · exact ⟨hi, trivial⟩
  unfold parseMultibulk
  split
  · next heq =>
    rw [heq] at h₁
    exact ⟨h₁.1, fun h => absurd h₁.2 h⟩
  · next c₁ _ heq =>
    rw [heq] at h₁
    split
    · have h₂ := bulkLoop_safe c₁.multibulklen.toNat h₁.1
      split
      · next heq₂ =>
        rw [heq₂] at h₂
        exact ⟨h₂.1, fun h => absurd h₂.2 h⟩
      · next heq₂ =>
        rw [heq₂] at h₂
        exact finishMultibulk_safe h₂.1
      · next heq₂ =>
        rw [heq₂] at h₂
        exact h₂
    · trivial
  · next heq =>
    rw [heq] at h₁
    exact h₁

theorem Safe.bind {α β : Type} {x : RespM α} {f : α → RespM β} {post : α → ValkeyClient → Prop}
    {post' : β → ValkeyClient → Prop} (h : Safe post (x c))
    (hf : ∀ a c', post a c' → Safe post' (f a c')) : Safe post' ((x >>= f) c) := by
  show Safe post' (EStateM.bind x f c)
  unfold EStateM.bind
  cases hx : x c with
  | ok a c' =>
    rw [hx] at h
    exact hf a c' h
  | error e c' =>
    rw [hx] at h
    exact h

theorem reportFlag_safe {flag : Nat} (hi : ClientInv c) (hr : Reported flag c) :
    Safe (fun r c' => ClientInv c' ∧ (r = 1 → c'.multibulklen = 0)) (reportFlag flag c) := by
  have hi' : ClientInv { c with readFlags := c.readFlags ||| flag } :=
    ⟨hi.1, hi.2, hi.3, hi.4, hi.5, hi.6⟩
  unfold reportFlag
  dsimp only
  split
  · exact ⟨hi', fun _ => hr ‹_›⟩
  · split <;> exact ⟨hi', fun h => absurd h (by decide)⟩

/-- One call of `valkey_parse_command` from a state of the invariant: it returns in a state of
the invariant, with no command in progress when it returns 1, or it stops where `StopAllowed`
lets it. -/
theorem valkeyParseCommand_safe (hi : ClientInv c) :
    Safe (fun r c' => ClientInv c' ∧ (r = 1 → c'.multibulklen = 0)) (valkeyParseCommand c) := by
  have hcall : ∀ c₁ : ValkeyClient, ClientInv c₁ →
      Safe (fun r c' => ClientInv c' ∧ (r = 1 → c'.multibulklen = 0))
        (if c₁.reqtype = protoReqMultibulk then (parseMultibulk >>= reportFlag) c₁
          else .ok (-1) c₁) := fun c₁ hi₁ => by
    split
    · exact Safe.bind (parseMultibulk_safe hi₁) fun _ _ h => reportFlag_safe h.1 h.2
    · exact ⟨hi₁, fun h => absurd h (by decide)⟩
  unfold valkeyParseCommand
  split
  · exact ⟨hi, fun h => absurd h (by decide)⟩
  dsimp only
  split
  · exact hcall _ ⟨hi.1, hi.2, hi.3, hi.4, hi.5, hi.6⟩
  · exact hcall c hi

end Steps

/-- `sdscatlen(c->querybuf, buf, len)`: more input at the end of the query buffer. -/
def ValkeyClient.appendInput (c : ValkeyClient) (bytes : List UInt8) : ValkeyClient :=
  { c with querybuf := c.querybuf ++ bytes }

/-- The client states the benchmark can bring the parser to: `valkey_client_init`, then, in any
order, calls of `valkey_parse_command`, the driver's reset between commands (when none is in
progress) and at the start of an iteration, and appends to `querybuf`. -/
inductive Reachable : ValkeyClient → Prop
  | init (buf : List UInt8) : Reachable (valkeyClientInit buf)
  | parse {c c' : ValkeyClient} {r : Int} :
      Reachable c → valkeyParseCommand c = .ok r c' → Reachable c'
  | resetCommand {c : ValkeyClient} : Reachable c → c.multibulklen = 0 → Reachable (resetCommand c)
  | resetIteration {c : ValkeyClient} : Reachable c → Reachable (resetIteration c)
  | appendInput {c : ValkeyClient} (bytes : List UInt8) :
      Reachable c → Reachable (c.appendInput bytes)

theorem Reachable.clientInv (h : Reachable c) : ClientInv c := by
  induction h with
  | init buf =>
    exact ⟨Nat.zero_le _, le_rfl, by simp [valkeyClientInit], le_rfl, by simp [valkeyClientInit, intMax],
      fun h => absurd h (lt_irrefl _)⟩
  | parse _ heq ih =>
    have h := valkeyParseCommand_safe ih
    rw [heq] at h
    exact h.1
  | resetCommand _ hm ih => exact ⟨ih.1, ih.2, ih.3, le_rfl, ih.5, fun h => absurd hm (ne_of_gt h)⟩
  | resetIteration _ ih => exact ⟨Nat.zero_le _, le_rfl, le_rfl, le_rfl, ih.5, fun h => absurd h (lt_irrefl _)⟩
  | appendInput bytes _ ih =>
    refine ⟨?_, ih.2, ih.3, ih.4, ih.5, ih.6⟩
    simp only [ValkeyClient.appendInput, List.length_append]
    exact le_add_right ih.1

section Replay

/-- How the inner loop of the replay may end from a reachable state: at a reachable state, or
stopped anywhere but at a store past the end of `argv`. -/
def LoopEnd.Allowed : LoopEnd → Prop
  | .exit c _ => Reachable c
  | .stop e => e ≠ .argvOverflow
  | _ => True

theorem commandLoop_allowed (fuel : Nat) (h : Reachable c) (m : Metrics) :
    (commandLoop fuel c m).Allowed := by
  induction fuel generalizing c m with
  | zero => trivial
  | succ fuel ih =>
    rw [commandLoop]
    split
    · have hs := valkeyParseCommand_safe h.clientInv
      split
      · next r c' heq =>
        rw [heq] at hs
        have hc' : Reachable c' := .parse h heq
        split
        · exact ih (.resetCommand hc' (hs.2 ‹_›)) _
        · split
          · exact hc'
          · trivial
      · next e c' heq =>
        rw [heq] at hs
        rintro rfl
        exact hs
    · exact h

theorem iterationLoop_ne_argvOverflow (fuel i : Nat) (h : Reachable c) (m : Metrics) :
    iterationLoop fuel i c m ≠ .stop .argvOverflow := by
  induction i generalizing c m with
  | zero => simp [iterationLoop]
  | succ i ih =>
    have hl := commandLoop_allowed fuel (.resetIteration h) m
    rw [iterationLoop]
    split
    · next heq =>
      rw [heq] at hl
      exact ih hl _
    · simp
    · next e heq =>
      rw [heq] at hl
      simpa using hl
    · simp

/-- The replay of any workload, for any number of iterations, never stores an argument past the
end of `argv`. -/
theorem benchmarkRespParsing_ne_argvOverflow (fuel : Nat) (wl : List UInt8) (iterations : Nat) :
    benchmarkRespParsing fuel wl iterations ≠ .stop .argvOverflow :=
  iterationLoop_ne_argvOverflow fuel iterations (.init wl) _

end Replay

end ProtocolBench.Resp
