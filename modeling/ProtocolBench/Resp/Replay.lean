import ProtocolBench.Resp.Driver

/-!
The replay of a workload that is a sequence of well-formed commands. From a client between
commands, each call of `valkey_parse_command` reads one whole frame, so each turn of the inner
loop counts one command and its bytes, and the loop ends when the cursor reaches
`querybuf_peak`. The one exception is a workload whose last argument is big: the parser then
captures the buffer instead of copying the argument (see `replay_bigArgCountedOnce`).
-/

namespace ProtocolBench.Resp

/-- A command one call reads whole: one to `2^30 - 1` arguments of at most 512 MiB each. -/
def WellSized (args : List (List UInt8)) : Prop :=
  0 < args.length ∧ args.length < 2 ^ 30 ∧ ∀ a ∈ args, a.length ≤ 512 * 1024 * 1024

instance : DecidablePred WellSized := fun _ => inferInstanceAs (Decidable (_ ∧ _))

instance (args : List (List UInt8)) (S : List UInt8) : Decidable (capturesLast args S) :=
  inferInstanceAs (Decidable (_ ∧ _))

/-- The counters after counting the frames `fs` one after the other. -/
def Metrics.countFrames (m : Metrics) (fs : List (List UInt8)) : Metrics :=
  fs.foldl (fun m F => m.count 0 F.length) m

/-- A command counted from any cursor is counted as from offset 0. -/
theorem Metrics.count_add (m : Metrics) (p k : Nat) : m.count p (p + k) = m.count 0 k := by
  simp only [Metrics.count, Nat.add_assoc, Nat.add_sub_cancel_left, Nat.sub_zero]

/-- Counting frames from counters below `2^64`: each counter grows by the frames and their bytes,
modulo `2^64`. -/
theorem Metrics.countFrames_eq : ∀ (fs : List (List UInt8)) (m : Metrics),
    m.commandsProcessed < wordMod → m.bytesProcessed < wordMod →
    m.countFrames fs = ⟨(m.commandsProcessed + fs.length) % wordMod,
      (m.bytesProcessed + fs.flatten.length) % wordMod⟩
  | [], ⟨c, b⟩, hc, hb => by simp [countFrames, Nat.mod_eq_of_lt hc, Nat.mod_eq_of_lt hb]
  | F :: fs, m, _, _ => by
    rw [countFrames, List.foldl_cons, ← countFrames,
      countFrames_eq fs _ (Nat.mod_lt _ (by decide)) (Nat.mod_lt _ (by decide))]
    simp only [Metrics.count, List.length_cons, List.flatten_cons, List.length_append,
      Metrics.mk.injEq]
    unfold wordMod
    omega

/-- An iteration that adds `k` to a counter below `2^64`, after `i` that each added `k`. -/
theorem mod_add_mul_succ (x k i : Nat) :
    ((x + k) % wordMod + i * k) % wordMod = (x + (i + 1) * k) % wordMod := by
  rw [Nat.succ_mul]
  generalize i * k = a
  unfold wordMod
  omega

/-- The client between two commands of a replay: none in progress, the reset after the last one
done, neither flag that changes the parse set, and `querybuf_peak` the length of the buffer. -/
structure Idle (c : ValkeyClient) : Prop where
  multibulklen : c.multibulklen = 0
  argc : c.argc = 0
  reqtype : c.reqtype = 0
  replicated : c.isReplicated = false
  auth : c.authRequired = false
  peak : c.querybufPeak = c.querybuf.length

/-- The completion flag leaves the flags that change the parse as they were. -/
theorem readFlags_or_completed_and {r f : Nat} (hf : readFlagsParsingCompleted &&& f = 0) :
    (r ||| readFlagsParsingCompleted) &&& f = r &&& f := by
  rw [Nat.and_distrib_right, hf, Nat.or_zero]

/-- Each iteration starts from an idle client. -/
theorem idle_resetIteration {c : ValkeyClient} (hp : c.querybufPeak = c.querybuf.length) :
    Idle (resetIteration c) :=
  ⟨rfl, rfl, rfl, by simp [ValkeyClient.isReplicated, resetIteration],
    by simp [ValkeyClient.authRequired, resetIteration], hp⟩

/-- A workload tail at which an iteration's loop ends with the buffer kept: nothing, or bytes on
which a call from an idle client returns 0 and leaves the buffer and `querybuf_peak` alone. -/
def EndsCommandLoop (T : List UInt8) : Prop :=
  T = [] ∨ ∀ c, Idle c → c.rest = T → ∃ c', valkeyParseCommand c = .ok 0 c' ∧
    c'.querybuf = c.querybuf ∧ c'.querybufPeak = c.querybufPeak

/-- The loop over a workload whose unread part is the frames of the commands `cmds` and a tail `T`
that ends the loop, the last frame not ending the workload with a big argument: each turn reads
one frame and counts it, and the loop ends at the tail with the buffer kept, given a turn per
command and one more. -/
theorem commandLoop_frames {T : List UInt8} (hT : EndsCommandLoop T) :
    ∀ (cmds : List (List (List UInt8))) (c : ValkeyClient) (m : Metrics) (fuel : Nat),
    (∀ args ∈ cmds, WellSized args) → (T = [] → ∀ args ∈ cmds.getLast?, ¬ capturesLast args []) →
    Idle c → c.rest = (cmds.map multibulk).flatten ++ T → cmds.length < fuel →
    ∃ c', commandLoop fuel c m = .exit c' (m.countFrames (cmds.map multibulk)) ∧
      c'.querybuf = c.querybuf ∧ c'.querybufPeak = c.querybufPeak
  | [], c, m, fuel, _, _, hi, hrest, hfuel => by
    obtain ⟨f, rfl⟩ : ∃ f, fuel = f + 1 := ⟨fuel - 1, by simp at hfuel; omega⟩
    rw [List.map_nil, List.flatten_nil, List.nil_append] at hrest
    rw [commandLoop]
    split_ifs with hmore
    · obtain ⟨c', hp, hq, hpeak⟩ : ∃ c', valkeyParseCommand c = .ok 0 c' ∧
          c'.querybuf = c.querybuf ∧ c'.querybufPeak = c.querybufPeak := by
        rcases hT with rfl | hstop
        · simp only [ValkeyClient.rest, List.drop_eq_nil_iff] at hrest
          rw [hi.peak] at hmore
          omega
        · exact hstop c hi hrest
      rw [hp]
      exact ⟨c', rfl, hq, hpeak⟩
    · exact ⟨c, rfl, rfl, rfl⟩
  | args :: cmds, c, m, fuel, hok, hlast, hi, hrest, hfuel => by
    obtain ⟨f, rfl⟩ : ∃ f, fuel = f + 1 := ⟨fuel - 1, by simp at hfuel; omega⟩
    obtain ⟨hn, hsmall, hargs⟩ := hok args (List.mem_cons_self _ _)
    rw [List.map_cons, List.flatten_cons, List.append_assoc] at hrest
    obtain ⟨c', hp, hargc, -, hrest', -, hm, -, hreq, hflags, hcons, hkept, -⟩ :=
      valkeyParseCommand_frame hi.multibulklen hi.argc hi.reqtype hi.replicated hi.auth hn hsmall
        hargs hrest
    -- only the last frame is followed by nothing, and it does not end with a big argument
    have hnot : ¬ capturesLast args ((cmds.map multibulk).flatten ++ T) := by
      rintro ⟨he, hbig⟩
      obtain ⟨hfl, rfl⟩ := List.append_eq_nil.1 he
      cases cmds with
      | nil => exact hlast rfl args rfl ⟨rfl, hbig⟩
      | cons b bs =>
        simp only [List.map_cons, List.flatten_cons, List.append_eq_nil] at hfl
        exact List.append_ne_nil_of_left_ne_nil (by simp [multibulk, lengthLine]) _ hfl.1
    obtain ⟨hq, hpeak⟩ := hkept hnot
    have hpos := hcons.qbPos_of_kept hq
    have hmore : c.qbPos < c.querybufPeak := by
      have := congrArg List.length hrest
      simp only [ValkeyClient.rest, List.length_drop, List.length_append] at this
      rw [hi.peak]
      have : 0 < (multibulk args).length := by simp [multibulk, lengthLine]
      omega
    have hi' : Idle (resetCommand c') := by
      refine ⟨hm, rfl, hreq, ?_, ?_, show c'.querybufPeak = c'.querybuf.length by rw [hpeak, hq]; exact hi.peak⟩
      · simpa [ValkeyClient.isReplicated, resetCommand, hflags,
          readFlags_or_completed_and (by decide : readFlagsParsingCompleted &&& readFlagsReplicated = 0)]
          using hi.replicated
      · simpa [ValkeyClient.authRequired, resetCommand, hflags,
          readFlags_or_completed_and (by decide : readFlagsParsingCompleted &&& readFlagsAuthRequired = 0)]
          using hi.auth
    obtain ⟨c'', hloop, hq'', hpeak''⟩ := commandLoop_frames hT cmds (resetCommand c')
      (m.count 0 (multibulk args).length) f (fun a ha => hok a (List.mem_cons_of_mem _ ha))
      (fun hT a ha => hlast hT a (by cases cmds with
        | nil => simp at ha
        | cons b bs => simpa [List.getLast?_cons_cons] using ha)) hi' hrest' (by simp at hfuel; omega)
    refine ⟨c'', ?_, hq''.trans hq, hpeak''.trans hpeak⟩
    rw [commandLoop, if_pos hmore, hp]
    dsimp only
    rw [if_pos rfl, hpos, Metrics.count_add]
    exact hloop

/-- Every iteration over a workload that is the frames of the commands `cmds` and a tail that
ends the loop counts each command and its bytes. -/
theorem iterationLoop_frames {cmds : List (List (List UInt8))} (hok : ∀ args ∈ cmds, WellSized args)
    {T : List UInt8} (hT : EndsCommandLoop T)
    (hlast : T = [] → ∀ args ∈ cmds.getLast?, ¬ capturesLast args []) {fuel : Nat}
    (hfuel : cmds.length < fuel) :
    ∀ (i : Nat) (c : ValkeyClient) (m : Metrics), c.querybuf = (cmds.map multibulk).flatten ++ T →
      c.querybufPeak = c.querybuf.length →
      m.commandsProcessed < wordMod → m.bytesProcessed < wordMod →
      iterationLoop fuel i c m = .ret 1 ⟨(m.commandsProcessed + i * cmds.length) % wordMod,
        (m.bytesProcessed + i * (cmds.map multibulk).flatten.length) % wordMod⟩
  | 0, _, ⟨c, b⟩, _, _, hc, hb => by simp [iterationLoop, Nat.mod_eq_of_lt hc, Nat.mod_eq_of_lt hb]
  | i + 1, c, m, hq, hp, hc, hb => by
    obtain ⟨c', hloop, hq', hp'⟩ := commandLoop_frames hT cmds (resetIteration c) m fuel hok hlast
      (idle_resetIteration hp) (by simp [ValkeyClient.rest, resetIteration, hq]) hfuel
    have hcount := Metrics.countFrames_eq (cmds.map multibulk) m hc hb
    rw [iterationLoop, hloop]
    dsimp only
    rw [iterationLoop_frames hok hT hlast hfuel i c' _ (hq'.trans hq) (by rw [hp', hq']; exact hp)
      (by rw [hcount]; exact Nat.mod_lt _ (by decide)) (by rw [hcount]; exact Nat.mod_lt _ (by decide)),
      hcount, List.length_map, mod_add_mul_succ, mod_add_mul_succ]

/-- `benchmark_resp_parsing` on a workload that is the frames of commands of one to `2^30 - 1`
arguments of at most 512 MiB each, whose last argument is not big: with a turn per command and
one more, it returns 1 having counted every command and all of its bytes in each iteration,
modulo `2^64`. -/
theorem benchmarkRespParsing_countsEveryCommand (cmds : List (List (List UInt8)))
    (hok : ∀ args ∈ cmds, WellSized args) (hlast : ∀ args ∈ cmds.getLast?, ¬ capturesLast args [])
    (fuel iterations : Nat) (hfuel : cmds.length < fuel) :
    let wl := (cmds.map multibulk).flatten
    benchmarkRespParsing fuel wl iterations =
      .ret 1 ⟨iterations * cmds.length % wordMod, iterations * wl.length % wordMod⟩ := by
  intro wl
  rw [benchmarkRespParsing, iterationLoop_frames hok (.inl rfl) (fun _ => hlast) hfuel iterations _ _
    (List.append_nil _).symm rfl (by decide) (by decide), Nat.zero_add, Nat.zero_add]

theorem benchmarkRespParsing_countsEveryCommand_getSet :
    let cmds : List (List (List UInt8)) := [[[71, 69, 84], [107]], [[83, 69, 84], [107], [118]]]
    (∀ args ∈ cmds, WellSized args) ∧ (∀ args ∈ cmds.getLast?, ¬ capturesLast args []) ∧
    cmds.length < 3 ∧
    benchmarkRespParsing 3 (cmds.map multibulk).flatten 10 =
      .ret 1 ⟨10 * cmds.length % wordMod, 10 * (cmds.map multibulk).flatten.length % wordMod⟩ :=
  ⟨by decide, by decide, by decide,
    benchmarkRespParsing_countsEveryCommand _ (by decide) (by decide) 3 10 (by decide)⟩

end ProtocolBench.Resp
